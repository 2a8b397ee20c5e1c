import Readout.Table

/-!
# Figures

A figure overlays traces, each of which pairs the data of two columns row by
row, under a title and two axis titles.
-/

namespace Readout

/-- How the points of a trace are drawn. -/
inductive TraceStyle
  /-- Upright bars of one colour. -/
  | bars (color : String) (opacity : Binary64)
  /-- Points in a given mode, joined by a line of one colour. -/
  | scatter (mode lineColor : String) (lineWidth : Int)
  deriving DecidableEq, Repr

/-- One series of points. -/
structure Trace where
  /-- The name in the legend. -/
  name : String
  /-- The horizontal coordinates. -/
  x : List Datum
  /-- The vertical coordinates. -/
  y : List Datum
  /-- How the points are drawn. -/
  style : TraceStyle
  deriving DecidableEq, Repr

/-- Traces under common titles. -/
structure Figure where
  /-- The title of the whole. -/
  title : String
  /-- The title of the horizontal axis. -/
  xTitle : String
  /-- The title of the vertical axis. -/
  yTitle : String
  /-- The traces, lowest first. -/
  traces : List Trace
  deriving DecidableEq, Repr

end Readout
