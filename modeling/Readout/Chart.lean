import Readout.Session

/-!
# The chart of timings

The mean of each width is a bar, and the 95th percentiles are joined by a line.
A table without rows or columns has no chart.
-/

namespace Readout
namespace Chart

/-- The bars of the mean. -/
def meanStyle : TraceStyle :=
  .bars "steelblue" ⟨0x3fe3333333333333⟩

/-- The line of the percentile. -/
def percentileStyle : TraceStyle :=
  .scatter "lines+markers" "firebrick" 2

/-- The chart of three columns. -/
def figure (width mean percentile : List Datum) : Figure where
  title := "Round-trip time per bit width"
  xTitle := "bit width"
  yTitle := "microseconds"
  traces :=
    [ ⟨"mean", width, mean, meanStyle⟩,
      ⟨"p95", width, percentile, percentileStyle⟩ ]

/-- The data of a column that a table has to have. -/
def column (table : Table) (name : String) : Except Fault (List Datum) :=
  match table.column? name with
  | some data => .ok data
  | none => .error (.noColumn name)

/-- The chart of a table. -/
def ofTable (table : Table) : Except Fault Figure := do
  let width ← column table "width"
  let mean ← column table "mean_us"
  let percentile ← column table "p95_us"
  return figure width mean percentile

/-- Show the chart of a table, or say that there is none. -/
def draw (table : Option Table) : Session (Option Figure) :=
  match table.filter (!·.isEmpty) with
  | none => do
      Session.print "Nothing to plot."
      return none
  | some table => do
      let drawn ← Session.ofExcept (ofTable table)
      Session.display drawn
      return some drawn

end Chart
end Readout
