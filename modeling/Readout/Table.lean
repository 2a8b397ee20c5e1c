import Readout.Binary64.Rounding

/-!
# Tables

A table has named columns and rows of data. A column is read as a whole: where
some of its numbers are real or missing, all of them are real, and a missing one
is no number.
-/

namespace Readout

/-- The content of one field of a table. -/
inductive Datum
  | missing
  | flag (value : Bool)
  | integer (value : Int)
  | real (value : Binary64)
  | text (value : String)
  deriving DecidableEq, Repr

namespace Datum

/-- The real number that a numeric datum becomes in a column of reals. Integers
beyond a word are not taken into such a column. -/
def toReal? : Datum → Option Binary64
  | .missing => some Binary64.nan
  | .real value => some value
  | .integer value =>
      if -Nat.pow 2 63 ≤ value ∧ value < Nat.pow 2 64 then Binary64.ofInt? value
      else none
  | .flag _ => none
  | .text _ => none

/-- Whether a datum is an integer. -/
def isInteger : Datum → Bool
  | .integer _ => true
  | _ => false

/-- Whether a datum is missing. -/
def isMissing : Datum → Bool
  | .missing => true
  | _ => false

end Datum

/-- Named columns above rows of data. -/
structure Table where
  /-- The names of the columns, left to right. -/
  columns : List String
  /-- The rows, top to bottom. -/
  rows : List (List Datum)
  deriving DecidableEq, Repr

namespace Table

/-- Whether a table has no field at all. -/
def isEmpty (table : Table) : Bool :=
  table.columns.isEmpty || table.rows.isEmpty

/-- The table of the same form that holds the same datum everywhere. -/
def fill (table : Table) (datum : Datum) : Table :=
  ⟨table.columns, table.rows.map fun row => row.map fun _ => datum⟩

/-- Bring the data of a column to one kind. A column of integers alone and a
column with nothing but missing data stay as they are. -/
def unify (column : List Datum) : List Datum :=
  if column.all Datum.isInteger || column.all Datum.isMissing then column
  else ((column.mapM Datum.toReal?).map (·.map Datum.real)).getD column

/-- The data of a named column, top to bottom. -/
def column? (table : Table) (name : String) : Option (List Datum) :=
  (table.columns.idxOf? name).map fun index =>
    unify (table.rows.map fun row => row.getD index .missing)

end Table
end Readout
