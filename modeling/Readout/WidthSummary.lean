import Readout.Ledger
import Readout.Statistics.Summary
import Readout.Table
import Readout.Value.Key
import Readout.Value.Number
import Readout.Widening

/-!
# Timings by width

The timings of each width are summarised in one row: how many there are, their
mean and their 95th percentile in microseconds. Rows are sorted by width. The
first entry that cannot be summarised decides how the summary fails; within an
entry its samples are looked at first, then its width, then their number.
-/

namespace Readout

/-- A measured time in seconds. -/
inductive Sample
  | real (value : Binary64)
  | integer (value : Int)
  | flag (value : Bool)
  | missing
  deriving DecidableEq, Repr

/-- A measured time as a real number; a missing one is no number. -/
def Sample.toReal : Sample → Except Fault Binary64
  | .real value => .ok value
  | .integer value => Widening.realOfInteger value
  | .flag value => Widening.realOfInteger value.toInt
  | .missing => .ok Binary64.nan

/-- The timings of one width in short. -/
structure WidthRow where
  /-- The width. -/
  width : Int
  /-- The number of samples. -/
  calls : Nat
  /-- The mean in microseconds. -/
  mean : Binary64
  /-- The 95th percentile in microseconds. -/
  percentile : Binary64
  deriving DecidableEq, Repr

namespace WidthRow

/-- Summarise the samples of one width. -/
def ofEntry (entry : Value × List Sample) : Except Fault WidthRow := do
  let seconds ← entry.2.mapM Sample.toReal
  let width ← entry.1.toInteger
  let times := Statistics.microseconds seconds
  match Statistics.percentile? times with
  | some percentile =>
      return ⟨width, times.length, Statistics.mean times, percentile⟩
  | none => .error .noSamples

/-- The fields of a row of a table. -/
def fields (row : WidthRow) : List Datum :=
  [.integer row.width, .integer row.calls, .real row.mean, .real row.percentile]

end WidthRow

namespace WidthSummary

/-- Samples under the values that stand for their widths. -/
abbrev Timings : Type :=
  Ledger Value.sameKey (List Sample)

/-- The rows of all entries, in ascending order of their widths. -/
def rows (entries : List (Value × List Sample)) : Except Fault (List WidthRow) := do
  let unsorted ← entries.mapM WidthRow.ofEntry
  return unsorted.mergeSort fun left right => left.width ≤ right.width

/-- The names of the columns. -/
def columns : List String :=
  ["width", "calls", "mean_us", "p95_us"]

/-- Rows as a table. -/
def table (rows : List WidthRow) : Table :=
  ⟨columns, rows.map WidthRow.fields⟩

/-- The table of entries. -/
def ofEntries (entries : List (Value × List Sample)) : Except Fault Table :=
  (rows entries).map table

/-- The table of all widths. -/
def ofTimings (timings : Timings) : Except Fault Table :=
  ofEntries timings.toList

/-- Values other than the report of a benchmark have no timings to summarise. -/
def ofValue : Value → Except Fault Table
  | .mapping _ => .error (.noColumn "timings")
  | .table _ => .error (.noColumn "timings")
  | value => .error (.noParts value.qualifiedKind)

end WidthSummary
end Readout
