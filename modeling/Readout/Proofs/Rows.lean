import Mathlib.Data.List.Nodup
import Readout.Proofs.Views
import Readout.WidthSummary

/-!
# The rows of a summary

An entry with samples that are numbers, at least one of them, and with a width
that is read as an integer has a row. The rows of all entries are sorted by width,
strictly if no width comes up twice, and none is lost or added by that.
-/

namespace Readout

namespace Statistics

/-- Samples have a percentile unless there are none. -/
theorem exists_percentile [Arithmetic α] {samples : List α} (nonempty : samples ≠ []) :
    ∃ percentile, percentile? samples = some percentile := by
  unfold percentile?
  split
  · exact ⟨_, rfl⟩
  · have sortedNonempty : ascending samples ≠ [] := by
      rwa [ne_eq, ← List.length_eq_zero_iff, ascending, List.length_mergeSort,
        List.length_eq_zero_iff]
    simp only [List.getLast?_eq_some_getLast sortedNonempty]
    exact ⟨_, rfl⟩

@[simp] theorem length_microseconds [Arithmetic α] (seconds : List α) :
    (microseconds seconds).length = seconds.length :=
  List.length_map _

/-- Samples in microseconds are as many as in seconds, so there are some. -/
theorem microseconds_ne_nil
    [Arithmetic α]
    {seconds : List α}
    (nonempty : seconds ≠ []) :
    microseconds seconds ≠ [] := by
  rwa [ne_eq, ← List.length_eq_zero_iff, length_microseconds, List.length_eq_zero_iff]

end Statistics

namespace WidthRow

/-- The row of a width whose samples are these numbers of seconds. -/
def ofSeconds (width : Int) (seconds : List Binary64) : WidthRow where
  width
  calls := seconds.length
  mean := Statistics.mean (Statistics.microseconds seconds)
  percentile :=
    (Statistics.percentile? (Statistics.microseconds seconds)).getD Binary64.nan

/-- An entry whose samples and whose width are numbers has a row. -/
theorem ofEntry_of_seconds
    {entry : Value × List Sample}
    {width : Int}
    {seconds : List Binary64}
    (converted : entry.2.mapM Sample.toReal = .ok seconds)
    (read : entry.1.toInteger = .ok width)
    (nonempty : seconds ≠ []) :
    ofEntry entry = .ok (ofSeconds width seconds) := by
  obtain ⟨percentile, found⟩ :=
    Statistics.exists_percentile (Statistics.microseconds_ne_nil nonempty)
  simp only [ofEntry, converted, read, bind, Except.bind, found, ofSeconds,
    Statistics.length_microseconds, Option.getD_some]
  rfl

/-- Samples that are real numbers are these numbers. -/
theorem mapM_toReal_real (seconds : List Binary64) :
    (seconds.map Sample.real).mapM Sample.toReal = .ok seconds := by
  rw [mapM_eq_ok_iff, List.forall₂_map_left_iff, List.forall₂_same]
  exact fun second _ => rfl

end WidthRow

namespace WidthSummary

/-- The rows of entries with different widths are sorted strictly by width. -/
theorem exists_rows
    {entries : List (Value × List Sample)}
    {unsorted : List WidthRow}
    (summarised : entries.mapM WidthRow.ofEntry = .ok unsorted)
    (distinct : (unsorted.map WidthRow.width).Nodup) :
    ∃ sorted, rows entries = .ok sorted ∧ sorted.Perm unsorted ∧
      (sorted.map WidthRow.width).Pairwise (· < ·) := by
  have rearranged := List.mergeSort_perm unsorted
    fun left right => decide (left.width ≤ right.width)
  have transitive (low middle high : WidthRow)
      (lower : decide (low.width ≤ middle.width) = true)
      (upper : decide (middle.width ≤ high.width) = true) :
      decide (low.width ≤ high.width) = true := by
    rw [decide_eq_true_iff] at lower upper ⊢
    exact Int.le_trans lower upper
  have total (left right : WidthRow) :
      (decide (left.width ≤ right.width) || decide (right.width ≤ left.width)) =
        true := by
    rw [Bool.or_eq_true, decide_eq_true_iff, decide_eq_true_iff]
    exact Int.le_total left.width right.width
  have ascending := List.pairwise_mergeSort transitive total unsorted
  have different := (rearranged.map WidthRow.width).nodup_iff.mpr distinct
  refine ⟨_, ?_, rearranged, ?_⟩
  · rw [rows, summarised]
    rfl
  · rw [List.pairwise_map]
    refine List.Pairwise.imp₂ ?_ ascending (List.pairwise_map.mp different)
    intro left right atMost notSame
    exact Int.lt_iff_le_and_ne.mpr ⟨of_decide_eq_true atMost, notSame⟩

end WidthSummary
end Readout
