import Mathlib.Data.List.Perm.Basic
import Readout.Proofs.Entries

/-!
# Summaries do not depend on the order of their timings

Where no two widths of the timings denote the same integer, the rows of a summary are
sorted strictly by width, and there is one row for each entry. There is only one such
arrangement of the rows, so neither the order of the timings nor the way of sorting
shows in the table.
-/

namespace Readout

/-- Two entries denote no common width exactly if their rows have different widths. -/
theorem WidthRow.Summarises.width_ne_iff
    {left right : WidthRow}
    {first second : Value × List Sample}
    (ofFirst : left.Summarises first)
    (ofSecond : right.Summarises second) :
    (∀ width, first.1.Denotes width → ¬second.1.Denotes width) ↔
      left.width ≠ right.width := by
  constructor
  · intro apart same
    exact apart left.width ofFirst.width (same ▸ ofSecond.width)
  · intro different width ofWidth otherOfWidth
    exact different ((ofFirst.width.unique ofWidth).trans
      (otherOfWidth.unique ofSecond.width))

namespace WidthSummary

section Entries

variable {entries : List (Value × List Sample)} {unsorted : List WidthRow}

/-- Each entry has the row at its place. -/
abbrev Summarised (entries : List (Value × List Sample)) (rows : List WidthRow) : Prop :=
  List.Forall₂ (fun entry row => row.Summarises entry) entries rows

theorem mapM_ofEntry_eq_ok_iff :
    entries.mapM WidthRow.ofEntry = .ok unsorted ↔ Summarised entries unsorted := by
  simp only [mapM_eq_ok_iff, WidthRow.ofEntry_eq_ok_iff]

/-- No two entries denote the same width. -/
def DistinctWidths (entries : List (Value × List Sample)) : Prop :=
  entries.Pairwise fun left right =>
    ∀ width, left.1.Denotes width → ¬right.1.Denotes width

/-- What holds of an entry exactly if it shows in its row holds of all entries exactly
if it shows in all rows. -/
theorem Summarised.forall_iff
    {holds : Value × List Sample → Prop}
    {shows : WidthRow → Prop}
    (summarised : Summarised entries unsorted)
    (same : ∀ entry row, row.Summarises entry → (holds entry ↔ shows row)) :
    (∀ entry ∈ entries, holds entry) ↔ ∀ row ∈ unsorted, shows row := by
  induction summarised with
  | nil => exact ⟨nofun, nofun⟩
  | cons summarises _ inductionHypothesis =>
      rw [List.forall_mem_cons, List.forall_mem_cons, inductionHypothesis,
        same _ _ summarises]

/-- Entries denote different widths exactly if their rows have different widths. -/
theorem Summarised.distinctWidths_iff (summarised : Summarised entries unsorted) :
    DistinctWidths entries ↔ (unsorted.map WidthRow.width).Nodup := by
  rw [List.Nodup, List.pairwise_map]
  induction summarised with
  | nil => exact ⟨fun _ => List.Pairwise.nil, fun _ => List.Pairwise.nil⟩
  | cons summarises others inductionHypothesis =>
      rw [DistinctWidths, List.pairwise_cons, List.pairwise_cons]
      refine and_congr ?_ inductionHypothesis
      exact Summarised.forall_iff others fun _ _ otherSummarises =>
        summarises.width_ne_iff otherSummarises

/-- Rows with different widths have one arrangement by ascending width. -/
theorem eq_of_ascending
    {left right : List WidthRow}
    (rearranged : left.Perm right)
    (ascendingLeft : (left.map WidthRow.width).Pairwise (· ≤ ·))
    (ascendingRight : (right.map WidthRow.width).Pairwise (· < ·)) :
    left = right := by
  rw [List.pairwise_map] at ascendingLeft ascendingRight
  have weak : right.Pairwise fun low high => low.width ≤ high.width :=
    ascendingRight.imp Int.le_of_lt
  have distinct : (right.map WidthRow.width).Nodup :=
    List.pairwise_map.mpr (ascendingRight.imp Int.ne_of_lt)
  refine rearranged.eq_of_pairwise ?_ ascendingLeft weak
  intro first second firstMember secondMember atMost atLeast
  exact List.inj_on_of_nodup_map distinct (rearranged.mem_iff.mp firstMember) secondMember
    (Int.le_antisymm atMost atLeast)

/-- Entries in another order have the same rows in another order. -/
theorem Summarised.exists_of_perm
    {others : List (Value × List Sample)}
    (summarised : Summarised entries unsorted)
    (rearranged : others.Perm entries) :
    ∃ rows, Summarised others rows ∧ rows.Perm unsorted :=
  List.perm_comp_forall₂ rearranged summarised

/-- A table shows the rows of entries with different widths in ascending order. -/
theorem Summarised.exists_table
    (summarised : Summarised entries unsorted)
    (different : (unsorted.map WidthRow.width).Nodup) :
    ∃ sorted, ofEntries entries = .ok (table sorted) ∧ sorted.Perm unsorted ∧
      (sorted.map WidthRow.width).Pairwise (· < ·) := by
  obtain ⟨sorted, shown, rearranged, ascending⟩ :=
    exists_rows (mapM_ofEntry_eq_ok_iff.mpr summarised) different
  refine ⟨sorted, ?_, rearranged, ascending⟩
  rw [ofEntries, shown]
  rfl

/-- Entries with a table have a row each. -/
theorem exists_summarised
    {found : Table}
    (succeeded : ofEntries entries = .ok found) :
    ∃ unsorted, Summarised entries unsorted := by
  obtain ⟨unsorted, summarised⟩ :=
    exists_mapM_eq_ok (exists_table_iff.mp ⟨found, succeeded⟩)
  exact ⟨unsorted, mapM_ofEntry_eq_ok_iff.mp summarised⟩

end Entries

/-- A summary of timings with different widths shows one row for each entry, strictly
sorted by width. Whichever way they are sorted, the rows come out in this order, and
timings in another order have the same table. -/
theorem ordered_summary
    {timings : Timings}
    {found : Table}
    (succeeded : ofTimings timings = .ok found)
    (distinct : DistinctWidths timings.toList) :
    ∃ rows,
      found.columns = ["width", "calls", "mean_us", "p95_us"] ∧
      found.rows = rows.map (fun row =>
        [.integer row.width, .integer row.calls, .real row.mean,
          .real row.percentile]) ∧
      (rows.map WidthRow.width).Pairwise (· < ·) ∧
      (∃ arranged, arranged.Perm timings.toList ∧ Summarised arranged rows) ∧
      (∀ sorted, sorted.Perm rows →
        (sorted.map WidthRow.width).Pairwise (· ≤ ·) → sorted = rows) ∧
      ∀ others : Timings, others.toList.Perm timings.toList →
        ofTimings others = .ok found := by
  obtain ⟨unsorted, summarised⟩ := exists_summarised succeeded
  have different := (Summarised.distinctWidths_iff summarised).mp distinct
  obtain ⟨rows, shown, rearranged, ascending⟩ :=
    Summarised.exists_table summarised different
  obtain rfl : table rows = found := Except.ok.inj (shown.symm.trans succeeded)
  refine ⟨rows, rfl, rfl, ascending, ?_, ?_, ?_⟩
  · obtain ⟨arranged, perRow, sameEntries⟩ :=
      List.perm_comp_forall₂ rearranged summarised.flip
    exact ⟨arranged, sameEntries, perRow.flip⟩
  · intro sorted sameRows ascendingSorted
    exact eq_of_ascending sameRows ascendingSorted ascending
  · intro others sameEntries
    obtain ⟨otherRows, otherSummarised, sameRows⟩ :=
      Summarised.exists_of_perm summarised sameEntries
    -- The other order has the same rows, and these can be sorted in one way only.
    have otherDifferent := (sameRows.map WidthRow.width).nodup_iff.mpr different
    obtain ⟨sorted, otherShown, otherRearranged, otherAscending⟩ :=
      Summarised.exists_table otherSummarised otherDifferent
    have same : sorted = rows :=
      eq_of_ascending ((otherRearranged.trans sameRows).trans rearranged.symm)
        (otherAscending.imp Int.le_of_lt) ascending
    rw [ofTimings, otherShown, same]

/-- A text, a negative real number with a fraction and a large integer as widths. -/
def scatteredTimings : Timings where
  toList :=
    [(.text " 1_0", [.real Binary64.one, .missing]),
      (.integer (10 ^ 30), [.real Binary64.one]),
      (.real ⟨0xc004000000000000⟩, [.real Binary64.one])]
  distinct := by decide +kernel

theorem scatteredTimings_ordered :
    ∃ found,
      ofTimings scatteredTimings = .ok found ∧
      DistinctWidths scatteredTimings.toList ∧
      found.rows.map (·.take 2) =
        [[.integer (-2), .integer 1], [.integer 10, .integer 2],
          [.integer (10 ^ 30), .integer 1]] ∧
      ∀ others : Timings, others.toList = scatteredTimings.toList.reverse →
        ofTimings others = .ok found := by
  have short : [Sample.real Binary64.one].mapM Sample.toReal = .ok [Binary64.one] := rfl
  have long : [Sample.real Binary64.one, .missing].mapM Sample.toReal =
      .ok [Binary64.one, Binary64.nan] := rfl
  have ten : (Value.text " 1_0").toInteger = .ok 10 := by decide +kernel
  have cut : (Value.real ⟨0xc004000000000000⟩).toInteger = .ok (-2) := by decide +kernel
  let ofText := WidthRow.ofSeconds 10 [Binary64.one, Binary64.nan]
  let ofInteger := WidthRow.ofSeconds (10 ^ 30) [Binary64.one]
  let ofReal := WidthRow.ofSeconds (-2) [Binary64.one]
  have summarised : Summarised scatteredTimings.toList [ofText, ofInteger, ofReal] :=
    .cons (WidthRow.summarises_ofSeconds long ten nofun)
      (.cons (WidthRow.summarises_ofSeconds short rfl nofun)
        (.cons (WidthRow.summarises_ofSeconds short cut nofun) .nil))
  have different : ([ofText, ofInteger, ofReal].map WidthRow.width).Nodup := by
    change [10, 10 ^ 30, -2].Nodup
    decide
  have distinct := (Summarised.distinctWidths_iff summarised).mpr different
  obtain ⟨sorted, shown, rearranged, ascending⟩ :=
    Summarised.exists_table summarised different
  have succeeded : ofTimings scatteredTimings = .ok (table sorted) := shown
  have inOrder : ([ofReal, ofText, ofInteger].map WidthRow.width).Pairwise (· ≤ ·) := by
    change [-2, 10, 10 ^ 30].Pairwise (· ≤ ·)
    decide
  obtain rfl : [ofReal, ofText, ofInteger] = sorted :=
    eq_of_ascending
      ((List.perm_append_singleton ofReal [ofText, ofInteger]).symm.trans rearranged.symm)
      inOrder ascending
  obtain ⟨_, _, _, _, _, _, order⟩ :=
    ordered_summary succeeded distinct
  refine ⟨_, succeeded, distinct, rfl, ?_⟩
  intro others reversed
  apply order
  rw [reversed]
  exact List.reverse_perm _

end WidthSummary
end Readout
