import Mathlib.Algebra.BigOperators.Group.List.Basic
import Mathlib.Algebra.BigOperators.Ring.List
import Mathlib.Algebra.Field.Rat
import Mathlib.Data.Fintype.Basic
import Mathlib.Tactic.Abel
import Mathlib.Tactic.FinCases
import Readout.Statistics.Summary

/-!
# Pairwise summation as a sum

What pairwise summation finds of a list is described without saying how it is
found: numbers in order, one lane for each position in a block of eight, or two
parts. Every list has exactly one such sum, and where the order of additions does
not matter it is the plain sum of the list, each number added once.
-/

namespace Readout

universe u

variable {α : Type u}

/-! ## The scheme -/

/-- The numbers of a list that belong to a lane: the one at the position of the lane
in each whole block of eight. -/
def strided (samples : List α) (lane : Nat) : List α :=
  (List.range (samples.length / 8)).filterMap fun block =>
    samples[8 * block + lane]?

namespace Lanes

/-- The sum in a lane. -/
def lane (lanes : Lanes α) : Fin 8 → α
  | 0 => lanes.lane0
  | 1 => lanes.lane1
  | 2 => lanes.lane2
  | 3 => lanes.lane3
  | 4 => lanes.lane4
  | 5 => lanes.lane5
  | 6 => lanes.lane6
  | 7 => lanes.lane7

/-- The sums in the lanes, in order. -/
def toList (lanes : Lanes α) : List α :=
  [lanes.lane0, lanes.lane1, lanes.lane2, lanes.lane3, lanes.lane4, lanes.lane5,
    lanes.lane6, lanes.lane7]

theorem ext_lane
    {left right : Lanes α}
    (same : ∀ lane, left.lane lane = right.lane lane) :
    left = right := by
  cases left
  cases right
  congr
  · exact same 0
  · exact same 1
  · exact same 2
  · exact same 3
  · exact same 4
  · exact same 5
  · exact same 6
  · exact same 7

theorem exists_eq_toList_append
    {samples : List α}
    (many : 8 ≤ samples.length) :
    ∃ (block : Lanes α) (rest : List α), samples = block.toList ++ rest := by
  match samples, many with
  | x0 :: x1 :: x2 :: x3 :: x4 :: x5 :: x6 :: x7 :: rest, _ =>
      exact ⟨⟨x0, x1, x2, x3, x4, x5, x6, x7⟩, rest, rfl⟩

theorem length_lt_of_no_block
    {samples : List α}
    (noBlock : ∀ (x0 x1 x2 x3 x4 x5 x6 x7 : α) (rest : List α),
      samples = x0 :: x1 :: x2 :: x3 :: x4 :: x5 :: x6 :: x7 :: rest → False) :
    samples.length < 8 := by
  by_contra many
  obtain ⟨block, rest, rfl⟩ := exists_eq_toList_append (Nat.not_lt.mp many)
  exact noBlock _ _ _ _ _ _ _ _ _ rfl

end Lanes

/-- A whole block has one number for each lane. -/
theorem strided_block_append (block : Lanes α) (rest : List α) (lane : Fin 8) :
    strided (block.toList ++ rest) lane = block.lane lane :: strided rest lane := by
  have eight : block.toList.length = 8 := rfl
  have sized : (block.toList ++ rest).length / 8 = rest.length / 8 + 1 := by
    rw [List.length_append, eight, Nat.add_comm]
    exact Nat.add_div_right rest.length (by decide)
  have here : (block.toList ++ rest)[8 * 0 + lane.val]? = some (block.lane lane) := by
    fin_cases lane <;> rfl
  have later (position : Nat) :
      (block.toList ++ rest)[8 * (position + 1) + lane.val]? =
        rest[8 * position + lane.val]? := by
    have behind : 8 * (position + 1) + lane.val =
        block.toList.length + (8 * position + lane.val) := by omega
    rw [behind, List.getElem?_append_right (Nat.le_add_right _ _),
      Nat.add_sub_cancel_left]
  rw [strided, sized, List.range_succ_eq_map, List.filterMap_cons, here,
    List.filterMap_map, strided]
  exact congrArg (block.lane lane :: ·)
    (List.filterMap_congr fun position _ => later position)

theorem strided_of_few
    {samples : List α}
    (few : samples.length < 8)
    (lane : Nat) :
    strided samples lane = [] := by
  rw [strided, Nat.div_eq_of_lt few]
  rfl

variable [Add α]

@[simp] theorem Lanes.lane_add (lanes block : Lanes α) (lane : Fin 8) :
    (lanes.add block).lane lane = lanes.lane lane + block.lane lane := by
  fin_cases lane <;> rfl

/-- A number is the sum of some numbers in order, starting with the first. -/
def AddsInOrder (numbers : List α) (total : α) : Prop :=
  ∃ first later, numbers = first :: later ∧ total = later.foldl (· + ·) first

/-- What pairwise summation finds of a list. -/
inductive SumsTo (start : α) : List α → α → Prop
  /-- Fewer than eight numbers are added in order. -/
  | inOrder
      {samples : List α}
      (few : samples.length < 8) :
      SumsTo start samples (samples.foldl (· + ·) start)
  /-- Up to 128 numbers are added in eight lanes, the lanes as a tree, and then the
  numbers behind the last whole block. -/
  | inLanes
      {samples : List α}
      (lanes : Lanes α)
      (many : 8 ≤ samples.length)
      (short : samples.length ≤ 128)
      (added : ∀ lane : Fin 8, AddsInOrder (strided samples lane) (lanes.lane lane)) :
      SumsTo start samples
        ((samples.drop (8 * (samples.length / 8))).foldl (· + ·) lanes.total)
  /-- More numbers are cut in two at the last multiple of eight in the first half. -/
  | inParts
      {samples : List α}
      {left right : α}
      (long : 128 < samples.length)
      (front : SumsTo start (samples.take (8 * (samples.length / 2 / 8))) left)
      (back : SumsTo start (samples.drop (8 * (samples.length / 2 / 8))) right) :
      SumsTo start samples (left + right)

/-! ## Eight lanes -/

/-- Adding whole blocks adds to each lane its numbers in order. -/
theorem lane_addBlocks (lanes : Lanes α) (samples : List α) (lane : Fin 8) :
    (lanes.addBlocks samples).1.lane lane =
      (strided samples lane).foldl (· + ·) (lanes.lane lane) := by
  fun_induction Lanes.addBlocks lanes samples with
  | case1 lanes x0 x1 x2 x3 x4 x5 x6 x7 rest inductionHypothesis =>
      rw [inductionHypothesis, Lanes.lane_add]
      exact congrArg (List.foldl (· + ·) (lanes.lane lane))
        (strided_block_append ⟨x0, x1, x2, x3, x4, x5, x6, x7⟩ rest lane).symm
  | case2 lanes leftovers noBlock =>
      rw [strided_of_few (Lanes.length_lt_of_no_block noBlock)]
      rfl

/-- Adding whole blocks leaves what stands behind the last one. -/
theorem leftovers_addBlocks (lanes : Lanes α) (samples : List α) :
    (lanes.addBlocks samples).2 = samples.drop (8 * (samples.length / 8)) := by
  fun_induction Lanes.addBlocks lanes samples with
  | case1 lanes x0 x1 x2 x3 x4 x5 x6 x7 rest inductionHypothesis =>
      have sized : 8 * ((rest.length + 8) / 8) = 8 * (rest.length / 8) + 8 := by omega
      rw [inductionHypothesis]
      simp only [List.length_cons, Nat.add_assoc, Nat.reduceAdd, sized]
      rfl
  | case2 lanes leftovers noBlock =>
      rw [Nat.div_eq_of_lt (Lanes.length_lt_of_no_block noBlock)]
      rfl

theorem laneSum_of_few
    {samples : List α}
    (start : α)
    (few : samples.length < 8) :
    laneSum start samples = samples.foldl (· + ·) start := by
  unfold laneSum
  split
  · simp only [List.length_cons] at few
    omega
  · rfl

/-- Of at least eight numbers, the lanes add theirs in order, and the rest is added
to the sum of the lanes. -/
theorem exists_lanes
    {samples : List α}
    (start : α)
    (many : 8 ≤ samples.length) :
    ∃ lanes : Lanes α,
      (∀ lane : Fin 8, AddsInOrder (strided samples lane) (lanes.lane lane)) ∧
      laneSum start samples =
        (samples.drop (8 * (samples.length / 8))).foldl (· + ·) lanes.total := by
  obtain ⟨block, rest, rfl⟩ := Lanes.exists_eq_toList_append many
  refine ⟨(block.addBlocks rest).1, ?_, ?_⟩
  · intro lane
    exact ⟨block.lane lane, strided rest lane, strided_block_append block rest lane,
      lane_addBlocks block rest lane⟩
  · have sized : 8 * ((block.toList ++ rest).length / 8) =
        block.toList.length + 8 * (rest.length / 8) := by
      have eight : block.toList.length = 8 := rfl
      rw [List.length_append]
      omega
    rw [sized, List.drop_length_add_append, ← leftovers_addBlocks block]
    rfl

/-! ## What is found -/

theorem cutPoint_eq (length : Nat) : cutPoint length = 8 * (length / 2 / 8) := by
  rw [cutPoint]
  omega

theorem AddsInOrder.unique
    {numbers : List α}
    {left right : α}
    (addsLeft : AddsInOrder numbers left)
    (addsRight : AddsInOrder numbers right) :
    left = right := by
  obtain ⟨first, later, rfl, rfl⟩ := addsLeft
  obtain ⟨_, _, same, rfl⟩ := addsRight
  cases same
  rfl

/-- Pairwise summation finds a sum of every list, and no other than its result. -/
theorem sumsTo_iff (start : α) (samples : List α) (total : α) :
    SumsTo start samples total ↔ total = pairwiseSum start samples := by
  constructor
  · intro sums
    induction sums with
    | inOrder few =>
        rw [pairwiseSum, if_pos (by omega), laneSum_of_few start few]
    | inLanes lanes many short added =>
        obtain ⟨others, addedOthers, found⟩ := exists_lanes start many
        have same : lanes = others :=
          Lanes.ext_lane fun lane => (added lane).unique (addedOthers lane)
        rw [pairwiseSum, if_pos short, found, same]
    | inParts long _ _ leftFound rightFound =>
        rw [pairwiseSum, if_neg (Nat.not_le.mpr long), cutPoint_eq, leftFound,
          rightFound]
  · rintro rfl
    fun_induction pairwiseSum start samples with
    | case1 samples short =>
        rcases Nat.lt_or_ge samples.length 8 with few | many
        · rw [laneSum_of_few start few]
          exact .inOrder few
        · obtain ⟨lanes, added, found⟩ := exists_lanes start many
          rw [found]
          exact .inLanes lanes many short added
    | case2 samples long front back =>
        rw [cutPoint_eq] at front back ⊢
        exact .inParts (Nat.not_le.mp long) front back

/-! ## The plain sum -/

section Monoid

variable {M : Type u} [AddCommMonoid M]

theorem foldl_add_eq (start : M) (samples : List M) :
    samples.foldl (· + ·) start = start + samples.sum := by
  induction samples generalizing start with
  | nil => simp
  | cons sample rest inductionHypothesis =>
      rw [List.foldl_cons, inductionHypothesis, List.sum_cons, add_assoc]

namespace Lanes

theorem total_eq_sum (lanes : Lanes M) : lanes.total = lanes.toList.sum := by
  simp only [total, toList, List.sum_cons, List.sum_nil]
  abel

theorem total_add (lanes block : Lanes M) :
    (lanes.add block).total = lanes.total + block.total := by
  simp only [total, add]
  abel

/-- Adding whole blocks to lanes loses nothing and adds nothing twice. -/
theorem total_addBlocks (lanes : Lanes M) (samples : List M) :
    (lanes.addBlocks samples).1.total + (lanes.addBlocks samples).2.sum =
      lanes.total + samples.sum := by
  fun_induction addBlocks lanes samples with
  | case1 lanes x0 x1 x2 x3 x4 x5 x6 x7 rest inductionHypothesis =>
      rw [inductionHypothesis, total_add, total_eq_sum ⟨x0, x1, x2, x3, x4, x5, x6, x7⟩,
        add_assoc, ← List.sum_append]
      rfl
  | case2 lanes leftovers noBlock => rfl

end Lanes

theorem laneSum_eq_sum (samples : List M) : laneSum 0 samples = samples.sum := by
  rcases Nat.lt_or_ge samples.length 8 with few | many
  · rw [laneSum_of_few 0 few, foldl_add_eq, zero_add]
  · obtain ⟨block, rest, rfl⟩ := Lanes.exists_eq_toList_append many
    calc laneSum 0 (block.toList ++ rest)
        = (block.addBlocks rest).2.foldl (· + ·) (block.addBlocks rest).1.total := rfl
      _ = block.total + rest.sum := by rw [foldl_add_eq, Lanes.total_addBlocks]
      _ = (block.toList ++ rest).sum := by rw [Lanes.total_eq_sum, List.sum_append]

/-- Where the order of additions does not matter, the pairwise sum is the sum. -/
theorem pairwiseSum_eq_sum (samples : List M) : pairwiseSum 0 samples = samples.sum := by
  fun_induction pairwiseSum (0 : M) samples with
  | case1 samples _ => exact laneSum_eq_sum samples
  | case2 samples _ front back =>
      rw [front, back, ← List.sum_append, List.take_append_drop]

end Monoid

namespace Statistics

/-- The mean of exact samples in microseconds is their sum over their number. -/
theorem mean_microseconds (seconds : List Rat) :
    mean (microseconds seconds) = 1000000 * seconds.sum / seconds.length := by
  have summed : pairwiseSum 0 (seconds.map (· * (1000000 : Rat))) =
      1000000 * seconds.sum := by
    rw [pairwiseSum_eq_sum, List.sum_map_mul_right, List.map_id', mul_comm]
  calc mean (microseconds seconds)
      = (0 + pairwiseSum 0 (seconds.map (· * (1000000 : Rat)))) /
          (microseconds seconds).length := rfl
    _ = 1000000 * seconds.sum / seconds.length := by
        rw [summed, zero_add, microseconds, List.length_map]

end Statistics

/-- Pairwise summation ends with exactly one result for every list. If the order of
additions does not matter and the start is zero, the result is the plain sum, so each
number is added exactly once. The mean of exact samples in microseconds is therefore
their sum divided by their number. -/
theorem pairwise_summation_adds_once :
    (∀ {α : Type u} [Add α] (start : α) (samples : List α) (total : α),
      SumsTo start samples total ↔ total = pairwiseSum start samples) ∧
    (∀ {M : Type u} [AddCommMonoid M] (samples : List M) (total : M),
      SumsTo 0 samples total ↔ total = samples.sum) ∧
    (∀ seconds : List Rat,
      Statistics.mean (Statistics.microseconds seconds) =
        1000000 * seconds.sum / seconds.length) := by
  refine ⟨sumsTo_iff, ?_, Statistics.mean_microseconds⟩
  intro M _ samples total
  rw [sumsTo_iff, pairwiseSum_eq_sum]

end Readout
