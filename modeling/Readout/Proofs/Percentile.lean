import Mathlib.Data.List.Forall2
import Mathlib.Data.List.GetD
import Mathlib.Data.Rat.Floor
import Mathlib.Tactic.Linarith
import Mathlib.Tactic.Ring
import Readout.Proofs.Rows

/-!
# The percentile of exact samples

A sorted list is read through the numbers of elements that lie below a bound: an
element satisfies a condition that smaller numbers satisfy as well exactly if more
elements than its index do. Order statistics therefore do not decrease if samples
do not, and neither does the percentile, which lies between two neighbouring ones.
-/

namespace Readout
namespace Statistics

/-! ## Order statistics -/

/-- The numbers of a list in ascending order. -/
structure Sorts (ordered samples : List Rat) : Prop where
  /-- The numbers are the same. -/
  perm : ordered.Perm samples
  /-- No number is below an earlier one. -/
  ascends : ordered.Pairwise (· ≤ ·)

theorem sorts_ascending (samples : List Rat) : Sorts (ascending samples) samples where
  perm := List.mergeSort_perm samples Arithmetic.le
  ascends := by
    have transitive (low middle high : Rat)
        (lower : Arithmetic.le low middle = true)
        (upper : Arithmetic.le middle high = true) :
        Arithmetic.le low high = true :=
      decide_eq_true ((of_decide_eq_true lower).trans (of_decide_eq_true upper))
    have total (left right : Rat) :
        (Arithmetic.le left right || Arithmetic.le right left) = true := by
      rw [Bool.or_eq_true]
      exact (le_total left right).imp (decide_eq_true ·) (decide_eq_true ·)
    exact (List.pairwise_mergeSort transitive total samples).imp of_decide_eq_true

@[simp] theorem length_ascending (samples : List Rat) :
    (ascending samples).length = samples.length :=
  (sorts_ascending samples).perm.length_eq

/-- Numbers are sorted in one way only. -/
theorem Sorts.eq_ascending
    {ordered samples : List Rat}
    (sorts : Sorts ordered samples) :
    ordered = ascending samples := by
  have sorted := sorts_ascending samples
  exact (sorts.perm.trans sorted.perm.symm).eq_of_pairwise
    (fun _ _ _ _ => le_antisymm) sorts.ascends sorted.ascends

theorem ascending_of_perm
    {samples others : List Rat}
    (rearranged : others.Perm samples) :
    ascending others = ascending samples := by
  have sorted := sorts_ascending others
  exact Sorts.eq_ascending ⟨sorted.perm.trans rearranged, sorted.ascends⟩

/-- In a sorted list the elements with a property that smaller numbers share come
first. -/
theorem getElem_iff_lt_countP
    {property : Rat → Bool}
    {ordered : List Rat}
    {index : Nat}
    (closed : ∀ low high, low ≤ high → property high = true → property low = true)
    (ascends : ordered.Pairwise (· ≤ ·))
    (inside : index < ordered.length) :
    property ordered[index] = true ↔ index < ordered.countP property := by
  induction ordered generalizing index with
  | nil => cases inside
  | cons first rest inductionHypothesis =>
      obtain ⟨least, restAscends⟩ := List.pairwise_cons.mp ascends
      by_cases has : property first = true
      · rw [List.countP_cons_of_pos has]
        cases index with
        | zero => exact iff_of_true has (Nat.zero_lt_succ _)
        | succ index =>
            rw [List.getElem_cons_succ, Nat.succ_lt_succ_iff]
            exact inductionHypothesis restAscends _
      · -- Whatever follows is not below the first element, so it lacks the property.
        have none : (first :: rest).countP property = 0 := by
          refine List.countP_eq_zero.mpr ?_
          intro number member
          rcases List.mem_cons.mp member with rfl | member
          · exact has
          · exact fun holds => has (closed _ _ (least number member) holds)
        rw [none]
        refine iff_of_false ?_ (Nat.not_lt_zero index)
        exact List.countP_eq_zero.mp none _ (List.getElem_mem inside)

section OrderStatistic

variable {samples : List Rat} {index : Nat}

/-- An order statistic has a property that smaller numbers share exactly if more
samples than its index have it. -/
theorem ascending_iff_lt_countP
    {property : Rat → Bool}
    (closed : ∀ low high, low ≤ high → property high = true → property low = true)
    (inside : index < (ascending samples).length) :
    property (ascending samples)[index] = true ↔ index < samples.countP property := by
  rw [getElem_iff_lt_countP closed (sorts_ascending samples).ascends inside,
    (sorts_ascending samples).perm.countP_eq]

theorem ascending_le_iff
    (inside : index < (ascending samples).length)
    (bound : Rat) :
    (ascending samples)[index] ≤ bound ↔ index < samples.countP (· ≤ bound) := by
  have closed (low high : Rat) (atMost : low ≤ high)
      (holds : decide (high ≤ bound) = true) : decide (low ≤ bound) = true :=
    decide_eq_true (atMost.trans (of_decide_eq_true holds))
  rw [← ascending_iff_lt_countP closed inside, decide_eq_true_iff]

theorem ascending_lt_iff
    (inside : index < (ascending samples).length)
    (bound : Rat) :
    (ascending samples)[index] < bound ↔ index < samples.countP (· < bound) := by
  have closed (low high : Rat) (atMost : low ≤ high)
      (holds : decide (high < bound) = true) : decide (low < bound) = true :=
    decide_eq_true (atMost.trans_lt (of_decide_eq_true holds))
  rw [← ascending_iff_lt_countP closed inside, decide_eq_true_iff]

theorem countP_ge_add_countP_lt (samples : List Rat) (bound : Rat) :
    samples.countP (bound ≤ ·) + samples.countP (· < bound) = samples.length := by
  rw [List.length_eq_countP_add_countP (bound ≤ ·)]
  simp only [decide_eq_true_iff, not_le]

/-- Samples that do not decrease have at most as many elements up to a bound. -/
theorem countP_le_of_forall₂
    {others : List Rat}
    (raised : List.Forall₂ (· ≤ ·) samples others)
    (bound : Rat) :
    others.countP (· ≤ bound) ≤ samples.countP (· ≤ bound) := by
  induction raised with
  | nil => exact Nat.le_refl _
  | @cons sample other rest followers atMost _ inductionHypothesis =>
      rw [List.countP_cons, List.countP_cons]
      refine Nat.add_le_add inductionHypothesis ?_
      by_cases low : other ≤ bound
      · rw [if_pos (decide_eq_true low), if_pos (decide_eq_true (atMost.trans low))]
      · rw [if_neg (by simpa using low)]
        exact Nat.zero_le _

/-- If no sample decreases, no order statistic does. -/
theorem ascending_mono
    {others : List Rat}
    {statistic otherStatistic : Rat}
    (raised : List.Forall₂ (· ≤ ·) samples others)
    (found : (ascending samples)[index]? = some statistic)
    (otherFound : (ascending others)[index]? = some otherStatistic) :
    statistic ≤ otherStatistic := by
  obtain ⟨inside, rfl⟩ := List.getElem?_eq_some_iff.mp found
  obtain ⟨otherInside, rfl⟩ := List.getElem?_eq_some_iff.mp otherFound
  have few : index < others.countP (· ≤ (ascending others)[index]) :=
    (ascending_le_iff otherInside _).mp le_rfl
  exact (ascending_le_iff inside _).mpr
    (Nat.lt_of_lt_of_le few (countP_le_of_forall₂ raised _))

end OrderStatistic

/-! ## Interpolation -/

/-- The number that lies a fraction of the way between two numbers. -/
def blend (low high fraction : Rat) : Rat :=
  (1 - fraction) * low + fraction * high

theorem low_add_eq_blend (low high fraction : Rat) :
    low + (high - low) * fraction = blend low high fraction := by
  rw [blend]
  ring

theorem high_sub_eq_blend (low high fraction : Rat) :
    high - (high - low) * (1 - fraction) = blend low high fraction := by
  rw [blend]
  ring

/-- From whichever end it starts, interpolation finds the same number. -/
theorem interpolate_eq_blend (low high fraction : Rat) :
    interpolate low high fraction = blend low high fraction := by
  unfold interpolate
  split
  · exact high_sub_eq_blend low high fraction
  · exact low_add_eq_blend low high fraction

theorem blend_self (number fraction : Rat) : blend number number fraction = number := by
  rw [blend]
  ring

theorem blend_mono
    {low high otherLow otherHigh fraction : Rat}
    (lows : low ≤ otherLow)
    (highs : high ≤ otherHigh)
    (nonnegative : 0 ≤ fraction)
    (atMostOne : fraction ≤ 1) :
    blend low high fraction ≤ blend otherLow otherHigh fraction :=
  add_le_add (mul_le_mul_of_nonneg_left lows (sub_nonneg.mpr atMostOne))
    (mul_le_mul_of_nonneg_left highs nonnegative)

theorem le_blend
    {low high fraction : Rat}
    (ordered : low ≤ high)
    (nonnegative : 0 ≤ fraction)
    (atMostOne : fraction ≤ 1) :
    low ≤ blend low high fraction := by
  calc low = blend low low fraction := (blend_self low fraction).symm
    _ ≤ blend low high fraction := blend_mono le_rfl ordered nonnegative atMostOne

theorem blend_le
    {low high fraction : Rat}
    (ordered : low ≤ high)
    (nonnegative : 0 ≤ fraction)
    (atMostOne : fraction ≤ 1) :
    blend low high fraction ≤ high := by
  calc blend low high fraction ≤ blend high high fraction :=
        blend_mono ordered le_rfl nonnegative atMostOne
    _ = high := blend_self high fraction

/-! ## The position of the percentile -/

/-- Where the percentile lies among the indices of sorted samples. -/
def position (count : Nat) : Rat :=
  19 * (count - 1) / 20

/-- The index of the sample before the percentile. -/
def lowIndex (count : Nat) : Nat :=
  ⌊position count⌋₊

/-- How far the percentile lies from the sample before it to the next. -/
def fraction (count : Nat) : Rat :=
  position count - lowIndex count

section Position

variable {count : Nat}

theorem position_nonneg (positive : 0 < count) : 0 ≤ position count := by
  have atLeast : (1 : Rat) ≤ count := by exact_mod_cast positive
  rw [position]
  linarith

theorem fraction_nonneg (positive : 0 < count) : 0 ≤ fraction count :=
  sub_nonneg.mpr (Nat.floor_le (position_nonneg positive))

theorem fraction_lt_one (count : Nat) : fraction count < 1 := by
  have above := Nat.lt_floor_add_one (position count)
  rw [fraction, lowIndex]
  linarith

/-- The samples on both sides of the percentile are among the samples. -/
theorem lowIndex_add_one_lt (several : 2 ≤ count) : lowIndex count + 1 < count := by
  have positive : 0 < count := by omega
  have below : position count < (count - 1 : Nat) := by
    have atLeast : (2 : Rat) ≤ count := by exact_mod_cast several
    rw [position, Nat.cast_sub positive, Nat.cast_one]
    linarith
  have index := (Nat.floor_lt (position_nonneg positive)).mpr below
  rw [lowIndex]
  omega

end Position

/-! ## The percentile -/

theorem percentile?_eq (samples : List Rat) :
    percentile? samples =
      (ascending samples).getLast?.map (percentileOfSorted (ascending samples)) := by
  have comparable : samples.find? Arithmetic.isUnordered = none :=
    List.find?_eq_none.mpr fun _ _ => Bool.false_ne_true
  rw [percentile?, comparable]

/-- The order of the samples does not matter. -/
theorem percentile?_of_perm
    {samples others : List Rat}
    (rearranged : others.Perm samples) :
    percentile? others = percentile? samples := by
  rw [percentile?_eq, percentile?_eq, ascending_of_perm rearranged]

theorem ofNat_pred {count : Nat} (positive : 0 < count) :
    (Arithmetic.ofNat (count - 1) : Rat) = count - 1 := by
  change ((count - 1 : Nat) : Rat) = count - 1
  rw [Nat.cast_sub positive, Nat.cast_one]

theorem rank_mul_eq_position {count : Nat} (positive : 0 < count) :
    Arithmetic.rank * (Arithmetic.ofNat (count - 1) : Rat) = position count := by
  have rank : (Arithmetic.rank : Rat) = 19 / 20 := rfl
  rw [rank, ofNat_pred positive, position]
  ring

/-- The percentile lies at the last index only if that is the first one. -/
theorem top_le_position_iff {count : Nat} (positive : 0 < count) :
    Arithmetic.le (Arithmetic.ofNat (count - 1) : Rat) (position count) = true ↔
      count = 1 := by
  have unfolded : Arithmetic.le (Arithmetic.ofNat (count - 1) : Rat) (position count) =
      decide ((Arithmetic.ofNat (count - 1) : Rat) ≤ position count) := rfl
  rw [unfolded, decide_eq_true_iff, ofNat_pred positive, position]
  constructor
  · intro atTop
    have few : (count : Rat) ≤ 1 := by linarith
    have few : count ≤ 1 := by exact_mod_cast few
    omega
  · rintro rfl
    norm_num

/-- The percentile of a single sample is the sample. -/
theorem percentile?_singleton (only : Rat) : percentile? [only] = some only := by
  have sorted : ascending [only] = [only] := List.mergeSort_singleton only
  have placed := rank_mul_eq_position Nat.one_pos
  have atTop := (top_le_position_iff Nat.one_pos).mpr rfl
  have found : percentileOfSorted [only] only = only := by
    simp only [percentileOfSorted, List.length_singleton, placed, if_pos atTop,
      interpolate_eq_blend, blend_self]
  rw [percentile?_eq, sorted, List.getLast?_singleton, Option.map_some, found]

/-- The percentile of several sorted samples lies between two of them. -/
theorem percentileOfSorted_of_several
    {ordered : List Rat}
    (several : 2 ≤ ordered.length)
    (inside : lowIndex ordered.length + 1 < ordered.length)
    (last : Rat) :
    percentileOfSorted ordered last =
      blend ordered[lowIndex ordered.length] ordered[lowIndex ordered.length + 1]
        (fraction ordered.length) := by
  have positive : 0 < ordered.length := Nat.lt_of_lt_of_le Nat.two_pos several
  have placed := rank_mul_eq_position positive
  have notAtTop : ¬Arithmetic.le (Arithmetic.ofNat (ordered.length - 1) : Rat)
      (position ordered.length) = true := by
    rw [top_le_position_iff positive]
    omega
  have index : Arithmetic.floor (position ordered.length) = lowIndex ordered.length :=
    rfl
  simp only [percentileOfSorted, placed, if_neg notAtTop, index, interpolate_eq_blend]
  rw [List.getD_eq_getElem _ _ inside, List.getD_eq_getElem _ _ (by omega)]
  rfl

/-- A number lies between two neighbouring order statistics, where the percentile of
at least two samples should lie. -/
structure Interpolated (samples : List Rat) (low high value : Rat) : Prop where
  /-- The lower neighbour is an order statistic. -/
  low_eq : (ascending samples)[lowIndex samples.length]? = some low
  /-- The upper neighbour is the next one. -/
  high_eq : (ascending samples)[lowIndex samples.length + 1]? = some high
  /-- The number is a weighted mean of the two. -/
  blended :
    value = (1 - fraction samples.length) * low + fraction samples.length * high
  /-- It is found from the lower one. -/
  from_low : low + (high - low) * fraction samples.length = value
  /-- It is found from the upper one. -/
  from_high : high - (high - low) * (1 - fraction samples.length) = value
  /-- It is not below the lower one. -/
  low_le : low ≤ value
  /-- It is not above the upper one. -/
  le_high : value ≤ high
  /-- The samples up to the lower one are at most the number. -/
  many_below : lowIndex samples.length + 1 ≤ samples.countP (· ≤ value)
  /-- The samples from the upper one on are at least the number. -/
  many_above :
    samples.length - 1 - lowIndex samples.length ≤ samples.countP (value ≤ ·)

theorem interpolated_blend
    {samples : List Rat}
    (inside : lowIndex samples.length + 1 < (ascending samples).length) :
    Interpolated samples (ascending samples)[lowIndex samples.length]
      (ascending samples)[lowIndex samples.length + 1]
      (blend (ascending samples)[lowIndex samples.length]
        (ascending samples)[lowIndex samples.length + 1]
        (fraction samples.length)) := by
  have lowInside : lowIndex samples.length < (ascending samples).length :=
    Nat.lt_of_succ_lt inside
  have positive : 0 < samples.length := by
    rw [length_ascending] at inside
    omega
  have nonnegative := fraction_nonneg positive
  have atMostOne := (fraction_lt_one samples.length).le
  have ordered : (ascending samples)[lowIndex samples.length] ≤
      (ascending samples)[lowIndex samples.length + 1] :=
    List.pairwise_iff_getElem.mp (sorts_ascending samples).ascends _ _ lowInside inside
      (Nat.lt_succ_self _)
  have notBelow := le_blend ordered nonnegative atMostOne
  have notAbove := blend_le ordered nonnegative atMostOne
  constructor
  case low_eq => exact List.getElem?_eq_getElem lowInside
  case high_eq => exact List.getElem?_eq_getElem inside
  case blended => rfl
  case from_low => exact low_add_eq_blend _ _ _
  case from_high => exact high_sub_eq_blend _ _ _
  case low_le => exact notBelow
  case le_high => exact notAbove
  case many_below => exact (ascending_le_iff lowInside _).mp notBelow
  case many_above =>
    have few := mt (ascending_lt_iff inside _).mpr (not_lt.mpr notAbove)
    rw [Nat.not_lt] at few
    have counts := countP_ge_add_countP_lt samples
      (blend (ascending samples)[lowIndex samples.length]
        (ascending samples)[lowIndex samples.length + 1] (fraction samples.length))
    omega

/-- At least two samples have a percentile, which lies where it should. -/
theorem exists_interpolated
    {samples : List Rat}
    (several : 2 ≤ samples.length) :
    ∃ value low high, percentile? samples = some value ∧
      Interpolated samples low high value := by
  have sized := length_ascending samples
  have inside : lowIndex samples.length + 1 < (ascending samples).length := by
    rw [sized]
    exact lowIndex_add_one_lt several
  have nonempty : ascending samples ≠ [] := by
    rw [← List.length_pos_iff, sized]
    omega
  have enough : 2 ≤ (ascending samples).length := by rwa [sized]
  have insideSorted : lowIndex (ascending samples).length + 1 <
      (ascending samples).length := by
    rw [sized] at inside ⊢
    exact inside
  refine ⟨_, _, _, ?_, interpolated_blend inside⟩
  have found := percentileOfSorted_of_several enough insideSorted
    ((ascending samples).getLast nonempty)
  simp only [sized] at found
  rw [percentile?_eq, List.getLast?_eq_some_getLast nonempty, Option.map_some, found]

/-- If no sample decreases, neither does the percentile. -/
theorem percentile?_mono
    {samples others : List Rat}
    {value other : Rat}
    (raised : List.Forall₂ (· ≤ ·) samples others)
    (found : percentile? samples = some value)
    (otherFound : percentile? others = some other) :
    value ≤ other := by
  have sameLength := raised.length_eq
  match samples, others, raised with
  | [], _, _ => simp [percentile?_eq, ascending] at found
  | [only], [otherOnly], .cons atMost _ =>
      rw [percentile?_singleton] at found otherFound
      cases found
      cases otherFound
      exact atMost
  | first :: second :: rest, others, raised =>
      have several : 2 ≤ (first :: second :: rest).length := Nat.le_add_left 2 _
      obtain ⟨_, low, high, same, between⟩ := exists_interpolated several
      rw [found] at same
      cases same
      obtain ⟨_, otherLow, otherHigh, same, otherBetween⟩ :=
        exists_interpolated (sameLength ▸ several)
      rw [otherFound] at same
      cases same
      have lows := otherBetween.low_eq
      have highs := otherBetween.high_eq
      rw [← sameLength] at lows highs
      rw [between.blended, otherBetween.blended, ← sameLength]
      exact blend_mono (ascending_mono raised between.low_eq lows)
        (ascending_mono raised between.high_eq highs)
        (fraction_nonneg (Nat.zero_lt_succ _)) (fraction_lt_one _).le

theorem forall₂_set
    {samples : List Rat}
    {index : Nat}
    {larger : Rat}
    (inside : index < samples.length)
    (increased : samples[index] ≤ larger) :
    List.Forall₂ (· ≤ ·) samples (samples.set index larger) := by
  rw [List.forall₂_iff_get]
  refine ⟨(List.length_set).symm, ?_⟩
  intro other otherInside _
  rw [List.get_eq_getElem, List.get_eq_getElem, List.getElem_set]
  split
  · next same =>
      subst same
      exact increased
  · exact le_rfl

/-- Exact samples have a percentile. It is the sample if there is only one; of more,
it lies between two neighbouring order statistics, at the fraction of the way from
the lower to the upper one that its position has beyond the lower index. The order of
the samples does not matter, and raising one of them never lowers the percentile. -/
theorem percentile_interpolates {samples : List Rat} (nonempty : samples ≠ []) :
    Sorts (ascending samples) samples ∧
    ∃ value, percentile? samples = some value ∧
      (samples.length = 1 → samples = [value]) ∧
      (2 ≤ samples.length → ∃ low high, Interpolated samples low high value) ∧
      (∀ others : List Rat, others.Perm samples →
        percentile? others = some value) ∧
      (∀ (index : Nat) (larger : Rat) (inside : index < samples.length),
        samples[index] ≤ larger →
        ∃ raised, percentile? (samples.set index larger) = some raised ∧
          value ≤ raised) := by
  obtain ⟨value, found⟩ := exists_percentile nonempty
  refine ⟨sorts_ascending samples, value, found, ?_, ?_, ?_, ?_⟩
  · intro single
    obtain ⟨only, rfl⟩ := List.length_eq_one_iff.mp single
    rw [percentile?_singleton] at found
    cases found
    rfl
  · intro several
    obtain ⟨_, low, high, same, between⟩ := exists_interpolated several
    rw [found] at same
    cases same
    exact ⟨low, high, between⟩
  · intro others rearranged
    rw [percentile?_of_perm rearranged, found]
  · intro index larger inside increased
    have stillNonempty : samples.set index larger ≠ [] := by
      rwa [ne_eq, List.set_eq_nil_iff]
    obtain ⟨raised, otherFound⟩ := exists_percentile stillNonempty
    exact ⟨raised, otherFound,
      percentile?_mono (forall₂_set inside increased) found otherFound⟩

/-- Three samples, out of order: the percentile lies nine tenths of the way from the
second to the third. -/
theorem percentile_threeSamples :
    ([3, 1, 2] : List Rat) ≠ [] ∧ percentile? ([3, 1, 2] : List Rat) = some (29 / 10) := by
  have nonempty : ([3, 1, 2] : List Rat) ≠ [] := List.cons_ne_nil _ _
  obtain ⟨_, value, found, _, several, _⟩ := percentile_interpolates nonempty
  obtain ⟨low, high, between⟩ := several (by decide)
  have sorts : Sorts [1, 2, 3] [3, 1, 2] := ⟨by decide, by decide⟩
  have lowIndex_eq : lowIndex 3 = 1 := by decide +kernel
  have fraction_eq : fraction 3 = 9 / 10 := by decide +kernel
  have low_eq : [1, 2, 3][lowIndex 3]? = some low :=
    sorts.eq_ascending ▸ between.low_eq
  have high_eq : [1, 2, 3][lowIndex 3 + 1]? = some high :=
    sorts.eq_ascending ▸ between.high_eq
  have value_eq : value = (1 - fraction 3) * low + fraction 3 * high :=
    between.blended
  rw [lowIndex_eq] at low_eq high_eq
  cases low_eq
  cases high_eq
  refine ⟨nonempty, ?_⟩
  rw [found, value_eq, fraction_eq]
  norm_num

end Statistics
end Readout
