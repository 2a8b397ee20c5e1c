import Mathlib.Data.Int.Bitwise
import Mathlib.Data.Set.Operations
import Mathlib.Tactic.Ring
import Readout.Proofs.Division

/-!
# Packing without wrapping

The loop that packs a mask can be run in integers of any size as well as in a
word. As long as the mask leaves the sign bit clear, the two runs agree before
every step: the accumulator is below the weight of the next bit, so that the next
bit is disjoint from it and is added. Masks of one length are therefore packed in
order, the last bit deciding first, onto all numbers below the power of two of
the length.
-/

namespace Readout

namespace Bits

/-- A bit behind a list of bits weighs two to the length of the list. -/
theorem value_concat (bits : List Bool) (bit : Bool) :
    value (bits ++ [bit]) = value bits + 2 ^ bits.length * bit.toNat := by
  induction bits with
  | nil => simp
  | cons head rest inductionHypothesis =>
      rw [List.cons_append, value_cons, value_cons, inductionHypothesis,
        List.length_cons, Nat.pow_succ']
      ring

/-- Of two lists of one length, the one that is smaller from its last bit on
stands for the smaller number. -/
theorem value_reverse_lt_iff
    {left right : List Bool}
    (sameLength : left.length = right.length) :
    value left.reverse < value right.reverse ↔ left < right := by
  induction left generalizing right with
  | nil =>
      rw [List.length_eq_zero_iff.mp sameLength.symm]
      simp
  | cons bit rest inductionHypothesis =>
      cases right with
      | nil => cases sameLength
      | cons other others =>
          have sameRest : rest.length = others.length := Nat.succ.inj sameLength
          have restBound := value_lt rest.reverse
          have othersBound := value_lt others.reverse
          rw [List.length_reverse] at restBound othersBound
          rw [List.reverse_cons, List.reverse_cons, value_concat, value_concat,
            List.length_reverse, List.length_reverse, List.cons_lt_cons_iff,
            ← inductionHypothesis sameRest, sameRest]
          rw [sameRest] at restBound
          -- Equal leading bits leave the rest to decide; unequal ones outweigh it.
          cases bit <;> cases other <;> simp [Bool.lt_iff] <;> omega

theorem value_lt_value_iff
    {left right : List Bool}
    (sameLength : left.length = right.length) :
    value left < value right ↔ left.reverse < right.reverse := by
  have sameReversed : left.reverse.length = right.reverse.length := by
    rw [List.length_reverse, List.length_reverse, sameLength]
  have reversed := value_reverse_lt_iff sameReversed
  rwa [List.reverse_reverse, List.reverse_reverse] at reversed

end Bits

namespace Word

/-! ## The loop over the bits of a mask -/

/-- The loop over the bits of a mask, given what it does with the bit at an index. -/
def loop (step : σ → Nat → Bool → σ) : σ → Nat → List Bool → σ
  | state, _, [] => state
  | state, index, bit :: rest => loop step (step state index bit) (index + 1) rest

/-- A loop over two lists goes on with the second one after the first. -/
theorem loop_append
    (step : σ → Nat → Bool → σ)
    (state : σ)
    (index : Nat)
    (front back : List Bool) :
    loop step state index (front ++ back) =
      loop step (loop step state index front) (index + front.length) back := by
  induction front generalizing state index with
  | nil => rfl
  | cons bit rest inductionHypothesis =>
      rw [List.cons_append, loop, loop, inductionHypothesis, List.length_cons,
        Nat.add_assoc, Nat.add_comm 1]

theorem placeAll_eq_loop (accumulator : Word) (index : Nat) (bits : List Bool) :
    placeAll accumulator index bits = loop place accumulator index bits := by
  induction bits generalizing accumulator index with
  | nil => rfl
  | cons bit rest inductionHypothesis =>
      rw [placeAll_cons, loop, inductionHypothesis]

/-- Set the bit at `index` of an integer of any size if `bit` is set. -/
def placeWhole (accumulator : Int) (index : Nat) (bit : Bool) : Int :=
  if bit then Int.lor accumulator ((1 : Int) <<< index) else accumulator

/-- The word in which the bits of a mask below an index have been placed. -/
def accumulator (mask : List Bool) (index : Nat) : Word :=
  loop place 0 0 (mask.take index)

/-- The integer in which the bits of a mask below an index have been placed. -/
def wholeAccumulator (mask : List Bool) (index : Nat) : Int :=
  loop placeWhole 0 0 (mask.take index)

/-- What holds before the bit at an index of a mask is placed: the loop in words and
the loop in integers go on from the same accumulator, and the word that stands for
the next bit is positive and disjoint from it. -/
structure Unwrapped (mask : List Bool) (index : Nat) : Prop where
  /-- The loop in words goes on from its accumulator. -/
  continues :
    pack mask = loop place (accumulator mask index) index (mask.drop index)
  /-- The loop in integers goes on from its accumulator. -/
  continues_whole :
    loop placeWhole 0 0 mask =
      loop placeWhole (wholeAccumulator mask index) index (mask.drop index)
  /-- The accumulators are the same. -/
  agrees : (accumulator mask index).toInt = wholeAccumulator mask index
  /-- The accumulator is not negative. -/
  nonnegative : 0 ≤ (accumulator mask index).toInt
  /-- The accumulator is below the weight of the next bit. -/
  below : (accumulator mask index).toInt < 2 ^ index
  /-- The weight of the next bit is a power of two, and so positive. -/
  weighs : (1#64 <<< index).toInt = 2 ^ index
  /-- The accumulator lacks the next bit. -/
  disjoint : accumulator mask index &&& 1#64 <<< index = 0
  /-- Setting the next bit adds its weight. -/
  adds :
    (accumulator mask index ||| 1#64 <<< index).toInt =
      (accumulator mask index).toInt + (1#64 <<< index).toInt

/-! ## One step -/

theorem toInt_of_lt {word : Word} (fits : word.toNat < 2 ^ capacity) :
    word.toInt = word.toNat := by
  rw [capacity] at fits
  exact BitVec.toInt_eq_toNat_of_lt (by omega)

section Step

variable {accumulator : Word} {index : Nat}

theorem toInt_of_below
    (below : accumulator.toNat < 2 ^ index)
    (fits : index ≤ capacity) :
    accumulator.toInt = accumulator.toNat :=
  toInt_of_lt (Nat.lt_of_lt_of_le below (Nat.pow_le_pow_right (by decide) fits))

theorem toInt_one_shiftLeft (fits : index < capacity) :
    (1#64 <<< index).toInt = 2 ^ index := by
  have weighed := toNat_one_shiftLeft (Nat.lt_succ_of_lt fits)
  have small : (1#64 <<< index).toNat < 2 ^ capacity := by
    rw [weighed]
    exact Nat.pow_lt_pow_right (by decide) fits
  rw [toInt_of_lt small, weighed, Nat.cast_pow, Nat.cast_ofNat]

/-- A bit above an accumulator is disjoint from it. -/
theorem and_one_shiftLeft
    (below : accumulator.toNat < 2 ^ index)
    (fits : index < capacity) :
    accumulator &&& 1#64 <<< index = 0 := by
  apply BitVec.eq_of_toNat_eq
  rw [BitVec.toNat_and, toNat_one_shiftLeft (Nat.lt_succ_of_lt fits),
    Nat.and_two_pow, Nat.testBit_lt_two_pow below, Bool.toNat_false, Nat.zero_mul]
  rfl

/-- A bit is placed in a word as in an integer of any size, as long as it stays
below the sign bit. -/
theorem toInt_place
    (bit : Bool)
    (below : accumulator.toNat < 2 ^ index)
    (fits : index < capacity) :
    (accumulator.place index bit).toInt =
      placeWhole accumulator.toInt index bit := by
  have wordFits : index < 64 := Nat.lt_succ_of_lt fits
  have natural : (1 : Int) <<< index = ((2 ^ index : Nat) : Int) := by
    rw [Int.shiftLeft_eq, Int.one_mul, Nat.cast_pow, Nat.cast_ofNat]
  rw [toInt_of_below (toNat_place_lt bit below wordFits) fits,
    toInt_of_below below (Nat.le_of_lt fits)]
  cases bit with
  | false => rfl
  | true =>
      rw [place, if_pos rfl, BitVec.toNat_or, toNat_one_shiftLeft wordFits, placeWhole,
        if_pos rfl, natural]
      rfl

/-- Setting a bit above an accumulator adds its weight. -/
theorem toInt_or_one_shiftLeft
    (below : accumulator.toNat < 2 ^ index)
    (fits : index < capacity) :
    (accumulator ||| 1#64 <<< index).toInt =
      accumulator.toInt + (1#64 <<< index).toInt := by
  have wordFits : index < 64 := Nat.lt_succ_of_lt fits
  have placed : (accumulator ||| 1#64 <<< index).toNat = accumulator.toNat + 2 ^ index :=
    (toNat_place true below wordFits).trans (by rw [Bool.toNat_true, Nat.mul_one])
  have placedBelow : (accumulator ||| 1#64 <<< index).toNat < 2 ^ (index + 1) :=
    toNat_place_lt true below wordFits
  rw [toInt_of_below placedBelow fits, toInt_of_below below (Nat.le_of_lt fits),
    toInt_one_shiftLeft fits, placed]
  norm_cast

end Step

/-! ## All steps -/

/-- Bits below the sign bit are placed in a word as in an integer of any size. -/
theorem toInt_loop
    {accumulator : Word}
    {index : Nat}
    {bits : List Bool}
    (below : accumulator.toNat < 2 ^ index)
    (fits : index + bits.length ≤ capacity) :
    (loop place accumulator index bits).toInt =
      loop placeWhole accumulator.toInt index bits := by
  induction bits generalizing accumulator index with
  | nil => rfl
  | cons bit rest inductionHypothesis =>
      rw [List.length_cons] at fits
      have inside : index < capacity := by omega
      have belowNext := toNat_place_lt bit below (Nat.lt_succ_of_lt inside)
      rw [loop, loop, inductionHypothesis belowNext (by omega),
        toInt_place bit below inside]

theorem pack_eq_loop (mask : List Bool) : pack mask = loop place 0 0 mask :=
  placeAll_eq_loop 0 0 mask

/-- A mask that leaves the sign bit clear joins to the number that the loop in
integers of any size finds. -/
theorem join_eq_loop {mask : List Bool} (short : mask.length ≤ capacity) :
    join mask = loop placeWhole 0 0 mask := by
  rw [join, pack_eq_loop, toInt_loop (by simp) (by simpa using short)]
  rfl

theorem loop_take
    {mask : List Bool}
    {index : Nat}
    (step : σ → Nat → Bool → σ)
    (state : σ)
    (inside : index ≤ mask.length) :
    loop step state 0 mask =
      loop step (loop step state 0 (mask.take index)) index (mask.drop index) := by
  conv_lhs => rw [← List.take_append_drop index mask]
  rw [loop_append, List.length_take_of_le inside, Nat.zero_add]

/-- The accumulator before a bit is below the weight of the bit. -/
theorem toNat_accumulator_lt
    {mask : List Bool}
    {index : Nat}
    (inside : index < mask.length)
    (short : mask.length ≤ capacity) :
    (accumulator mask index).toNat < 2 ^ index := by
  have sized : (mask.take index).length = index :=
    List.length_take_of_le (Nat.le_of_lt inside)
  have bound := Bits.value_lt (mask.take index)
  have fits : (mask.take index).length ≤ 64 := by
    rw [capacity] at short
    omega
  rw [accumulator, ← pack_eq_loop, toNat_pack fits]
  rwa [sized] at bound

/-- A mask that leaves the sign bit clear is packed without wrapping. -/
theorem unwrapped
    {mask : List Bool}
    {index : Nat}
    (inside : index < mask.length)
    (short : mask.length ≤ capacity) :
    Unwrapped mask index := by
  have fits : index < capacity := Nat.lt_of_lt_of_le inside short
  have below := toNat_accumulator_lt inside short
  have known := toInt_of_below below (Nat.le_of_lt fits)
  constructor
  case continues =>
    rw [pack_eq_loop]
    exact loop_take place 0 (Nat.le_of_lt inside)
  case continues_whole => exact loop_take placeWhole 0 (Nat.le_of_lt inside)
  case agrees =>
    have shortFront : (mask.take index).length ≤ capacity := by
      rw [List.length_take_of_le (Nat.le_of_lt inside)]
      exact Nat.le_of_lt fits
    rw [accumulator, ← pack_eq_loop]
    exact join_eq_loop shortFront
  case nonnegative =>
    rw [known]
    exact Int.natCast_nonneg _
  case below =>
    rw [known]
    exact_mod_cast below
  case weighs => exact toInt_one_shiftLeft fits
  case disjoint => exact and_one_shiftLeft below fits
  case adds => exact toInt_or_one_shiftLeft below fits

/-! ## Masks of one length -/

section Length

variable {length : Nat}

theorem join_nonneg_and_lt
    {mask : List Bool}
    (short : mask.length ≤ capacity) :
    0 ≤ join mask ∧ join mask < 2 ^ mask.length := by
  rw [join_eq_value short]
  exact ⟨Int.natCast_nonneg _, by exact_mod_cast Bits.value_lt mask⟩

/-- Masks of one length are packed in order, the last bit deciding first. -/
theorem join_lt_join_iff
    {left right : List Bool}
    (leftShort : left.length ≤ capacity)
    (sameLength : left.length = right.length) :
    join left < join right ↔ left.reverse < right.reverse := by
  rw [join_eq_value leftShort, join_eq_value (sameLength ▸ leftShort),
    Int.ofNat_lt, Bits.value_lt_value_iff sameLength]

/-- The masks of a length are packed one to one onto the numbers that fit. -/
theorem bijOn_join (short : length ≤ capacity) :
    Set.BijOn join {mask | mask.length = length}
      {number | 0 ≤ number ∧ number < 2 ^ length} := by
  refine ⟨?_, ?_, ?_⟩
  · rintro mask rfl
    exact join_nonneg_and_lt short
  · rintro left rfl right sameLength same
    rw [join_eq_value short, join_eq_value (sameLength.trans_le short),
      Int.ofNat_inj] at same
    exact Bits.eq_of_value_eq sameLength.symm same
  · rintro number ⟨nonnegative, fits⟩
    have small : number < 2 ^ capacity :=
      Int.lt_of_lt_of_le fits (pow_le_pow_right₀ (by decide) short)
    have high : number ≤ largest := le_largest_iff.mpr small
    have low : smallest ≤ number := Int.le_trans (by decide) nonnegative
    refine ⟨(split number length).1, length_split number length, ?_⟩
    rw [join_split low high short, Int.emod_eq_of_lt nonnegative fits]

end Length

/-- A mask that leaves the sign bit clear is packed as by the same loop in integers
of any size: before every step the accumulators agree, and the next bit is disjoint
from them and is added. The number found is not negative and below the power of
two of the length. Masks of one length are packed one to one onto all such numbers,
and in order if their last bits decide first. -/
theorem packing_never_wraps {length : Nat} (short : length ≤ 63) :
    (∀ mask : List Bool, mask.length = length →
      (∀ index < length, Unwrapped mask index) ∧
      join mask = loop placeWhole 0 0 mask ∧
      0 ≤ join mask ∧
      join mask < 2 ^ length) ∧
    Set.BijOn join {mask | mask.length = length}
      {number | 0 ≤ number ∧ number < 2 ^ length} ∧
    (∀ left right : List Bool, left.length = length → right.length = length →
      (join left < join right ↔ left.reverse < right.reverse)) := by
  refine ⟨?_, bijOn_join short, ?_⟩
  · rintro mask rfl
    exact ⟨fun index inside => unwrapped inside short, join_eq_loop short,
      join_nonneg_and_lt short⟩
  · rintro left right rfl sameLength
    exact join_lt_join_iff short sameLength.symm

/-- The longest mask with all bits set is packed to the largest number, and one with
its last bit clear to a smaller one. -/
theorem packing_fullMask :
    63 ≤ 63 ∧
      Unwrapped (List.replicate 63 true) 62 ∧
      join (List.replicate 63 true) = 2 ^ 63 - 1 ∧
      join (List.replicate 62 true ++ [false]) < join (List.replicate 63 true) := by
  have short : 63 ≤ 63 := Nat.le_refl 63
  obtain ⟨each, _, ordered⟩ := packing_never_wraps short
  obtain ⟨unwrapped, _⟩ := each (List.replicate 63 true) (by decide)
  exact ⟨short, unwrapped 62 (by decide), by decide,
    (ordered _ _ (by decide) (by decide)).mpr (by decide)⟩

end Word
end Readout
