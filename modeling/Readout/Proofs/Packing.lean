import Mathlib.Tactic.Positivity
import Readout.Bits
import Readout.Word

/-!
# Packing and unpacking against arithmetic

Packing a mask adds the weights of its set bits, as long as they stay below the
sign bit. Unpacking divides: the bits are the remainders of repeated halving, and
what remains is the quotient, rounded down. A list of bits is determined by its
length and its value, so the two operations undo each other.
-/

namespace Readout
namespace Bits

/-- A list of bits stands for a number below the power of two of its length. -/
theorem value_lt (bits : List Bool) : value bits < 2 ^ bits.length := by
  induction bits with
  | nil => simp
  | cons bit rest inductionHypothesis =>
      cases bit <;> simp [Nat.pow_succ] <;> omega

/-- The size of a number is the least width that holds it. -/
theorem size_le_iff (number width : Nat) :
    size number ≤ width ↔ number < 2 ^ width := by
  by_cases isZero : number = 0
  · rw [isZero]
    exact iff_of_true (Nat.zero_le width) (Nat.two_pow_pos width)
  · rw [size, if_neg isZero, Nat.succ_le_iff, Nat.log2_lt isZero]

/-- Two lists of bits of one length and one value are the same. -/
theorem eq_of_value_eq
    {left right : List Bool}
    (sameLength : left.length = right.length)
    (sameValue : value left = value right) :
    left = right := by
  induction left generalizing right with
  | nil => exact (List.length_eq_zero_iff.mp sameLength.symm).symm
  | cons bit rest inductionHypothesis =>
      cases right with
      | nil => simp at sameLength
      | cons other others =>
          rw [value_cons, value_cons] at sameValue
          have bitBound : bit.toNat ≤ 1 := Bool.toNat_le bit
          have otherBound : other.toNat ≤ 1 := Bool.toNat_le other
          have sameRest : value rest = value others := by omega
          have sameBit : bit = other := by
            cases bit <;> cases other <;> simp at sameValue ⊢ <;> omega
          rw [inductionHypothesis (Nat.succ.inj sameLength) sameRest, sameBit]

/-- The bit at an index of a list is the bit of that weight of its value. -/
theorem testBit_value (bits : List Bool) (index : Nat) :
    (value bits).testBit index = bits.getD index false := by
  induction bits generalizing index with
  | nil => simp
  | cons bit rest inductionHypothesis =>
      have split : value (bit :: rest) = 2 * value rest + bit.toNat :=
        Nat.add_comm _ _
      cases index with
      | zero => cases bit <;> simp [split]
      | succ index =>
          have halved : (2 * value rest + bit.toNat) / 2 = value rest := by
            have bitBound : bit.toNat ≤ 1 := Bool.toNat_le bit
            omega
          rw [split, Nat.testBit_succ, halved, inductionHypothesis,
            List.getD_cons_succ]

end Bits

namespace Word

/-! ## Packing -/

theorem toNat_one_shiftLeft {index : Nat} (fits : index < 64) :
    (1#64 <<< index).toNat = 2 ^ index := by
  have weightFits : 2 ^ index < 2 ^ 64 :=
    Nat.pow_lt_pow_right (by decide) fits
  rw [BitVec.toNat_shiftLeft, BitVec.toNat_ofNat, Nat.shiftLeft_eq,
    Nat.one_mod_two_pow (by decide), Nat.one_mul, Nat.mod_eq_of_lt weightFits]

/-- Placing a bit above an accumulator adds its weight. -/
theorem toNat_place
    {accumulator : Word}
    {index : Nat}
    (bit : Bool)
    (below : accumulator.toNat < 2 ^ index)
    (fits : index < 64) :
    (accumulator.place index bit).toNat =
      accumulator.toNat + 2 ^ index * bit.toNat := by
  cases bit with
  | false => simp [place]
  | true =>
      -- The accumulator has no bit at the index, so the two are disjoint.
      rw [place, if_pos rfl, BitVec.toNat_or, toNat_one_shiftLeft fits,
        Nat.or_two_pow_eq_add_of_lt below]
      simp

/-- Placing a bit leaves the accumulator below the weight of the next bit. -/
theorem toNat_place_lt
    {accumulator : Word}
    {index : Nat}
    (bit : Bool)
    (below : accumulator.toNat < 2 ^ index)
    (fits : index < 64) :
    (accumulator.place index bit).toNat < 2 ^ (index + 1) := by
  have bitBound : 2 ^ index * bit.toNat ≤ 2 ^ index * 1 :=
    Nat.mul_le_mul_left _ (Bool.toNat_le bit)
  rw [toNat_place bit below fits, Nat.pow_succ]
  omega

/-- Placing bits from an index on adds their value at the weight of the index. -/
theorem toNat_placeAll
    {accumulator : Word}
    {index : Nat}
    {bits : List Bool}
    (below : accumulator.toNat < 2 ^ index)
    (fits : index + bits.length ≤ 64) :
    (placeAll accumulator index bits).toNat =
      accumulator.toNat + 2 ^ index * Bits.value bits := by
  induction bits generalizing accumulator index with
  | nil => simp
  | cons bit rest inductionHypothesis =>
      rw [List.length_cons] at fits
      have belowNext := toNat_place_lt bit below (by omega)
      rw [placeAll_cons, inductionHypothesis belowNext (by omega),
        toNat_place bit below (by omega), Bits.value_cons, Nat.pow_succ,
        Nat.mul_add, Nat.mul_assoc, Nat.add_assoc]

/-- A mask that fits into a word packs to its value. -/
theorem toNat_pack {mask : List Bool} (fits : mask.length ≤ 64) :
    (pack mask).toNat = Bits.value mask := by
  rw [pack, toNat_placeAll (by simp) (by simpa using fits)]
  simp

/-- A mask that leaves the sign bit clear joins to its value. -/
theorem join_eq_value {mask : List Bool} (fits : mask.length ≤ capacity) :
    join mask = (Bits.value mask : Int) := by
  have packed : (pack mask).toNat = Bits.value mask :=
    toNat_pack (Nat.le_trans fits (by decide))
  have bound : Bits.value mask < 2 ^ capacity :=
    Nat.lt_of_lt_of_le (Bits.value_lt mask)
      (Nat.pow_le_pow_right (by decide) fits)
  rw [join, BitVec.toInt_eq_toNat_of_lt, packed]
  rw [packed]
  rw [capacity] at bound
  omega

/-! ## Unpacking -/

/-- The lowest bit of a word is the parity of its number. -/
theorem toInt_eq_bit_add_shifted (word : Word) :
    word.toInt =
      (word.getLsbD 0).toNat + 2 * (word.sshiftRight 1).toInt := by
  have parity : ((word.getLsbD 0).toNat : Int) = word.toInt % 2 := by
    rw [BitVec.toInt_eq_toNat_cond, ← BitVec.testBit_toNat, Nat.testBit_zero]
    rcases Nat.mod_two_eq_zero_or_one word.toNat with even | odd
    · rw [decide_eq_false (by omega)]
      split <;> simp <;> omega
    · rw [decide_eq_true odd]
      split <;> simp <;> omega
  rw [BitVec.toInt_sshiftRight, Int.shiftRight_eq_div_pow, parity]
  omega

/-- The bits and what remains make up the number of a word. -/
theorem toInt_eq_value_add_rest (width : Nat) (word : Word) :
    word.toInt =
      (Bits.value (unpack width word).1 : Int) +
        2 ^ width * (unpack width word).2.toInt := by
  induction width generalizing word with
  | zero => simp
  | succ width inductionHypothesis =>
      have shifted := inductionHypothesis (word.sshiftRight 1)
      have halved := toInt_eq_bit_add_shifted word
      rw [unpack_succ, Bits.value_cons, Int.pow_succ', Int.mul_assoc]
      push_cast
      omega

/-! ## Splitting numbers -/

/-- The largest number is the last one below the weight of the sign bit. -/
theorem le_largest_iff {number : Int} :
    number ≤ largest ↔ number < 2 ^ capacity := by
  have weight : largest = 2 ^ capacity - 1 := rfl
  rw [weight, Int.le_sub_one_iff]

theorem smallest_le_iff {number : Int} :
    smallest ≤ number ↔ -2 ^ capacity ≤ number :=
  Iff.rfl

/-- A number that fits into a short width fits into a word. -/
theorem cast_le_largest
    {number width : Nat}
    (short : width ≤ capacity)
    (fits : number < 2 ^ width) :
    (number : Int) ≤ largest := by
  have bound : number < 2 ^ capacity :=
    Nat.lt_of_lt_of_le fits (Nat.pow_le_pow_right (by decide) short)
  exact le_largest_iff.mpr (by exact_mod_cast bound)

/-- A number that fits into a word is the number of its word. -/
theorem toInt_ofInt
    {number : Int}
    (low : smallest ≤ number)
    (high : number ≤ largest) :
    (BitVec.ofInt 64 number).toInt = number := by
  have below := le_largest_iff.mp high
  have above := smallest_le_iff.mp low
  rw [capacity] at below above
  exact BitVec.toInt_ofInt_eq_self (by decide) (by omega) (by omega)

/-- The bits that are split off a number and what remains make up the number. -/
theorem eq_value_add_rest
    {number : Int}
    (low : smallest ≤ number)
    (high : number ≤ largest)
    (width : Nat) :
    number =
      (Bits.value (split number width).1 : Int) +
        2 ^ width * (split number width).2 := by
  have parts := toInt_eq_value_add_rest width (BitVec.ofInt 64 number)
  rw [toInt_ofInt low high] at parts
  exact parts

/-- What remains of a number is its quotient, rounded down. -/
theorem split_snd
    {number : Int}
    (low : smallest ≤ number)
    (high : number ≤ largest)
    (width : Nat) :
    (split number width).2 = number / 2 ^ width := by
  have bound : (Bits.value (split number width).1 : Int) < 2 ^ width := by
    have valueBound := Bits.value_lt (split number width).1
    rw [length_split] at valueBound
    exact_mod_cast valueBound
  have positive : (0 : Int) < 2 ^ width := by positivity
  conv_rhs => rw [eq_value_add_rest low high width]
  rw [Int.add_mul_ediv_left _ _ (Int.ne_of_gt positive),
    Int.ediv_eq_zero_of_lt (Int.natCast_nonneg _) bound, Int.zero_add]

/-- Nothing remains of a number exactly if it fits into the width. -/
theorem split_snd_eq_zero_iff
    {number : Int}
    (nonnegative : 0 ≤ number)
    (high : number ≤ largest)
    (width : Nat) :
    (split number width).2 = 0 ↔ number < 2 ^ width := by
  have low : smallest ≤ number := Int.le_trans (by decide) nonnegative
  have positive : (0 : Int) < 2 ^ width := by positivity
  rw [split_snd low high]
  constructor
  · intro quotient
    exact (Int.ediv_lt_iff_lt_mul positive).mp (by omega) |>.trans_eq
      (Int.one_mul _)
  · intro fits
    exact Int.ediv_eq_zero_of_lt nonnegative fits

/-- The bits of a number that fits into the width stand for the number. -/
theorem value_split
    {number : Nat}
    {width : Nat}
    (high : (number : Int) ≤ largest)
    (fits : number < 2 ^ width) :
    Bits.value (split number width).1 = number := by
  have nonnegative : (0 : Int) ≤ number := Int.natCast_nonneg number
  have low : smallest ≤ (number : Int) := Int.le_trans (by decide) nonnegative
  have parts := eq_value_add_rest low high width
  rw [(split_snd_eq_zero_iff nonnegative high width).mpr (by exact_mod_cast fits),
    Int.mul_zero, Int.add_zero] at parts
  exact_mod_cast parts.symm

/-- Splitting the value of a list at its own length gives the list back. -/
theorem split_value
    {bits : List Bool}
    (short : bits.length ≤ capacity) :
    (split (Bits.value bits) bits.length).1 = bits := by
  have fits := Bits.value_lt bits
  have high := cast_le_largest short fits
  exact Bits.eq_of_value_eq (length_split _ _) (value_split high fits)

end Word
end Readout
