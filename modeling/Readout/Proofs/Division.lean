import Readout.Proofs.Reading

/-!
# Splitting as division

Splitting the low bits off a number divides it by a power of two: the bits stand
for the remainder, and what remains is the quotient, rounded down. This holds for
negative numbers and for widths beyond a word as well, since arithmetic shifts
bring in as many copies of the sign bit as are asked for.
-/

namespace Readout
namespace Word

/-! ## Which bits are split off -/

/-- The bit of a word at an index, the sign bit standing for all bits above. -/
def extendedBit (word : Word) (index : Nat) : Bool :=
  if index < 64 then word.getLsbD index else word.msb

/-- An arithmetic shift moves the bits down and repeats the sign bit. -/
theorem extendedBit_shifted (word : Word) (index : Nat) :
    extendedBit (word.sshiftRight 1) index = extendedBit word (index + 1) := by
  rw [extendedBit, extendedBit, BitVec.msb_sshiftRight, BitVec.getLsbD_sshiftRight,
    Nat.add_comm 1 index]
  by_cases inside : index < 64
  · rw [if_pos inside, decide_eq_false (Nat.not_le.mpr inside), Bool.not_false,
      Bool.true_and]
  · have above : ¬index + 1 < 64 := fun below => inside (by omega)
    rw [if_neg inside, if_neg above]

/-- Unpacking yields the bits of a word in order, then copies of its sign bit. -/
theorem getElem_unpack
    (width : Nat)
    (word : Word)
    (index : Nat)
    (inside : index < (unpack width word).1.length) :
    (unpack width word).1[index] = extendedBit word index := by
  induction width generalizing word index with
  | zero => cases inside
  | succ width inductionHypothesis =>
      cases index with
      | zero => rfl
      | succ index =>
          rw [← extendedBit_shifted]
          exact inductionHypothesis (word.sshiftRight 1) index
            (Nat.lt_of_succ_lt_succ inside)

theorem extendedBit_eq_getLsbD
    {width index : Nat}
    (word : Word)
    (inside : index < width) :
    extendedBit word index = (word.signExtend width).getLsbD index := by
  rw [BitVec.getLsbD_signExtend, decide_eq_true inside, Bool.true_and, extendedBit]

/-! ## What they stand for -/

/-- The value of a list of bits is the sum of the weights of its set bits. -/
theorem value_eq_weight_self (bits : List Bool) :
    Bits.value bits = Register.weight (· = true) bits :=
  Register.value_eq_weight (List.forall₂_same.mpr fun _ _ => Iff.rfl)

section Number

variable {number : Int}

/-- Nothing remains exactly of the numbers that are not negative and fit into the
width. -/
theorem rest_eq_zero_iff
    (low : smallest ≤ number)
    (high : number ≤ largest)
    (width : Nat) :
    (split number width).2 = 0 ↔ 0 ≤ number ∧ number < 2 ^ width := by
  have positive : (0 : Int) < 2 ^ width := by positivity
  by_cases negative : number < 0
  · have below := Int.ediv_neg_of_neg_of_pos negative positive
    rw [split_snd low high]
    constructor
    · intro nothing
      omega
    · rintro ⟨nonnegative, _⟩
      omega
  · have nonnegative : 0 ≤ number := Int.not_lt.mp negative
    rw [split_snd_eq_zero_iff nonnegative high]
    exact (and_iff_right nonnegative).symm

/-- A short mask that is split off a number packs to the remainder. -/
theorem join_split
    {width : Nat}
    (low : smallest ≤ number)
    (high : number ≤ largest)
    (short : width ≤ capacity) :
    join (split number width).1 = number % 2 ^ width := by
  have standsFor : join (split number width).1 =
      (Bits.value (split number width).1 : Int) := by
    apply join_eq_value
    rwa [length_split]
  have bound : (Bits.value (split number width).1 : Int) < 2 ^ width := by
    have valueBound := Bits.value_lt (split number width).1
    rw [length_split] at valueBound
    exact_mod_cast valueBound
  conv_rhs => rw [eq_value_add_rest low high width]
  rw [standsFor, Int.add_mul_emod_self_left,
    Int.emod_eq_of_lt (Int.natCast_nonneg _) bound]

/-- Splitting the low bits off a number of a word divides it by a power of two with
a remainder. The bits are those of the number, extended by its sign, and weigh as
much as the remainder; what remains is the quotient, rounded down. It is zero
exactly for the numbers that fit into the width, and negative for negative ones. -/
theorem split_divides
    (low : -2 ^ 63 ≤ number)
    (high : number ≤ 2 ^ 63 - 1)
    (width : Nat) :
    (split number width).1.length = width ∧
    (split number width).2 = number / 2 ^ width ∧
    number =
      (Register.weight (· = true) (split number width).1 : Int) +
        (split number width).2 * 2 ^ width ∧
    (∀ index (inside : index < (split number width).1.length),
      (split number width).1[index] =
        ((BitVec.ofInt 64 number).signExtend width).getLsbD index) ∧
    ((split number width).2 = 0 ↔ 0 ≤ number ∧ number < 2 ^ width) ∧
    (number < 0 → (split number width).2 < 0) ∧
    (width ≤ 63 → join (split number width).1 = number % 2 ^ width) := by
  have positive : (0 : Int) < 2 ^ width := by positivity
  have quotient := split_snd low high width
  refine ⟨length_split number width, quotient, ?_, ?_, rest_eq_zero_iff low high width,
    ?_, fun short => join_split low high short⟩
  · rw [← value_eq_weight_self, Int.mul_comm]
    exact eq_value_add_rest low high width
  · intro index inside
    have below : index < width := by rwa [length_split] at inside
    rw [← extendedBit_eq_getLsbD _ below]
    exact getElem_unpack width (BitVec.ofInt 64 number) index inside
  · intro negative
    rw [quotient]
    exact Int.ediv_neg_of_neg_of_pos negative positive

end Number

/-- Minus six at a width beyond a word leaves minus one and ends in ones. -/
theorem split_minus_six :
    (-2 ^ 63 : Int) ≤ -6 ∧ (-6 : Int) ≤ 2 ^ 63 - 1 ∧
      (split (-6) 66).2 = -1 ∧
      (split (-6) 66).1 = [false, true, false] ++ List.replicate 63 true := by
  have low : (-2 ^ 63 : Int) ≤ -6 := by decide
  have high : (-6 : Int) ≤ 2 ^ 63 - 1 := by decide
  obtain ⟨_, quotient, _⟩ := split_divides low high 66
  exact ⟨low, high, quotient, by decide⟩

end Word
end Readout
