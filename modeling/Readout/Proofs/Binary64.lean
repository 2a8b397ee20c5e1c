import Mathlib.Algebra.Order.Field.Rat
import Readout.Proofs.Rounding

/-!
# Words as numbers

A finite binary64 word stands for a significand of at most fifty-three bits times a
power of two, a whole number of units. The units that the format holds are read back
from the word that is made of them, sign included.
-/

namespace Readout
namespace Binary64

/-! ## Significand and exponent -/

/-- The significand of a finite word, the bit that is not stored included. -/
def significand (number : Binary64) : Nat :=
  let fraction := number.magnitude % 2 ^ 52
  if number.magnitude / 2 ^ 52 = 0 then fraction else 2 ^ 52 + fraction

/-- The power of two that weighs the significand of a finite word, in units. -/
def exponent (number : Binary64) : Nat :=
  number.magnitude / 2 ^ 52 - 1

/-- The number that a finite word stands for. -/
def value (number : Binary64) : ℚ :=
  number.signedUnits / 2 ^ oneExponent

theorem units_eq (number : Binary64) :
    number.units = number.significand * 2 ^ number.exponent := by
  simp only [units, significand, exponent, Nat.pow_eq]
  split
  · rename_i subnormal
    rw [subnormal, Nat.zero_sub, Nat.pow_zero, Nat.mul_one]
  · rfl

theorem significand_lt (number : Binary64) : number.significand < 2 ^ 53 := by
  have fraction := Nat.mod_lt number.magnitude (Nat.two_pow_pos 52)
  simp only [significand]
  split <;> omega

/-- The format holds the units of every word. -/
theorem holds_units (number : Binary64) : Precision.double.Holds number.units :=
  ⟨number.significand, number.exponent, number.significand_lt, Nat.zero_le _,
    number.units_eq⟩

/-- The absolute value of a magnitude with a sign. -/
theorem abs_ite_neg (negative : Prop) [Decidable negative] (magnitude : Nat) :
    |if negative then -(magnitude : ℤ) else magnitude| = magnitude := by
  split
  · rw [abs_neg, Nat.abs_cast]
  · exact Nat.abs_cast _

theorem abs_signedUnits (number : Binary64) : |number.signedUnits| = number.units :=
  abs_ite_neg _ _

/-! ## Words from a significand and an exponent -/

/-- A significand and an exponent that some finite word has. -/
structure Stored (significand exponent : Nat) : Prop where
  short : significand < 2 ^ 53
  normal : exponent = 0 ∨ 2 ^ 52 ≤ significand
  low : exponent ≤ 2045

section Magnitude

variable {magnitude : Nat} (negative : Bool) (below : magnitude < 2 ^ 63)

include below in
theorem toNat_ofMagnitude :
    (ofMagnitude negative magnitude).bits.toNat =
      negative.toNat * 2 ^ 63 + magnitude := by
  rw [ofMagnitude, UInt64.toNat_ofNat', Nat.pow_eq]
  cases negative
  · simp only [Bool.false_eq_true, if_false, Bool.toNat_false]
    omega
  · simp only [if_true, Bool.toNat_true]
    omega

include below in
theorem magnitude_ofMagnitude :
    (ofMagnitude negative magnitude).magnitude = magnitude := by
  rw [Binary64.magnitude, toNat_ofMagnitude negative below, Nat.pow_eq,
    Nat.mul_add_mod', Nat.mod_eq_of_lt below]

include below in
theorem isNegative_ofMagnitude :
    (ofMagnitude negative magnitude).isNegative = negative := by
  rw [isNegative, toNat_ofMagnitude negative below, Nat.pow_eq]
  cases negative
  · rw [Bool.toNat_false]
    exact decide_eq_false (by omega)
  · rw [Bool.toNat_true]
    exact decide_eq_true (by omega)

end Magnitude

namespace Stored

variable
  {significand exponent : Nat}
  (stored : Stored significand exponent)
  (negative : Bool)

/-- The word of a sign, a significand and an exponent. -/
def word (negative : Bool) (significand exponent : Nat) : Binary64 :=
  ofMagnitude negative (exponent * 2 ^ 52 + significand)

include stored in
theorem magnitude_word :
    (word negative significand exponent).magnitude =
      exponent * 2 ^ 52 + significand := by
  obtain ⟨short, _, low⟩ := stored
  exact magnitude_ofMagnitude negative (by omega)

include stored in
theorem isNegative_word :
    (word negative significand exponent).isNegative = negative := by
  obtain ⟨short, _, low⟩ := stored
  exact isNegative_ofMagnitude negative (by omega)

include stored in
theorem isFinite_word : (word negative significand exponent).isFinite = true := by
  rw [isFinite, stored.magnitude_word, infinityMagnitude, Nat.pow_eq]
  obtain ⟨short, _, low⟩ := stored
  exact decide_eq_true (by omega)

include stored in
theorem significand_word :
    (word negative significand exponent).significand = significand := by
  simp only [Binary64.significand, stored.magnitude_word]
  obtain ⟨short, normal, _⟩ := stored
  split <;> omega

include stored in
theorem exponent_word :
    (word negative significand exponent).exponent = exponent := by
  rw [Binary64.exponent, stored.magnitude_word]
  obtain ⟨short, normal, _⟩ := stored
  omega

end Stored

/-! ## Words from units -/

theorem double_several : 1 < Precision.double.digits := by decide

section Units

variable {units : Nat} (negative : Bool) (below : units < 2 ^ Precision.double.limit)

include below in
/-- What is kept and what is dropped of a number of units below the limit fit into
a word. -/
theorem stored_significand :
    Stored (Precision.double.significand units) (Precision.double.dropped units) where
  short := Precision.significand_lt Precision.double units
  normal := by
    rcases Nat.eq_zero_or_pos (Precision.double.dropped units) with none | some
    · exact .inl none
    · exact .inr (Precision.le_significand_of_grain_lt double_several some)
  low := by
    have size := (Bits.size_le_iff _ _).mpr below
    have limit : Precision.double.limit = 2098 := rfl
    have digits : Precision.double.digits = 53 := rfl
    have grain : Precision.double.grain = 0 := rfl
    rw [Precision.dropped]
    omega

theorem ofUnits_eq_word (units : Nat) :
    ofUnits negative units =
      Stored.word negative (Precision.double.significand units)
        (Precision.double.dropped units) := by
  rw [Stored.word, Precision.significand, Precision.dropped]
  simp only [ofUnits, Precision.double, Nat.zero_max, Nat.pow_eq]

include below in
theorem isFinite_ofUnits : (ofUnits negative units).isFinite = true := by
  rw [ofUnits_eq_word]
  exact (stored_significand below).isFinite_word negative

include below in
theorem significand_ofUnits :
    (ofUnits negative units).significand = Precision.double.significand units := by
  rw [ofUnits_eq_word]
  exact (stored_significand below).significand_word negative

include below in
/-- Units that the format holds are read back from their word. -/
theorem units_ofUnits (held : Precision.double.Holds units) :
    (ofUnits negative units).units = units := by
  have stored := stored_significand below
  rw [units_eq, ofUnits_eq_word, stored.significand_word, stored.exponent_word]
  exact Precision.significand_mul double_several held

include below in
theorem signedUnits_ofUnits (held : Precision.double.Holds units) :
    (ofUnits negative units).signedUnits =
      if negative then -(units : Int) else units := by
  rw [signedUnits, units_ofUnits negative below held, ofUnits_eq_word,
    (stored_significand below).isNegative_word]

end Units
end Binary64
end Readout
