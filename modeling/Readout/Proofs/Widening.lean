import Mathlib.Algebra.Order.Field.Power
import Mathlib.Tactic.Linarith
import Mathlib.Tactic.Positivity
import Readout.Conversion
import Readout.Proofs.Binary64
import Readout.Proofs.Endings
import Readout.Proofs.Views

/-!
# Widening rounds correctly

An integer of any size becomes the binary64 number nearest to it, and of two equally
near ones the one with the even significand. It is too large from halfway between the
largest binary64 number and the next power of two on.
-/

namespace Readout
namespace Binary64

/-- A finite word is what a number is rounded to: no finite word is nearer, and if a
word of another value is as near, the significand is even. -/
structure RoundsTo (target : ℚ) (real : Binary64) : Prop where
  finite : real.isFinite = true
  nearest : ∀ other : Binary64, other.isFinite = true →
    |real.value - target| ≤ |other.value - target|
  even : ∀ other : Binary64, other.isFinite = true → other.value ≠ real.value →
    |other.value - target| = |real.value - target| → real.significand % 2 = 0

/-! ## Integers in units -/

/-- The absolute value of an integer in units. -/
def unitsOfInt (number : Int) : Nat :=
  number.natAbs * 2 ^ oneExponent

theorem ofInt?_eq (number : Int) :
    ofInt? number =
      (Precision.double.round? (unitsOfInt number)).map (ofUnits (number < 0)) := by
  rw [ofInt?, unitsOfInt, Nat.mul_comm, Nat.pow_eq]

/-- An integer in units, sign included. -/
theorem mul_units_eq (number : Int) :
    number * 2 ^ oneExponent =
      if number < 0 then -(unitsOfInt number : ℤ) else unitsOfInt number := by
  have absolute : (unitsOfInt number : ℤ) = |number| * 2 ^ oneExponent := by
    rw [unitsOfInt]
    push_cast
    rfl
  rw [absolute]
  split
  · rename_i negative
    rw [abs_of_neg negative, Int.neg_mul, Int.neg_neg]
  · rename_i positive
    rw [abs_of_nonneg (not_lt.mp positive)]

theorem abs_mul_units (number : Int) :
    |number * 2 ^ oneExponent| = (unitsOfInt number : ℤ) := by
  rw [mul_units_eq, abs_ite_neg]

/-- A common power of two does not matter for whether a sum reaches a bound. -/
theorem two_pow_add_le_iff (high low unit : Nat) (number : Int) :
    2 ^ (high + unit) ≤ number.natAbs * 2 ^ unit + 2 ^ (low + unit) ↔
      2 ^ high - 2 ^ low ≤ |number| := by
  rw [Nat.pow_add, Nat.pow_add, ← Nat.add_mul,
    Nat.mul_le_mul_right_iff (Nat.two_pow_pos unit), sub_le_iff_le_add,
    ← Int.natCast_natAbs]
  norm_cast

/-- An integer is rounded beyond the largest finite word from halfway to the next
power of two on. -/
theorem ofInt?_eq_none_iff (number : Int) :
    ofInt? number = none ↔ 2 ^ 1024 - 2 ^ 970 ≤ |number| := by
  have limit : Precision.double.limit = 1024 + oneExponent := rfl
  have gap : Precision.double.limit - Precision.double.digits - 1 = 970 + oneExponent :=
    rfl
  rw [ofInt?_eq, Option.map_eq_none_iff,
    Precision.round?_eq_none_iff double_several (by decide), Precision.halfGap, gap,
    limit, unitsOfInt]
  exact two_pow_add_le_iff 1024 970 oneExponent number

section Rounded

variable {number : Int} {real : Binary64}

/-- The word that an integer is rounded to is made of its rounded units. -/
theorem eq_ofUnits_of_ofInt? (rounded : ofInt? number = some real) :
    real =
      ofUnits (number < 0) (Precision.double.round (unitsOfInt number)) ∧
    Precision.double.round (unitsOfInt number) < 2 ^ Precision.double.limit := by
  rw [ofInt?_eq, Option.map_eq_some_iff] at rounded
  obtain ⟨units, rounded, rfl⟩ := rounded
  obtain ⟨rfl, below⟩ := Precision.round?_eq_some_iff.mp rounded
  exact ⟨rfl, below⟩

theorem isFinite_of_ofInt? (rounded : ofInt? number = some real) :
    real.isFinite = true := by
  obtain ⟨rfl, below⟩ := eq_ofUnits_of_ofInt? rounded
  exact isFinite_ofUnits _ below

theorem significand_of_ofInt? (rounded : ofInt? number = some real) :
    real.significand =
      Precision.double.significand (Precision.double.round (unitsOfInt number)) := by
  obtain ⟨rfl, below⟩ := eq_ofUnits_of_ofInt? rounded
  exact significand_ofUnits _ below

theorem signedUnits_of_ofInt? (rounded : ofInt? number = some real) :
    real.signedUnits =
      if number < 0 then -(Precision.double.round (unitsOfInt number) : ℤ)
      else Precision.double.round (unitsOfInt number) := by
  obtain ⟨rfl, below⟩ := eq_ofUnits_of_ofInt? rounded
  rw [signedUnits_ofUnits _ below (Precision.holds_round double_several _)]
  simp only [decide_eq_true_eq]

theorem abs_signedUnits_of_ofInt? (rounded : ofInt? number = some real) :
    |real.signedUnits| = (Precision.double.round (unitsOfInt number) : ℤ) := by
  rw [signedUnits_of_ofInt? rounded, abs_ite_neg]

/-- The distance of a word from an integer, in units. -/
theorem value_sub_eq (other : Binary64) (number : Int) :
    |other.value - number| =
      (|other.signedUnits - number * 2 ^ oneExponent| : ℤ) / 2 ^ oneExponent := by
  have positive : (0 : ℚ) < 2 ^ oneExponent := by positivity
  have scaled : other.value - number =
      (other.signedUnits - number * 2 ^ oneExponent : ℤ) / 2 ^ oneExponent := by
    rw [value]
    push_cast
    rw [sub_div, mul_div_cancel_right₀ _ positive.ne']
  rw [scaled, abs_div, abs_of_pos positive, Int.cast_abs]

/-- No word is nearer to an integer than its units are to those of the integer. -/
theorem abs_units_sub_le (other : Binary64) (number : Int) :
    |(other.units : ℤ) - unitsOfInt number| ≤
      |other.signedUnits - number * 2 ^ oneExponent| := by
  rw [← abs_signedUnits, ← abs_mul_units]
  exact abs_abs_sub_abs_le _ _

/-- The word that an integer is rounded to has its sign, so it is as near as the units
are. -/
theorem abs_round_sub_eq (rounded : ofInt? number = some real) :
    |real.signedUnits - number * 2 ^ oneExponent| =
      |(Precision.double.round (unitsOfInt number) : ℤ) - unitsOfInt number| := by
  rw [signedUnits_of_ofInt? rounded, mul_units_eq]
  split
  · rw [neg_sub_neg, abs_sub_comm]
  · rfl

/-- A word that is as near to an integer as the one it is rounded to is not the
opposite of that one. -/
theorem units_ne_of_tied
    {other : Binary64}
    (rounded : ofInt? number = some real)
    (distinct : other.signedUnits ≠ real.signedUnits)
    (tied : |other.signedUnits - number * 2 ^ oneExponent| =
      |real.signedUnits - number * 2 ^ oneExponent|) :
    other.units ≠ Precision.double.round (unitsOfInt number) := by
  intro same
  have absolute := abs_signedUnits_of_ofInt? rounded
  have sameAbsolute : |other.signedUnits| = |real.signedUnits| := by
    rw [abs_signedUnits, absolute, same]
  have opposite := (abs_eq_abs.mp sameAbsolute).resolve_left distinct
  have notZero : real.signedUnits ≠ 0 := by
    intro zero
    rw [zero, neg_zero] at opposite
    exact distinct (opposite.trans zero.symm)
  rw [opposite] at tied
  have zeroNumber : number * 2 ^ oneExponent = 0 := by
    rcases abs_eq_abs.mp tied with equal | equal
    · omega
    · omega
  have zeroUnits : unitsOfInt number = 0 := by
    have units := abs_mul_units number
    rw [zeroNumber, abs_zero] at units
    exact_mod_cast units.symm
  rw [zeroUnits, Precision.round_zero double_several] at absolute
  exact notZero (abs_eq_zero.mp absolute)

/-- The word that an integer is rounded to is correctly rounded. -/
theorem roundsTo_of_ofInt? (rounded : ofInt? number = some real) :
    real.RoundsTo number where
  finite := isFinite_of_ofInt? rounded
  nearest := by
    intro other _
    have positive : (0 : ℚ) < 2 ^ oneExponent := by positivity
    rw [value_sub_eq, value_sub_eq, div_le_div_iff_of_pos_right positive, Int.cast_le]
    calc
      |real.signedUnits - number * 2 ^ oneExponent| =
          |(Precision.double.round (unitsOfInt number) : ℤ) - unitsOfInt number| :=
        abs_round_sub_eq rounded
      _ ≤ |(other.units : ℤ) - unitsOfInt number| :=
        Precision.round_nearest double_several other.holds_units _
      _ ≤ _ := abs_units_sub_le other number
  even := by
    intro other _ distinct tied
    have positive : (0 : ℚ) < 2 ^ oneExponent := by positivity
    rw [value_sub_eq, value_sub_eq, div_left_inj' positive.ne', Int.cast_inj] at tied
    have unitsDistinct := units_ne_of_tied rounded
      (fun same => distinct (by rw [value, value, same])) tied
    have unitsTied : |(other.units : ℤ) - unitsOfInt number| =
        |(Precision.double.round (unitsOfInt number) : ℤ) - unitsOfInt number| := by
      apply le_antisymm
      · rw [← abs_round_sub_eq rounded, ← tied]
        exact abs_units_sub_le other number
      · exact Precision.round_nearest double_several other.holds_units _
    rw [significand_of_ofInt? rounded]
    exact Precision.significand_round_even double_several
      (Precision.shiftRounded_even_of_tied double_several other.holds_units
        unitsDistinct unitsTied)

/-- An integer is rounded to itself exactly if the format holds its units. -/
theorem value_eq_iff_holds (rounded : ofInt? number = some real) :
    real.value = number ↔ Precision.double.Holds (unitsOfInt number) := by
  rw [← Precision.round_eq_self_iff double_several, ← sub_eq_zero, ← abs_eq_zero,
    value_sub_eq, abs_round_sub_eq rounded, div_eq_zero_iff]
  have positive : (2 ^ oneExponent : ℚ) ≠ 0 := by positivity
  rw [or_iff_left positive, Int.cast_eq_zero, abs_eq_zero, sub_eq_zero, Nat.cast_inj]

end Rounded

/-! ## Integers that are words -/

/-- A number is an integer of at most fifty-three bits times a power of two. -/
def IsShort (number : ℚ) : Prop :=
  ∃ factor exponent : ℤ, number = factor * 2 ^ exponent ∧ |factor| < 2 ^ 53

theorem IsShort.neg {number : ℚ} (isShort : IsShort number) : IsShort (-number) := by
  obtain ⟨factor, exponent, number_eq, short⟩ := isShort
  refine ⟨-factor, exponent, ?_, (abs_neg factor).trans_lt short⟩
  rw [number_eq, Int.cast_neg, neg_mul]

/-- An integer of at most fifty-three bits is short, also if it is a power of two of
one bit more. -/
theorem isShort_of_abs_le {number : ℤ} (small : |number| ≤ 2 ^ 53) :
    IsShort number := by
  rcases small.lt_or_eq with inside | boundary
  · exact ⟨number, 0, by rw [zpow_zero, mul_one], inside⟩
  · have positive : IsShort (2 ^ 53 : ℤ) := ⟨1, 53, by norm_num, by norm_num⟩
    rcases (abs_eq (by positivity)).mp boundary with same | opposite
    · rw [same]
      exact positive
    · rw [opposite, Int.cast_neg]
      exact positive.neg

/-- If the format holds the units of an integer, it is short. -/
theorem isShort_of_holds
    {number : ℤ}
    (held : Precision.double.Holds (unitsOfInt number)) :
    IsShort number := by
  have absolute : IsShort (number.natAbs : ℤ) := by
    obtain ⟨significand, exponent, short, _, units⟩ := held
    refine ⟨significand, exponent - oneExponent, ?_, ?_⟩
    · have units : (number.natAbs : ℚ) * 2 ^ oneExponent = significand * 2 ^ exponent := by
        exact_mod_cast units
      have positive : (0 : ℚ) < 2 ^ oneExponent := by positivity
      rw [zpow_sub₀ two_ne_zero, zpow_natCast, zpow_natCast, ← mul_div_assoc,
        Int.cast_natCast, Int.cast_natCast, ← units,
        mul_div_cancel_right₀ _ positive.ne']
    · rw [Nat.abs_cast]
      exact_mod_cast short
  rcases number.natAbs_eq with same | opposite
  · rwa [same]
  · rw [opposite, Int.cast_neg]
    exact absolute.neg

/-- The format holds the units of a short integer. -/
theorem holds_of_isShort {number : ℤ} (isShort : IsShort number) :
    Precision.double.Holds (unitsOfInt number) := by
  obtain ⟨factor, exponent, number_eq, short⟩ := isShort
  rw [← Int.natCast_natAbs] at short
  have few : factor.natAbs < 2 ^ 53 := by exact_mod_cast short
  rcases lt_or_ge exponent 0 with negative | positive
  · refine ⟨number.natAbs, oneExponent, lt_of_le_of_lt ?_ few, Nat.zero_le _, rfl⟩
    have scale : (2 : ℚ) ^ exponent ≤ 1 := zpow_le_one_of_nonpos₀ one_le_two negative.le
    have smaller : |(number : ℚ)| ≤ |(factor : ℚ)| := by
      have positive : (0 : ℚ) < 2 ^ exponent := zpow_pos two_pos exponent
      rw [number_eq, abs_mul, abs_of_pos positive]
      exact mul_le_of_le_one_right (abs_nonneg _) scale
    rw [← Int.cast_abs, ← Int.cast_abs, Int.cast_le, ← Int.natCast_natAbs,
      ← Int.natCast_natAbs] at smaller
    exact_mod_cast smaller
  · obtain ⟨exponent, rfl⟩ := Int.eq_ofNat_of_zero_le positive
    refine ⟨factor.natAbs, exponent + oneExponent, few, Nat.zero_le _, ?_⟩
    have whole : number = factor * 2 ^ exponent := by
      rw [zpow_natCast] at number_eq
      exact_mod_cast number_eq
    rw [unitsOfInt, whole, Int.natAbs_mul, Int.natAbs_pow, Nat.pow_add, Nat.mul_assoc]
    rfl

/-- Of two numbers the larger one is not rounded to a smaller word. -/
theorem RoundsTo.value_le
    {lower upper : ℚ}
    {left right : Binary64}
    (leftRounds : left.RoundsTo lower)
    (rightRounds : right.RoundsTo upper)
    (below : lower < upper) :
    left.value ≤ right.value := by
  have leftNear := leftRounds.nearest right rightRounds.finite
  have rightNear := rightRounds.nearest left leftRounds.finite
  by_contra above
  have crossed := not_le.mp above
  have leftSide := le_abs_self (left.value - lower)
  have rightSide := neg_le_abs (right.value - upper)
  have lowerHigh : left.value + right.value ≤ 2 * lower := by
    rcases abs_cases (right.value - lower) with ⟨distance, _⟩ | ⟨distance, _⟩
    · linarith
    · linarith
  have upperLow : 2 * upper ≤ left.value + right.value := by
    rcases abs_cases (left.value - upper) with ⟨distance, _⟩ | ⟨distance, _⟩
    · linarith
    · linarith
  linarith

end Binary64

/-- An integer is read as itself. -/
theorem Argument.integer_eq_pure
    {value : Value}
    {number : Int}
    (name : String)
    (isNumber : value.IsInteger number) :
    Argument.integer name value = pure number := by
  unfold Argument.integer
  rw [Value.integer?_eq_some_iff.mpr isNumber]

namespace Widening

open Binary64

variable {value : Value} {number : Int}

/-- An integer that is rounded to a word is widened to it. -/
theorem run_asReal_of_some
    {real : Binary64}
    (isNumber : value.IsInteger number)
    (rounded : ofInt? number = some real) :
    Conversion.run (.asReal value) = pure (.real real) := by
  unfold Conversion.run asReal realOfInteger
  simp only [Argument.integer_eq_pure _ isNumber, pure_bind, rounded,
    Session.ofExcept_ok, map_pure]

/-- An integer that is rounded to no word is refused. -/
theorem run_asReal_of_none
    (isNumber : value.IsInteger number)
    (beyond : ofInt? number = none) :
    Conversion.run (.asReal value) = Session.fail .realOverflow := by
  unfold Conversion.run asReal realOfInteger
  simp only [Argument.integer_eq_pure _ isNumber, pure_bind, beyond,
    Session.ofExcept_error]
  rfl

/-- A word that an integer is widened to is what it is rounded to. -/
theorem ofInt?_eq_some_of_run
    {real : Binary64}
    (isNumber : value.IsInteger number)
    (widened : Conversion.run (.asReal value) = pure (.real real)) :
    ofInt? number = some real := by
  have results := congrArg Session.result widened
  rw [Session.result_pure] at results
  cases rounded : ofInt? number with
  | none =>
      rw [run_asReal_of_none isNumber rounded] at results
      cases results
  | some other =>
      rw [run_asReal_of_some isNumber rounded, Session.result_pure] at results
      rw [Value.real.inj (Except.ok.inj results)]

/-- Widening integers to binary64 numbers is correctly rounded. An integer that is
too large fails without a notice. Every other integer becomes the nearest binary64
number, the one with the even significand if two are equally near. It keeps its value
exactly if it is short, and larger integers do not become smaller numbers. -/
theorem asReal_rounds_to_nearest (isNumber : value.IsInteger number) :
    (2 ^ 1024 - 2 ^ 970 ≤ |number| →
      (Conversion.run (.asReal value)).FailsWith .overflow
        "int too large to convert to float") ∧
    (|number| < 2 ^ 1024 - 2 ^ 970 →
      ∃ real : Binary64,
        Conversion.run (.asReal value) = pure (.real real) ∧
        real.RoundsTo number ∧
        (real.value = number ↔
          ∃ factor exponent : ℤ,
            (number : ℚ) = factor * 2 ^ exponent ∧ |factor| < 2 ^ 53) ∧
        (|number| ≤ 2 ^ 53 → real.value = number) ∧
        ∀ (other : Value) (larger : Int) (upper : Binary64),
          other.IsInteger larger → number ≤ larger →
          Conversion.run (.asReal other) = pure (.real upper) →
          real.value ≤ upper.value) := by
  constructor
  · intro large
    rw [run_asReal_of_none isNumber ((ofInt?_eq_none_iff number).mpr large)]
    exact Session.fail_failsWith _
  · intro inside
    have notNone := mt (ofInt?_eq_none_iff number).mp (not_le.mpr inside)
    obtain ⟨real, rounded⟩ := Option.ne_none_iff_exists'.mp notNone
    have rounds := roundsTo_of_ofInt? rounded
    have exact_iff : real.value = number ↔ IsShort number := by
      rw [value_eq_iff_holds rounded]
      exact ⟨isShort_of_holds, holds_of_isShort⟩
    refine ⟨real, run_asReal_of_some isNumber rounded, rounds, exact_iff,
      fun small => exact_iff.mpr (isShort_of_abs_le small), ?_⟩
    intro other larger upper isLarger below widened
    have upperRounded := ofInt?_eq_some_of_run isLarger widened
    rcases below.lt_or_eq with strict | rfl
    · exact rounds.value_le (roundsTo_of_ofInt? upperRounded) (Int.cast_lt.mpr strict)
    · rw [rounded] at upperRounded
      rw [Option.some.inj upperRounded]

/-- An integer halfway between two words of fifty-three bits goes to the even one, and
the integer halfway beyond the largest word fails. -/
theorem asReal_halfway :
    (Value.scalar (.integer ⟨true, 64⟩ (2 ^ 53 + 1))).IsInteger (2 ^ 53 + 1) ∧
    Conversion.run (.asReal (.scalar (.integer ⟨true, 64⟩ (2 ^ 53 + 1)))) =
      pure (.real ⟨0x4340000000000000⟩) ∧
    RoundsTo (2 ^ 53 + 1 : ℤ) ⟨0x4340000000000000⟩ ∧
    (Value.integer (2 ^ 1024 - 2 ^ 970)).IsInteger (2 ^ 1024 - 2 ^ 970) ∧
    (Conversion.run (.asReal (.integer (2 ^ 1024 - 2 ^ 970)))).FailsWith .overflow
      "int too large to convert to float" := by
  have isHalfway :
      (Value.scalar (.integer ⟨true, 64⟩ (2 ^ 53 + 1))).IsInteger (2 ^ 53 + 1) :=
    .fixedSize ⟨true, 64⟩ (2 ^ 53 + 1)
  have isLarge : (Value.integer (2 ^ 1024 - 2 ^ 970)).IsInteger (2 ^ 1024 - 2 ^ 970) :=
    .proper _
  have inside : |(2 ^ 53 + 1 : ℤ)| < 2 ^ 1024 - 2 ^ 970 := by decide +kernel
  have rounded : ofInt? (2 ^ 53 + 1) = some ⟨0x4340000000000000⟩ := by decide +kernel
  obtain ⟨real, widened, rounds, _⟩ := (asReal_rounds_to_nearest isHalfway).2 inside
  have real_eq : real = ⟨0x4340000000000000⟩ :=
    Option.some.inj ((ofInt?_eq_some_of_run isHalfway widened).symm.trans rounded)
  rw [real_eq] at widened rounds
  exact ⟨isHalfway, widened, rounds, isLarge,
    (asReal_rounds_to_nearest isLarge).1 (le_abs_self _)⟩

end Widening
end Readout
