import Readout.Binary64.Basic

/-!
# Rounding to a binary format

A number of units is rounded to the nearest number that a format holds, and of
two equally near ones to the one whose last kept bit is clear. Integers of any
size become binary64 words in this way, and binary64 words are narrowed to the
smaller formats.
-/

namespace Readout

/-- A number divided by `2 ^ shift`, rounded to nearest, ties to even. -/
def shiftRounded (number shift : Nat) : Nat :=
  let quotient := number / Nat.pow 2 shift
  let remainder := number % Nat.pow 2 shift
  if 2 * remainder < Nat.pow 2 shift ∨
      (2 * remainder = Nat.pow 2 shift ∧ quotient % 2 = 0) then
    quotient
  else
    quotient + 1

/-- A binary floating-point format inside binary64. -/
structure Precision where
  /-- Bits of a significand. -/
  digits : Nat
  /-- The smallest positive number is `2 ^ grain` units. -/
  grain : Nat
  /-- Every number of the format is below `2 ^ limit` units. -/
  limit : Nat
  deriving DecidableEq, Repr

namespace Precision

/-- The format of one sign, eleven exponent and fifty-two fraction bits. -/
def double : Precision := ⟨53, 0, 1024 + Binary64.oneExponent⟩

/-- The format of one sign, eight exponent and twenty-three fraction bits. -/
def single : Precision := ⟨24, Binary64.oneExponent - 149, 128 + Binary64.oneExponent⟩

/-- The format of one sign, five exponent and ten fraction bits. -/
def half : Precision := ⟨11, Binary64.oneExponent - 24, 16 + Binary64.oneExponent⟩

/-- The number of low bits that a format cannot keep of a number of units. -/
def dropped (precision : Precision) (units : Nat) : Nat :=
  max precision.grain (Bits.size units - precision.digits)

/-- Round a number of units to a format with unbounded exponents. -/
def round (precision : Precision) (units : Nat) : Nat :=
  let shift := precision.dropped units
  shiftRounded units shift * Nat.pow 2 shift

/-- Round a number of units to a format; nothing if the result is too large. -/
def round? (precision : Precision) (units : Nat) : Option Nat :=
  let rounded := precision.round units
  if rounded < Nat.pow 2 precision.limit then some rounded else none

end Precision

namespace Binary64

/-- The binary64 number nearest to an integer, ties to even; nothing for an
integer that rounds beyond the largest finite number. -/
def ofInt? (number : Int) : Option Binary64 :=
  (Precision.double.round? (Nat.pow 2 oneExponent * number.natAbs)).map
    (ofUnits (number < 0))

/-- The number of a smaller format nearest to a binary64 number, as a binary64
number. What rounds beyond the smaller format becomes infinite. -/
def narrow (precision : Precision) (number : Binary64) : Binary64 :=
  if number.isFinite then
    match precision.round? number.units with
    | some units => ofUnits number.isNegative units
    | none => infinity number.isNegative
  else number

end Binary64
end Readout
