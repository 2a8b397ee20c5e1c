import Readout.Bits

/-!
# The binary64 format

A binary64 word has a sign bit, eleven exponent bits and fifty-two fraction
bits. Every finite word stands for a whole number of units of `2 ^ (-1074)`, the
smallest positive number of the format, so that finite words are compared and
rounded in natural numbers.
-/

namespace Readout

/-- A binary64 number, given by its bits. -/
structure Binary64 where
  /-- The bits, sign bit highest. -/
  bits : UInt64
  deriving DecidableEq, Repr, Inhabited

namespace Binary64

/-- One is two to this power units. -/
def oneExponent : Nat := 1074

/-- The magnitude bits of an infinity. -/
def infinityMagnitude : Nat := 2047 * Nat.pow 2 52

/-- The bits below the sign bit. -/
def magnitude (number : Binary64) : Nat :=
  number.bits.toNat % Nat.pow 2 63

/-- Whether the sign bit is set. -/
def isNegative (number : Binary64) : Bool :=
  Nat.pow 2 63 ≤ number.bits.toNat

/-- Whether a word stands for no number. -/
def isNaN (number : Binary64) : Bool :=
  infinityMagnitude < number.magnitude

/-- Whether a word stands for an infinity. -/
def isInfinite (number : Binary64) : Bool :=
  number.magnitude = infinityMagnitude

/-- Whether a word stands for a real number. -/
def isFinite (number : Binary64) : Bool :=
  number.magnitude < infinityMagnitude

/-- Whether a word stands for zero, of either sign. -/
def isZero (number : Binary64) : Bool :=
  number.magnitude = 0

/-- The absolute value of a finite word in units of `2 ^ (-1074)`. -/
def units (number : Binary64) : Nat :=
  let exponent := number.magnitude / Nat.pow 2 52
  let fraction := number.magnitude % Nat.pow 2 52
  if exponent = 0 then fraction
  else (Nat.pow 2 52 + fraction) * Nat.pow 2 (exponent - 1)

/-- The value of a finite word as a signed number of units. -/
def signedUnits (number : Binary64) : Int :=
  if number.isNegative then -number.units else number.units

/-- The word with given sign and magnitude bits. -/
def ofMagnitude (negative : Bool) (magnitude : Nat) : Binary64 :=
  ⟨UInt64.ofNat (if negative then Nat.pow 2 63 + magnitude else magnitude)⟩

/-- The word for a number of units that has at most fifty-three significant
bits: the shift that leaves fifty-three bits, above the bits that remain. -/
def ofUnits (negative : Bool) (units : Nat) : Binary64 :=
  let shift := Bits.size units - 53
  ofMagnitude negative (shift * Nat.pow 2 52 + units / Nat.pow 2 shift)

/-- The infinity of a given sign. -/
def infinity (negative : Bool) : Binary64 :=
  ofMagnitude negative infinityMagnitude

/-- The word that stands for no number. -/
def nan : Binary64 := ⟨0x7ff8000000000000⟩

/-- The number one. -/
def one : Binary64 := ⟨0x3ff0000000000000⟩

/-- The whole number next to a finite word towards zero; nothing for a word
that is not finite. -/
def truncate? (number : Binary64) : Option Int :=
  if number.isFinite then
    let whole : Int := number.units / Nat.pow 2 oneExponent
    some (if number.isNegative then -whole else whole)
  else none

/-- The integer that a word stands for; nothing if it stands for none. -/
def whole? (number : Binary64) : Option Int :=
  number.truncate?.filter fun integer =>
    integer.natAbs * Nat.pow 2 oneExponent = number.units

end Binary64
end Readout
