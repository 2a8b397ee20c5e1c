import Readout.Binary64.Basic

/-!
# Binary64 arithmetic

Each operation rounds its exact result once, to nearest, ties to even. Zeros of
either sign are equal, and a word that stands for no number compares with none.
-/

namespace Readout
namespace Binary64

/-- A word as a machine number. -/
def toFloat (number : Binary64) : Float :=
  Float.ofBits number.bits

/-- A machine number as a word. -/
def ofFloat (number : Float) : Binary64 :=
  ⟨number.toBits⟩

instance : Add Binary64 where
  add left right := ofFloat (left.toFloat + right.toFloat)

instance : Sub Binary64 where
  sub left right := ofFloat (left.toFloat - right.toFloat)

instance : Mul Binary64 where
  mul left right := ofFloat (left.toFloat * right.toFloat)

instance : Div Binary64 where
  div left right := ofFloat (left.toFloat / right.toFloat)

/-- Whether one number is at most another. -/
def le (left right : Binary64) : Bool :=
  left.toFloat ≤ right.toFloat

/-- Whether a number is above zero. -/
def isPositive (number : Binary64) : Bool :=
  !number.isNaN && !number.isNegative && !number.isZero

end Binary64
end Readout
