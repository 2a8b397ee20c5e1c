import Readout.Binary64.Arithmetic
import Readout.Binary64.Rounding

/-!
# Arithmetic for statistics

Statistics are defined once for every kind of number that can be added, compared
and cut to a whole part: for binary64, where each step rounds, and for exact
rationals.
-/

namespace Readout

/-- Numbers in which statistics are computed. -/
class Arithmetic (α : Type) extends Add α, Sub α, Mul α, Div α where
  /-- A natural number. -/
  ofNat : Nat → α
  /-- The sum of nothing. -/
  emptySum : α
  /-- Whether one number is at most another. -/
  le : α → α → Bool
  /-- Whether a number compares with none. -/
  isUnordered : α → Bool
  /-- The whole part of a number that is not negative. -/
  floor : α → Nat

namespace Arithmetic

variable [Arithmetic α]

/-- The share of samples at or below the percentile. -/
def rank : α :=
  ofNat 19 / ofNat 20

/-- One half. -/
def half : α :=
  ofNat 1 / ofNat 2

end Arithmetic

/-- In binary64 the sum of nothing is the negative zero, which changes no number
it is added to. -/
instance : Arithmetic Binary64 where
  ofNat number := (Binary64.ofInt? number).getD (Binary64.infinity false)
  emptySum := Binary64.ofMagnitude true 0
  le := Binary64.le
  isUnordered := Binary64.isNaN
  floor number := (number.truncate?.getD 0).toNat

instance : Arithmetic Rat where
  ofNat number := (number : Rat)
  emptySum := 0
  le left right := decide (left ≤ right)
  isUnordered _ := false
  floor number := number.floor.toNat

end Readout
