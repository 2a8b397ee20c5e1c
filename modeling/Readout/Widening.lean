import Readout.Binary64.Rounding
import Readout.Argument

/-!
# Widening integers

An integer of fixed size becomes an integer of any size, or the nearest
binary64 number.
-/

namespace Readout
namespace Widening

/-- A number as an integer of any size. -/
def asInteger (number : Value) : Session Int :=
  Argument.integer "number" number

/-- The binary64 number nearest to an integer, if any is finite. -/
def realOfInteger (number : Int) : Except Fault Binary64 :=
  match Binary64.ofInt? number with
  | some real => .ok real
  | none => .error .realOverflow

/-- The binary64 number nearest to a number. -/
def asReal (number : Value) : Session Binary64 := do
  let number ← Argument.integer "number" number
  Session.ofExcept (realOfInteger number)

end Widening
end Readout
