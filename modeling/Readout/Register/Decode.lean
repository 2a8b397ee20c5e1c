import Readout.Session
import Readout.Value.View
import Readout.Word

/-!
# Reading registers

A register is a sequence of at most sixty-three elements, lowest bit first. Its
length is checked before any element is looked at, and the first element without
an answer decides how reading fails.
-/

namespace Readout
namespace Register

/-- The number whose bits are the answers of a test on the elements of a
sequence. -/
def decode
    (isSet : Value → Except Fault Bool)
    (sequence : Value) :
    Session Int := do
  let length ← Session.ofExcept sequence.length
  Session.require (length ≤ Word.capacity) (.shortSequence length)
  let elements ← Session.ofExcept sequence.elements
  let mask ← Session.ofExcept ((elements.take length).mapM isSet)
  if mask.length < length then
    Session.fail (.shortElements length mask.length)
  else
    return Word.join mask

/-- Whether a value is the outcome `one`, as a single answer: that of a grid is the
one for its only cell. The answers for a table are never a single one. -/
def measuredOne (value : Value) : Except Fault Bool :=
  match value.isTable, value.isOne.only with
  | false, .ok answer => .ok answer
  | _, _ => .error .manyAnswers

/-- The number whose bits are set where an element counts as true. -/
def numberOfBits (bits : Value) : Session Int :=
  decode Value.truth bits

/-- The number whose bits are set where an element is the outcome `one`. -/
def numberOfOutcomes (outcomes : Value) : Session Int :=
  decode measuredOne outcomes

end Register
end Readout
