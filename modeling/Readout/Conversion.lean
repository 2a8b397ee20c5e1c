import Readout.Elementwise
import Readout.Register.Decode
import Readout.Register.Encode
import Readout.Widening

/-!
# The conversions

The nine conversions between numbers, bits, outcomes and truth values as one
type of requests, each of which is answered in a session by a value.
-/

namespace Readout

/-- A conversion with its arguments. -/
inductive Conversion
  | numberOfBits (sequence : Value)
  | bitsOfNumber (number width : Value)
  | numberOfOutcomes (sequence : Value)
  | isOne (value : Value)
  | outcome (value : Value)
  | flags (sequence : Value)
  | outcomes (sequence : Value)
  | asReal (number : Value)
  | asInteger (number : Value)

namespace Conversion

/-- A grid of truth values as a value. -/
def valueOfFlags (answers : Grid Bool) : Value :=
  .array (answers.map fun answer => .scalar (.flag answer))

/-- Whether a value is the outcome `one`, as a value: a truth value for a single
answer, a grid for several, and a table for a table. -/
def answerOf (value : Value) : Value :=
  let answers := value.isOne
  match value, answers.shape, answers.cells with
  | .table table, _, _ => .table (table.fill (.flag false))
  | .array _, [], [answer] => .scalar (.flag answer)
  | .array _, _, _ => valueOfFlags answers
  | _, _, [answer] => .flag answer
  | _, _, _ => valueOfFlags answers

/-- Answer a request. -/
def run : Conversion → Session Value
  | .numberOfBits sequence => Value.integer <$> Register.numberOfBits sequence
  | .bitsOfNumber number width =>
      Value.ofBits <$> Register.bitsOfNumber number width
  | .numberOfOutcomes sequence =>
      Value.integer <$> Register.numberOfOutcomes sequence
  | .isOne value => pure (answerOf value)
  | .outcome value =>
      Value.outcome <$> Session.ofExcept (Elementwise.outcome value)
  | .flags sequence =>
      valueOfFlags <$> Session.ofExcept (Elementwise.flags sequence)
  | .outcomes sequence =>
      Value.ofOutcomes <$> Session.ofExcept (Elementwise.outcomes sequence)
  | .asReal number => Value.real <$> Widening.asReal number
  | .asInteger number => Value.integer <$> Widening.asInteger number

end Conversion
end Readout
