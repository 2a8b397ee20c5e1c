import Readout.Value.View

/-!
# Outcomes and truth values, element by element

A value becomes the outcome that its truth value stands for, and an outcome the
truth value of being `one`. Sequences of any length are mapped element by
element; grids among the elements keep their axes.
-/

namespace Readout
namespace Elementwise

/-- The outcome that a value stands for. -/
def outcome (value : Value) : Except Fault Outcome :=
  value.truth.map Outcome.ofBool

/-- The outcomes that the elements of a sequence stand for. -/
def outcomes (sequence : Value) : Except Fault (List Outcome) := do
  let elements ← sequence.elements
  elements.mapM outcome

/-- Which elements of a sequence are the outcome `one`. -/
def flags (sequence : Value) : Except Fault (Grid Bool) := do
  let elements ← sequence.elements
  Grid.stack (elements.map Value.isOne)

end Elementwise
end Readout
