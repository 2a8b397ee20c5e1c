import Readout.Session
import Readout.Value.Number
import Readout.Value.View

/-!
# Checked arguments

An argument that has to be an integer is refused by its name and its kind. Truth
values are not integers here. An argument that has to count as true is refused
with a notice.
-/

namespace Readout
namespace Argument

/-- The integer that a named argument is. -/
def integer (name : String) (value : Value) : Session Int :=
  match value.integer? with
  | some number => pure number
  | none => Session.fail (.notInteger name value.kind)

/-- Leave a notice and end in a fault unless a value counts as true. -/
def ensure (condition : Value) (notice : Notice) : Session Unit := do
  let holds ← Session.ofExcept condition.truth
  Session.check holds notice

end Argument
end Readout
