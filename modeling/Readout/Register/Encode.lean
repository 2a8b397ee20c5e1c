import Readout.Argument
import Readout.Word

/-!
# Writing registers

A number that is not negative and fits into a word is written as a register of a
given width, lowest bit first. Whether the width suffices is read off what
remains of the number after its bits have been taken.
-/

namespace Readout
namespace Register

/-- The bits of a number, lowest first, in a register of a given width. -/
def bitsOfNumber (number width : Value) : Session (List Bool) := do
  let number ← Argument.integer "number" number
  let width ← Argument.integer "bits" width
  Session.require (0 ≤ width) (.nonnegativeWidth width)
  Session.require (0 ≤ number) (.nonnegativeNumber number)
  Session.require (number ≤ Word.largest) (.wordNumber number)
  let parts := Word.split number width.toNat
  Session.require (parts.2 = 0) (.fittingNumber number width)
  return parts.1

end Register
end Readout
