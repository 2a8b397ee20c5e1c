import Readout.Text.CodeRanges

/-!
# Blank characters

The characters with the Unicode property White_Space. The information
separators of ASCII are not among them.
-/

namespace Readout
namespace Text

/-- The first and last code points of each run of blank characters. -/
def blankRanges : List (Nat × Nat) :=
  [ (0x9, 0xd), (0x20, 0x20), (0x85, 0x85), (0xa0, 0xa0), (0x1680, 0x1680),
    (0x2000, 0x200a), (0x2028, 0x2029), (0x202f, 0x202f), (0x205f, 0x205f),
    (0x3000, 0x3000) ]

/-- The runs of blank characters follow one another. -/
theorem follow_blankRanges : follow 0 blankRanges = true := by
  decide

/-- Whether a character is blank. -/
def isBlank (character : Char) : Bool :=
  inRanges character.toNat blankRanges

end Text
end Readout
