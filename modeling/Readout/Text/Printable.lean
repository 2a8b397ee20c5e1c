import Readout.Text.Assigned

/-!
# Printable characters

Controls, format characters, surrogates, private characters and separators
other than the space have no visible form, and neither have the code points
that stand for no character at all.
-/

namespace Readout
namespace Text

/-- The first and last code points of each run of characters without a visible
form (general categories Cc, Cf, Cs, Co, Zl, Zp and Zs, less the space). -/
def hiddenRanges : List (Nat × Nat) :=
  [ (0x0, 0x1f), (0x7f, 0xa0), (0xad, 0xad), (0x600, 0x605),
    (0x61c, 0x61c), (0x6dd, 0x6dd), (0x70f, 0x70f), (0x890, 0x891),
    (0x8e2, 0x8e2), (0x1680, 0x1680), (0x180e, 0x180e), (0x2000, 0x200f),
    (0x2028, 0x202f), (0x205f, 0x2064), (0x2066, 0x206f), (0x3000, 0x3000),
    (0xd800, 0xf8ff), (0xfeff, 0xfeff), (0xfff9, 0xfffb), (0x110bd, 0x110bd),
    (0x110cd, 0x110cd), (0x13430, 0x13438), (0x1bca0, 0x1bca3), (0x1d173, 0x1d17a),
    (0xe0001, 0xe0001), (0xe0020, 0xe007f), (0xf0000, 0xffffd), (0x100000, 0x10fffd) ]

/-- Whether a character has a visible form. -/
def isPrintable (character : Char) : Bool :=
  isAssigned character && !inRanges character.toNat hiddenRanges

end Text
end Readout
