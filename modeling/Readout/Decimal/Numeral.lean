/-!
# Decimal numerals

The written form of an integer: a minus sign if it is negative, then its digits
without leading zeros. Numerals of more than `maxDigits` digits are neither
written into messages nor read.
-/

namespace Readout
namespace Decimal

/-- The largest number of digits of a numeral in a message. -/
def maxDigits : Nat := 4300

/-- The characters of an integer. -/
def characters : Int → List Char
  | .ofNat number => Nat.toDigits 10 number
  | .negSucc predecessor => '-' :: Nat.toDigits 10 (predecessor + 1)

/-- The numeral of an integer, of any length. -/
def text (number : Int) : String :=
  String.ofList (characters number)

/-- Whether an integer has at most `maxDigits` digits, sign not counted. -/
def isSpeakable (number : Int) : Bool :=
  number.natAbs < Nat.pow 10 maxDigits

/-- The numeral of an integer; nothing if it has too many digits. -/
def text? (number : Int) : Option String :=
  if isSpeakable number then some (text number) else none

end Decimal
end Readout
