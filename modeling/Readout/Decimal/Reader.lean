import Readout.Decimal.Numeral
import Readout.Text.Blank
import Readout.Text.Digit

/-!
# Reading decimal numerals

A numeral may stand between blanks and may carry a sign, which its first digit
follows at once. Digits of every script count, and single underscores may stand
between digits.
-/

namespace Readout
namespace Decimal

/-- Why a text is not read as an integer. -/
inductive ReadingFailure
  | malformed
  | tooManyDigits (count : Nat)
  deriving DecidableEq, Repr

/-- The number written by a list of digits, highest first. -/
def ofDigits (digits : List Nat) : Nat :=
  digits.foldl (fun number digit => 10 * number + digit) 0

/-- The digits of a text in which every underscore stands between two digits.
`afterDigit` says whether a digit stands in front of the text. -/
def digits? (afterDigit : Bool) : List Char → Option (List Nat)
  | [] => if afterDigit then some [] else none
  | character :: rest =>
      match Text.digitValue? character with
      | some digit => (digits? true rest).map (digit :: ·)
      | none =>
          if character = '_' && afterDigit then digits? false rest else none

/-- Whether a character may stand in the digits of a numeral. -/
def isNumeralCharacter (character : Char) : Bool :=
  character = '_' || (Text.digitValue? character).isSome

/-- Take a sign off the front of a text; `true` is minus. -/
def splitSign : List Char → Bool × List Char
  | '+' :: rest => (false, rest)
  | '-' :: rest => (true, rest)
  | characters => (false, characters)

/-- Read an integer. A run of too many digits is refused before what follows it
is looked at. -/
def read (characters : List Char) : Except ReadingFailure Int :=
  let signed := splitSign (characters.dropWhile Text.isBlank)
  let run := signed.2.takeWhile isNumeralCharacter
  let rest := signed.2.dropWhile isNumeralCharacter
  match digits? false run with
  | none => .error .malformed
  | some digits =>
      if maxDigits < digits.length then .error (.tooManyDigits digits.length)
      else if rest.all Text.isBlank then
        let number : Int := ofDigits digits
        .ok (if signed.1 then -number else number)
      else .error .malformed

end Decimal
end Readout
