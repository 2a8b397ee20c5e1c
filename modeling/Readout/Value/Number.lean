import Readout.Decimal.Reader
import Readout.Value.Basic

/-!
# Values as numbers

Three readings of a value as an integer, from strict to lenient: an integer
proper, a count, and whatever can be turned into an integer.
-/

namespace Readout
namespace Value

/-- The integer that a value is, truth values excluded. -/
def integer? : Value → Option Int
  | .integer value => some value
  | .scalar (.integer _ value) => some value
  | _ => none

/-- The integer that a value counts, truth values included. -/
def count : Value → Except Fault Int
  | .flag value => .ok value.toInt
  | .integer value => .ok value
  | .scalar (.integer _ value) => .ok value
  | value => .error (.notCount value.qualifiedKind)

/-- Whether a value is a number above zero. -/
def isPositive : Value → Except Fault Bool
  | .flag value => .ok value
  | .integer value => .ok (decide (0 < value))
  | .real value => .ok value.isPositive
  | .scalar (.flag value) => .ok value
  | .scalar (.integer _ value) => .ok (decide (0 < value))
  | .scalar (.real _ value) => .ok value.isPositive
  | value => .error (.notOrdered value.qualifiedKind)

/-- The whole part of a real number. -/
def wholePart (value : Binary64) : Except Fault Int :=
  match value.truncate? with
  | some whole => .ok whole
  | none => .error (if value.isNaN then .nanInteger else .infiniteInteger)

/-- The integer that a real bound is. -/
def wholeBound (value : Binary64) : Except Fault Int := do
  let whole ← wholePart value
  if value.whole? = some whole then .ok whole else .error .fractionalBound

/-- The number after a value, as the bound of a range. A number of fixed size
wraps, and a real one has to be whole. -/
def successor : Value → Except Fault Int
  | .flag value => .ok (value.toInt + 1)
  | .integer value => .ok (value + 1)
  | .real value => wholeBound (value + Binary64.one)
  | .scalar (.flag value) => .ok (value.toInt + 1)
  | .scalar (.integer format value) => .ok (format.wrap (value + 1))
  | .scalar (.real format value) =>
      wholeBound ((value + Binary64.one).narrow format.precision)
  | .scalar (.text value) => .error (.notJoined (Value.text value).kind)
  | .text value => .error (.notJoined (Value.text value).kind)
  | .list elements => .error (.notJoined (Value.list elements).kind)
  | .tuple elements => .error (.notJoined (Value.tuple elements).kind)
  | value => .error (.notIncreased value.qualifiedKind)

/-- The integer that a numeral writes. `literal` shows the numeral in a fault. -/
def readNumeral (characters : List Char) (literal : String) : Except Fault Int :=
  match Decimal.read characters with
  | .ok number => .ok number
  | .error .malformed => .error (.malformedNumeral literal)
  | .error (.tooManyDigits digits) => .error (.tooLongToRead digits)

/-- An octet as an ASCII character; others have no meaning in a numeral. -/
def octetCharacter (octet : UInt8) : Char :=
  if octet < 0x80 then Char.ofNat octet.toNat else '?'

/-- The literal of a text of fixed size. Null characters at its end are part of
the text, but are not shown. -/
def scalarLiteral (value : String) : String :=
  "np.str_(" ++ Text.Quoted.literal (Scalar.withoutFinalNulls value) ++ ")"

/-- The integer that a value can be turned into: reals lose their fraction, and
texts are read as numerals. A numeral of octets is cut before it is quoted, so
the octets that are not shown have no say in the choice of the quote. -/
def toInteger : Value → Except Fault Int
  | .flag value => .ok value.toInt
  | .integer value => .ok value
  | .real value => wholePart value
  | .text value => readNumeral value.toList (Text.Quoted.literal value)
  | .octets value =>
      readNumeral (value.map octetCharacter)
        (Text.Quoted.octetLiteral (value.take Fault.shownLength))
  | .scalar (.flag value) => .ok value.toInt
  | .scalar (.integer _ value) => .ok value
  | .scalar (.real _ value) => wholePart value
  | .scalar (.text value) =>
      readNumeral value.toList (scalarLiteral value)
  | value => .error (.notNumeric value.qualifiedKind)

end Value
end Readout
