import Readout.Decimal.Numeral
import Readout.ErrorKind
import Readout.Text.Quoted

/-!
# Faults

A fault is the cause for which an operation has no result. Demands on the
arguments of a conversion are worded before they are tested; a refused one
leaves a notice, and the notice is the fault.
-/

namespace Readout

/-- The kind and the wording of a refused demand. -/
structure Notice where
  /-- The kind of the error. -/
  kind : ErrorKind
  /-- What was demanded. -/
  message : String
  deriving DecidableEq, Repr

namespace Notice

/-- The line a notice takes in a log. -/
def logLine (notice : Notice) : String :=
  "DEBUG " ++ notice.kind.text ++ ": " ++ notice.message

end Notice

/-- What a conversion demands of its arguments. -/
inductive Demand
  /-- A sequence of this length is short enough for a word. -/
  | shortSequence (length : Nat)
  /-- This width is not negative. -/
  | nonnegativeWidth (width : Int)
  /-- This number is not negative. -/
  | nonnegativeNumber (number : Int)
  /-- This number is not above the largest word. -/
  | wordNumber (number : Int)
  /-- This number needs no more bits than this width. -/
  | fittingNumber (number width : Int)
  deriving DecidableEq, Repr

namespace Demand

/-- The kind of error that refuses a demand. -/
def kind : Demand → ErrorKind
  | .shortSequence _ => .range
  | .nonnegativeWidth _ => .invalidArgument
  | .nonnegativeNumber _ => .invalidArgument
  | .wordNumber _ => .invalidArgument
  | .fittingNumber _ _ => .bitOverflow

/-- The wording of a demand; nothing if a number in it has too many digits. -/
def wording? : Demand → Option String
  | .shortSequence length =>
      some ("`bits` must be less than 64, but was " ++ Decimal.text length)
  | .nonnegativeWidth width => do
      let numeral ← Decimal.text? width
      return "`bits` must be non-negative, but was " ++ numeral
  | .nonnegativeNumber number => do
      let numeral ← Decimal.text? number
      return "`number` must be non-negative, but was " ++ numeral
  | .wordNumber number => do
      let numeral ← Decimal.text? number
      return "`number` must fit into a 64-bit integer, but was " ++ numeral
  | .fittingNumber number width => do
      let numeral ← Decimal.text? number
      let bits ← Decimal.text? width
      return "`number` (" ++ numeral ++ ") is too large to fit into " ++ bits ++
        " bits"

end Demand

/-- Why an operation has no result. -/
inductive Fault
  /-- A demand was refused. -/
  | refused (notice : Notice)
  /-- The named argument is not an integer but of this kind. -/
  | notInteger (argument kind : String)
  /-- A number has too many digits to be written. -/
  | tooLongToWrite
  /-- A numeral has too many digits to be read. -/
  | tooLongToRead (digits : Nat)
  /-- A text, given as a literal, is no numeral. -/
  | malformedNumeral (literal : String)
  /-- A value of this kind has no length. -/
  | noLength (kind : String)
  /-- A single cell has no length. -/
  | cellLength
  /-- A value of this kind has no elements. -/
  | noElements (kind : String)
  /-- A single cell has no elements. -/
  | cellElements
  /-- A sequence has fewer elements than its length says. -/
  | shortElements (length found : Nat)
  /-- Several cells have no common truth value. -/
  | manyTruths
  /-- No cells have no truth value. -/
  | noTruth
  /-- A table has no truth value. -/
  | tableTruth
  /-- The answers for several cells are no single answer. -/
  | manyAnswers
  /-- Rows with this common shape do not stack. -/
  | ragged (shape : List Nat)
  /-- An integer is beyond every real number. -/
  | realOverflow
  /-- A value of this kind does not count anything. -/
  | notCount (kind : String)
  /-- A value of this kind is neither above nor below an integer. -/
  | notOrdered (kind : String)
  /-- A value of this kind is not increased by an integer. -/
  | notIncreased (kind : String)
  /-- A value of this kind is joined with its own kind alone. -/
  | notJoined (kind : String)
  /-- The bound of a range is not whole. -/
  | fractionalBound
  /-- No number lies below this bound. -/
  | emptyRange (bound : Int)
  /-- The random source never yields a number below this bound. -/
  | endlessDraw (bound : Nat)
  /-- A word that stands for no number is no integer. -/
  | nanInteger
  /-- An infinity is no integer. -/
  | infiniteInteger
  /-- A value of this kind does not become an integer. -/
  | notNumeric (kind : String)
  /-- A statistic of no samples. -/
  | noSamples
  /-- A table or a mapping lacks the part of this name. -/
  | noColumn (name : String)
  /-- A value of this kind has no named parts. -/
  | noParts (kind : String)
  /-- Encoded bits have the wrong number. -/
  | malformedBits
  deriving DecidableEq, Repr

namespace Fault

/-- The fault of a range below a bound that holds no number. -/
def noNumberBelow (bound : Int) : Fault :=
  if Decimal.isSpeakable bound then .emptyRange bound else .tooLongToWrite

/-- The number of characters of a malformed numeral that a message shows. -/
def shownLength : Nat := 200

/-- A shape as it stands in a message. -/
def shapeText : List Nat → String
  | [] => "()"
  | [size] => "(" ++ Decimal.text size ++ ",)"
  | sizes =>
      "(" ++ ", ".intercalate (sizes.map fun (size : Nat) => Decimal.text size) ++
        ")"

/-- The kind of error that a fault is. -/
def kind : Fault → ErrorKind
  | .refused notice => notice.kind
  | .notInteger _ _ => .type
  | .tooLongToWrite => .value
  | .tooLongToRead _ => .value
  | .malformedNumeral _ => .value
  | .noLength _ => .type
  | .cellLength => .type
  | .noElements _ => .type
  | .cellElements => .type
  | .shortElements _ _ => .value
  | .manyTruths => .value
  | .noTruth => .value
  | .tableTruth => .value
  | .manyAnswers => .value
  | .ragged _ => .value
  | .realOverflow => .overflow
  | .notCount _ => .type
  | .notOrdered _ => .type
  | .notIncreased _ => .type
  | .notJoined _ => .type
  | .fractionalBound => .value
  | .emptyRange _ => .value
  | .endlessDraw _ => .runtime
  | .nanInteger => .value
  | .infiniteInteger => .overflow
  | .notNumeric _ => .type
  | .noSamples => .index
  | .noColumn _ => .key
  | .noParts _ => .type
  | .malformedBits => .assertion

/-- The wording of a fault. Missing keys are shown as literals. -/
def message : Fault → String
  | .refused notice =>
      if notice.kind = .key then Text.Quoted.literal notice.message
      else notice.message
  | .notInteger argument kind =>
      "`" ++ argument ++ "` must be an int, got " ++ kind
  | .tooLongToWrite =>
      "Exceeds the limit (4300 digits) for integer string conversion; " ++
        "use sys.set_int_max_str_digits() to increase the limit"
  | .tooLongToRead digits =>
      "Exceeds the limit (4300 digits) for integer string conversion: " ++
        "value has " ++ Decimal.text digits ++ " digits; " ++
        "use sys.set_int_max_str_digits() to increase the limit"
  | .malformedNumeral literal =>
      "invalid literal for int() with base 10: " ++
        Text.Quoted.clip shownLength literal
  | .noLength kind => "object of type '" ++ kind ++ "' has no len()"
  | .cellLength => "len() of unsized object"
  | .noElements kind => "'" ++ kind ++ "' object is not iterable"
  | .cellElements => "iteration over a 0-d array"
  | .shortElements length found =>
      "iterator too short: Expected " ++ Decimal.text length ++
        " but iterator had only " ++ Decimal.text found ++ " items."
  | .manyTruths =>
      "The truth value of an array with more than one element is ambiguous. " ++
        "Use a.any() or a.all()"
  | .noTruth =>
      "The truth value of an empty array is ambiguous. " ++
        "Use `array.size > 0` to check that an array is not empty."
  | .tableTruth =>
      "The truth value of a DataFrame is ambiguous. " ++
        "Use a.empty, a.bool(), a.item(), a.any() or a.all()."
  | .manyAnswers => "setting an array element with a sequence."
  | .ragged shape =>
      "setting an array element with a sequence. The requested array has an " ++
        "inhomogeneous shape after " ++ Decimal.text shape.length ++
        " dimensions. The detected shape was " ++ shapeText shape ++
        " + inhomogeneous part."
  | .realOverflow => "int too large to convert to float"
  | .notCount kind =>
      "'" ++ kind ++ "' object cannot be interpreted as an integer"
  | .notOrdered kind =>
      "'>' not supported between instances of '" ++ kind ++ "' and 'int'"
  | .notIncreased kind =>
      "unsupported operand type(s) for +: '" ++ kind ++ "' and 'int'"
  | .notJoined kind =>
      "can only concatenate " ++ kind ++ " (not \"int\") to " ++ kind
  | .fractionalBound => "non-integer stop for randrange()"
  | .emptyRange bound =>
      "empty range for randrange() (0, " ++ Decimal.text bound ++ ", " ++
        Decimal.text bound ++ ")"
  | .endlessDraw bound => "no draw is below " ++ Decimal.text bound
  | .nanInteger => "cannot convert float NaN to integer"
  | .infiniteInteger => "cannot convert float infinity to integer"
  | .notNumeric kind =>
      "int() argument must be a string, a bytes-like object or a real number, " ++
        "not '" ++ kind ++ "'"
  | .noSamples => "index -1 is out of bounds for axis 0 with size 0"
  | .noColumn name => Text.Quoted.literal name
  | .noParts kind => "'" ++ kind ++ "' object is not subscriptable"
  | .malformedBits => "Encoded bits have invalid format"

end Fault
end Readout
