import Readout.Binary64.Arithmetic
import Readout.Binary64.Rounding
import Readout.Decimal.Numeral
import Readout.Outcome

/-!
# Scalars

A scalar is a truth value, a number of fixed size or a text, as the cells of a
grid hold them. A real of a smaller format is rounded when it is made.
-/

namespace Readout

/-- A fixed-size integer format. -/
structure IntegerFormat where
  /-- Whether negative numbers are included. -/
  signed : Bool
  /-- The number of bits. -/
  width : Nat
  deriving DecidableEq, Repr

namespace IntegerFormat

/-- The name of an integer format. -/
def name (format : IntegerFormat) : String :=
  (if format.signed then "int" else "uint") ++ Decimal.text format.width

/-- The number of a format that equals a number modulo its size. -/
def wrap (format : IntegerFormat) (number : Int) : Int :=
  if format.signed then number.bmod (Nat.pow 2 format.width)
  else number % Nat.pow 2 format.width

end IntegerFormat

/-- A fixed-size real format. -/
inductive RealFormat
  | half
  | single
  | double
  deriving DecidableEq, Repr

namespace RealFormat

/-- The name of a real format. -/
def name : RealFormat → String
  | .half => "float16"
  | .single => "float32"
  | .double => "float64"

/-- The numbers of a real format. -/
def precision : RealFormat → Precision
  | .half => .half
  | .single => .single
  | .double => .double

end RealFormat

/-- A value of fixed size. -/
inductive Scalar
  | flag (value : Bool)
  | integer (format : IntegerFormat) (value : Int)
  | real (format : RealFormat) (value : Binary64)
  | text (value : String)
  deriving DecidableEq, Repr

namespace Scalar

/-- A real number rounded to a format. -/
def ofReal (format : RealFormat) (value : Binary64) : Scalar :=
  .real format (value.narrow format.precision)

/-- A text without the null characters at its end. -/
def withoutFinalNulls (value : String) : String :=
  String.ofList (value.toList.reverse.dropWhile (· = Char.ofNat 0)).reverse

/-- A text as a grid stores it. -/
def ofText (value : String) : Scalar :=
  .text (withoutFinalNulls value)

/-- The name of the kind of a scalar. -/
def kind : Scalar → String
  | .flag _ => "bool"
  | .integer format _ => format.name
  | .real format _ => format.name
  | .text _ => "str_"

/-- Whether a scalar counts as true: every scalar but false, zero and the empty
text. -/
def truth : Scalar → Bool
  | .flag value => value
  | .integer _ value => value != 0
  | .real _ value => !value.isZero
  | .text value => value != ""

end Scalar

/-- The content of one cell of a grid. -/
inductive Cell
  | scalar (value : Scalar)
  | outcome (value : Outcome)
  deriving DecidableEq, Repr

namespace Cell

/-- Whether a cell counts as true; every outcome does. -/
def truth : Cell → Bool
  | .scalar value => value.truth
  | .outcome _ => true

/-- Whether a cell is the outcome `one`. -/
def isOne : Cell → Bool
  | .scalar _ => false
  | .outcome value => value.isOne

end Cell
end Readout
