import Readout.Grid
import Readout.Scalar
import Readout.Table

/-!
# Values

Conversions accept values of every kind and decide by their kind and content
whether they can use them.
-/

namespace Readout

/-- A value of any kind. -/
inductive Value
  | nothing
  | flag (value : Bool)
  | integer (value : Int)
  | real (value : Binary64)
  | text (value : String)
  | octets (value : List UInt8)
  | list (elements : List Value)
  | tuple (elements : List Value)
  /-- A mapping, of which only the keys matter, in order. -/
  | mapping (keys : List Value)
  | outcome (value : Outcome)
  /-- Elements that can be gone through once and not be counted. -/
  | cursor (elements : List Value)
  | scalar (value : Scalar)
  | array (cells : Grid Cell)
  | table (value : Table)

namespace Value

/-- The name of the kind of a value. -/
def kind : Value → String
  | .nothing => "NoneType"
  | .flag _ => "bool"
  | .integer _ => "int"
  | .real _ => "float"
  | .text _ => "str"
  | .octets _ => "bytes"
  | .list _ => "list"
  | .tuple _ => "tuple"
  | .mapping _ => "dict"
  | .outcome _ => "Result"
  | .cursor _ => "list_iterator"
  | .scalar value => value.kind
  | .array _ => "ndarray"
  | .table _ => "DataFrame"

/-- The name of the kind of a value, with that of the package it comes from. -/
def qualifiedKind : Value → String
  | .scalar value => "numpy." ++ value.kind
  | .array _ => "numpy.ndarray"
  | value => value.kind

/-- A vector of truth values. -/
def ofBits (bits : List Bool) : Value :=
  .array ((Grid.vector bits).map fun bit => .scalar (.flag bit))

/-- A list of outcomes. -/
def ofOutcomes (outcomes : List Outcome) : Value :=
  .list (outcomes.map .outcome)

/-- The value that a cell holds. -/
def ofCell : Cell → Value
  | .scalar value => .scalar value
  | .outcome value => .outcome value

end Value
end Readout
