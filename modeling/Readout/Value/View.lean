import Readout.Value.Basic

/-!
# Views of values

What conversions look at: whether a value counts as true, how long it is, what
its elements are, and whether it is the outcome `one`.
-/

namespace Readout
namespace Value

/-- Whether a value counts as true. False, zero and whatever is empty do not;
outcomes and cursors do; a grid does as its only cell does. -/
def truth : Value → Except Fault Bool
  | .nothing => .ok false
  | .flag value => .ok value
  | .integer value => .ok (value != 0)
  | .real value => .ok (!value.isZero)
  | .text value => .ok (value != "")
  | .octets value => .ok (!value.isEmpty)
  | .list elements => .ok (!elements.isEmpty)
  | .tuple elements => .ok (!elements.isEmpty)
  | .mapping keys => .ok (!keys.isEmpty)
  | .outcome _ => .ok true
  | .cursor _ => .ok true
  | .scalar value => .ok value.truth
  | .array cells => (cells.map Cell.truth).only
  | .table _ => .error .tableTruth

/-- The characters of a text, as texts. -/
def characters (text : String) : List Value :=
  text.toList.map fun character => .text character.toString

/-- The parts of a grid along its first axis; those of a vector are its cells. -/
def parts (cells : Grid Cell) : Except Fault (List Value) :=
  match cells.shape with
  | [] => .error .cellElements
  | [_] => .ok (cells.cells.map ofCell)
  | _ :: _ :: _ => .ok (cells.rows.map .array)

/-- The elements of a value, in order: those of a mapping are its keys, those of
a table the names of its columns. -/
def elements : Value → Except Fault (List Value)
  | .text value => .ok (characters value)
  | .scalar (.text value) => .ok (characters value)
  | .octets value => .ok (value.map fun octet => .integer octet.toNat)
  | .list elements => .ok elements
  | .tuple elements => .ok elements
  | .mapping keys => .ok keys
  | .cursor elements => .ok elements
  | .array cells => parts cells
  | .table value => .ok (value.columns.map .text)
  | value => .error (.noElements value.qualifiedKind)

/-- The length of a value: that of a grid is the length of its first axis, that
of a table the number of its rows. A cursor has none. -/
def length : Value → Except Fault Nat
  | .text value => .ok value.length
  | .scalar (.text value) => .ok value.length
  | .octets value => .ok value.length
  | .list elements => .ok elements.length
  | .tuple elements => .ok elements.length
  | .mapping keys => .ok keys.length
  | .array cells =>
      match cells.shape with
      | [] => .error .cellLength
      | size :: _ => .ok size
  | .table value => .ok value.rows.length
  | value => .error (.noLength value.qualifiedKind)

/-- Whether a value is the outcome `one`; for a grid or a table, cell by cell. The
fields of a table hold no outcomes. -/
def isOne : Value → Grid Bool
  | .outcome value => .single value.isOne
  | .array cells => cells.map Cell.isOne
  | .table value => .fill [value.rows.length, value.columns.length] false
  | _ => .single false

/-- Whether a value is a table. -/
def isTable : Value → Bool
  | .table _ => true
  | _ => false

/-- Whether a value is a grid. -/
def isArray : Value → Bool
  | .array _ => true
  | _ => false

end Value
end Readout
