import Readout.Ledger
import Readout.Value.Basic

/-!
# Values as keys

Two numbers of any format are the same key if they are equal, a truth value
being zero or one; tuples are compared element by element. A real that is no
number is the same as nothing, itself included.
-/

namespace Readout

/-- What makes a value the same key as another, tuples apart. -/
inductive KeyAtom
  | nothing
  | whole (value : Int)
  | fraction (value : Binary64)
  | text (value : String)
  | octets (value : List UInt8)
  | outcome (value : Outcome)
  deriving DecidableEq

namespace KeyAtom

/-- A real number as a key: an integer if it is whole. -/
def ofReal? (value : Binary64) : Option KeyAtom :=
  if value.isNaN then none
  else
    match value.whole? with
    | some integer => some (.whole integer)
    | none => some (.fraction value)

end KeyAtom

namespace Value

/-- The key that a value without elements of its own is. -/
def keyAtom? : Value → Option KeyAtom
  | .nothing => some .nothing
  | .flag value => some (.whole value.toInt)
  | .integer value => some (.whole value)
  | .real value => KeyAtom.ofReal? value
  | .text value => some (.text value)
  | .octets value => some (.octets value)
  | .outcome value => some (.outcome value)
  | .scalar (.flag value) => some (.whole value.toInt)
  | .scalar (.integer _ value) => some (.whole value)
  | .scalar (.real _ value) => KeyAtom.ofReal? value
  | .scalar (.text value) => some (.text value)
  | _ => none

mutual

/-- Whether two values are the same key. -/
def sameKey : Value → Value → Bool
  | .tuple lefts, .tuple rights => sameKeys lefts rights
  | left, right =>
      match left.keyAtom?, right.keyAtom? with
      | some leftAtom, some rightAtom => leftAtom = rightAtom
      | _, _ => false

/-- Whether two lists hold the same keys in the same order. -/
def sameKeys : List Value → List Value → Bool
  | [], [] => true
  | left :: lefts, right :: rights => sameKey left right && sameKeys lefts rights
  | _, _ => false

end

@[simp] theorem sameKey_integer (left right : Int) :
    sameKey (.integer left) (.integer right) = decide (left = right) := by
  simp [sameKey, keyAtom?]

@[simp] theorem sameKey_text (left right : String) :
    sameKey (.text left) (.text right) = decide (left = right) := by
  simp [sameKey, keyAtom?]

/-- The mapping with given keys, each of which counts once. -/
def ofKeys (keys : List Value) : Value :=
  .mapping (Ledger.ofEntries sameKey (keys.map fun key => (key, ()))).keys

end Value
end Readout
