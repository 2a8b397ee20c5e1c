/-!
# Measurement outcomes

A measurement of one bit of a register has one of two outcomes. Outcomes and
truth values correspond one to one; `one` corresponds to `true`.
-/

namespace Readout

/-- The outcome of measuring one bit. -/
inductive Outcome
  | zero
  | one
  deriving DecidableEq, Repr, Inhabited

namespace Outcome

/-- The outcome that stands for a truth value. -/
def ofBool : Bool → Outcome
  | false => .zero
  | true => .one

/-- Whether an outcome is `one`. -/
def isOne : Outcome → Bool
  | .zero => false
  | .one => true

/-- The name under which an outcome is shown. -/
def name : Outcome → String
  | .zero => "Zero"
  | .one => "One"

@[simp] theorem ofBool_false : ofBool false = .zero := rfl

@[simp] theorem ofBool_true : ofBool true = .one := rfl

@[simp] theorem isOne_zero : zero.isOne = false := rfl

@[simp] theorem isOne_one : one.isOne = true := rfl

@[simp] theorem isOne_ofBool (value : Bool) :
    (ofBool value).isOne = value := by
  cases value <;> rfl

@[simp] theorem ofBool_isOne (outcome : Outcome) :
    ofBool outcome.isOne = outcome := by
  cases outcome <;> rfl

end Outcome
end Readout
