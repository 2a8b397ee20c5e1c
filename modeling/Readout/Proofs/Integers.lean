import Mathlib.Data.Rat.Floor
import Mathlib.Tactic.Linarith
import Mathlib.Tactic.Positivity
import Readout.Proofs.Binary64
import Readout.Proofs.Numerals
import Readout.Value.Number

/-!
# The integers that values denote

A truth value denotes zero or one, a real number the integer that is left of it
without its fraction, and a text the integer of which it is a numeral. What a value
is turned into is the integer that it denotes. Nothing at all, a real that is no finite
number and a text that is no numeral denote none, each of which is an error of its own
kind.
-/

namespace Readout

/-! ## Real numbers without their fractions -/

/-- A number without its fraction. -/
def towardZero (number : ℚ) : ℤ :=
  if number < 0 then ⌈number⌉ else ⌊number⌋

theorem towardZero_neg (number : ℚ) : towardZero (-number) = -towardZero number := by
  unfold towardZero
  rcases lt_trichotomy number 0 with negative | rfl | positive
  · rw [if_neg (by linarith), if_pos negative, Int.floor_neg]
  · simp
  · rw [if_pos (by linarith), if_neg (by linarith), Int.ceil_neg]

/-- The fraction of a quotient of natural numbers is the remainder of the division. -/
theorem towardZero_div (dividend divisor : Nat) :
    towardZero (dividend / divisor) = (dividend : Int) / divisor := by
  have nonnegative : ¬(dividend / divisor : ℚ) < 0 := not_lt.mpr (by positivity)
  rw [towardZero, if_neg nonnegative, Rat.floor_natCast_div_natCast]

/-- A sign in front of a quotient of natural numbers stays in front of it. -/
theorem towardZero_signed_div (negative : Bool) (dividend divisor : Nat) :
    towardZero ((if negative then -(dividend : Int) else dividend : Int) / divisor) =
      if negative then -((dividend : Int) / divisor) else (dividend : Int) / divisor := by
  split
  · rw [Int.cast_neg, neg_div, towardZero_neg, Int.cast_natCast, towardZero_div]
  · rw [Int.cast_natCast, towardZero_div]

namespace Binary64

/-- A finite word is cut to the number that it stands for without its fraction. -/
theorem truncate?_eq_some_iff {number : Binary64} {whole : Int} :
    number.truncate? = some whole ↔
      number.isFinite = true ∧ towardZero number.value = whole := by
  have scale : (2 : ℚ) ^ oneExponent = (Nat.pow 2 oneExponent : Nat) := by
    rw [Nat.pow_eq, Nat.cast_pow, Nat.cast_ofNat]
  rw [value, signedUnits, scale, towardZero_signed_div, truncate?]
  split
  · rename_i finite
    rw [Option.some.injEq]
    exact (and_iff_right finite).symm
  · rename_i notFinite
    exact iff_of_false (Option.some_ne_none whole).symm fun both => notFinite both.1

/-- A word that is not finite stands for an infinity or for no number. -/
theorem isFinite_eq_false_iff {number : Binary64} :
    number.isFinite = false ↔ number.isNaN = true ∨ number.isInfinite = true := by
  simp only [isFinite, isNaN, isInfinite, decide_eq_false_iff_not, decide_eq_true_eq]
  omega

/-- An infinity is not a word that stands for no number. -/
theorem isNaN_of_isInfinite
    {number : Binary64}
    (infinite : number.isInfinite = true) :
    number.isNaN = false := by
  simp only [isInfinite, isNaN, decide_eq_true_eq, decide_eq_false_iff_not] at infinite ⊢
  omega

theorem truncate?_eq_none_iff {number : Binary64} :
    number.truncate? = none ↔ number.isNaN = true ∨ number.isInfinite = true := by
  rw [← isFinite_eq_false_iff, truncate?]
  split
  · rename_i finite
    exact iff_of_false (Option.some_ne_none _) fun infinite =>
      Bool.eq_false_iff.mp infinite finite
  · rename_i notFinite
    exact iff_of_true rfl (Bool.eq_false_iff.mpr notFinite)

end Binary64

/-! ## Values as integers -/

/-- A scalar without its fixed size. -/
def Scalar.unsized : Scalar → Value
  | .flag value => .flag value
  | .integer _ value => .integer value
  | .real _ value => .real value
  | .text value => .text value

namespace Value

open Decimal (maxDigits)
open Decimal.Alphabet

/-- A value denotes an integer. A text does if it is a numeral without too many digits;
octets are read as a text. -/
inductive Denotes : Value → Int → Prop
  | flag (answer : Bool) : Denotes (.flag answer) answer.toInt
  | integer (number : Int) : Denotes (.integer number) number
  | real
      (number : Binary64)
      (finite : number.isFinite = true) :
      Denotes (.real number) (towardZero number.value)
  | text
      {content : String}
      {negative : Bool}
      {digits : List Nat}
      (numeral : everyScript.Numeral content.toList negative digits)
      (few : digits.length ≤ maxDigits) :
      Denotes (.text content) (Decimal.Alphabet.integer negative digits)
  | octets
      {content : List UInt8}
      {negative : Bool}
      {digits : List Nat}
      (numeral : everyScript.Numeral (content.map octetCharacter) negative digits)
      (few : digits.length ≤ maxDigits) :
      Denotes (.octets content) (Decimal.Alphabet.integer negative digits)
  | scalar
      {content : Scalar}
      {number : Int}
      (denotes : Denotes content.unsized number) :
      Denotes (.scalar content) number

theorem wholePart_eq_ok_iff {number : Binary64} {whole : Int} :
    wholePart number = .ok whole ↔
      number.isFinite = true ∧ towardZero number.value = whole := by
  rw [← Binary64.truncate?_eq_some_iff, wholePart]
  split
  · rename_i cut
    rw [cut, Except.ok.injEq, Option.some.injEq]
  · rename_i notCut
    rw [notCut]
    exact ⟨nofun, nofun⟩

theorem readNumeral_eq_ok_iff {characters : List Char} {literal : String} {number : Int} :
    readNumeral characters literal = .ok number ↔
      ∃ negative digits, everyScript.Numeral characters negative digits ∧
        digits.length ≤ maxDigits ∧
        Decimal.Alphabet.integer negative digits = number := by
  rw [← Decimal.read_eq_ok_iff, readNumeral]
  split
  · rename_i result
    rw [result, Except.ok.injEq, Except.ok.injEq]
  · rename_i result
    rw [result]
    exact ⟨nofun, nofun⟩
  · rename_i result
    rw [result]
    exact ⟨nofun, nofun⟩

theorem denotes_of_readNumeral
    {content literal : String}
    {number : Int}
    (read : readNumeral content.toList literal = .ok number) :
    (Value.text content).Denotes number := by
  obtain ⟨negative, digits, numeral, few, rfl⟩ := readNumeral_eq_ok_iff.mp read
  exact .text numeral few

theorem denotes_of_wholePart
    {content : Binary64}
    {number : Int}
    (read : wholePart content = .ok number) :
    (Value.real content).Denotes number := by
  obtain ⟨finite, rfl⟩ := wholePart_eq_ok_iff.mp read
  exact .real content finite

/-- What a value is turned into is an integer that it denotes. -/
theorem denotes_of_toInteger
    {value : Value}
    {number : Int}
    (read : value.toInteger = .ok number) :
    value.Denotes number := by
  cases value with
  | flag answer =>
      cases read
      exact .flag answer
  | integer content =>
      cases read
      exact .integer number
  | real content => exact denotes_of_wholePart read
  | text content => exact denotes_of_readNumeral read
  | octets content =>
      obtain ⟨negative, digits, numeral, few, rfl⟩ := readNumeral_eq_ok_iff.mp read
      exact .octets numeral few
  | scalar content =>
      apply Denotes.scalar
      cases content with
      | flag answer =>
          cases read
          exact .flag answer
      | integer format content =>
          cases read
          exact .integer number
      | real format content => exact denotes_of_wholePart read
      | text content => exact denotes_of_readNumeral read
  | _ => cases read

/-- A value that denotes an integer is turned into it. -/
theorem Denotes.toInteger_eq
    {value : Value}
    {number : Int}
    (denotes : value.Denotes number) :
    value.toInteger = .ok number := by
  induction denotes with
  | flag => rfl
  | integer => rfl
  | real _ finite => exact wholePart_eq_ok_iff.mpr ⟨finite, rfl⟩
  | text numeral few => exact readNumeral_eq_ok_iff.mpr ⟨_, _, numeral, few, rfl⟩
  | octets numeral few => exact readNumeral_eq_ok_iff.mpr ⟨_, _, numeral, few, rfl⟩
  | @scalar content _ _ inductionHypothesis =>
      cases content with
      | text content =>
          -- The literal of a scalar differs from that of its text, but only faults show it.
          exact readNumeral_eq_ok_iff.mpr (readNumeral_eq_ok_iff.mp inductionHypothesis)
      | _ => exact inductionHypothesis

/-- A value denotes at most one integer. -/
theorem Denotes.unique
    {value : Value}
    {left right : Int}
    (denotesLeft : value.Denotes left)
    (denotesRight : value.Denotes right) :
    left = right :=
  Except.ok.inj (denotesLeft.toInteger_eq.symm.trans denotesRight.toInteger_eq)

/-! ## Values that denote no integer -/

/-- Nothing, a truth value, an integer, a real number or a text. -/
def isPlain : Value → Bool
  | .nothing => true
  | .flag _ => true
  | .integer _ => true
  | .real _ => true
  | .text _ => true
  | _ => false

/-- A plain value denotes no integer, which is an error of this kind. -/
inductive Refused : Value → ErrorKind → Prop
  | nothing : Refused .nothing .type
  | notANumber
      {number : Binary64}
      (isNaN : number.isNaN = true) :
      Refused (.real number) .value
  | infinite
      {number : Binary64}
      (isInfinite : number.isInfinite = true) :
      Refused (.real number) .overflow
  | noNumeral
      {content : String}
      (none : ∀ negative digits, everyScript.Numeral content.toList negative digits →
        maxDigits < digits.length) :
      Refused (.text content) .value

theorem refused_of_wholePart
    {number : Binary64}
    {fault : Fault}
    (failed : wholePart number = .error fault) :
    (Value.real number).Refused fault.kind := by
  unfold wholePart at failed
  split at failed
  · cases failed
  · rename_i notCut
    cases failed
    rcases Binary64.truncate?_eq_none_iff.mp notCut with isNaN | isInfinite
    · rw [if_pos isNaN]
      exact .notANumber isNaN
    · rw [if_neg (Bool.eq_false_iff.mp (Binary64.isNaN_of_isInfinite isInfinite))]
      exact .infinite isInfinite

theorem kind_of_readNumeral_eq_error
    {characters : List Char}
    {literal : String}
    {fault : Fault}
    (failed : readNumeral characters literal = .error fault) :
    fault.kind = .value := by
  unfold readNumeral at failed
  split at failed
  · cases failed
  · cases failed
    rfl
  · cases failed
    rfl

/-- A plain value that is not turned into an integer is refused. -/
theorem refused_of_toInteger
    {value : Value}
    {fault : Fault}
    (plain : value.isPlain = true)
    (failed : value.toInteger = .error fault) :
    value.Refused fault.kind := by
  cases value with
  | nothing =>
      cases failed
      exact .nothing
  | flag answer => cases failed
  | integer number => cases failed
  | real number => exact refused_of_wholePart failed
  | text content =>
      rw [kind_of_readNumeral_eq_error failed]
      refine .noNumeral fun negative digits numeral => ?_
      by_contra few
      rw [(Denotes.text numeral (Nat.not_lt.mp few)).toInteger_eq] at failed
      cases failed
  | _ => cases plain

/-- The kind of error with which a value is refused is determined by the value. -/
theorem Refused.unique
    {value : Value}
    {left right : ErrorKind}
    (refusedLeft : value.Refused left)
    (refusedRight : value.Refused right) :
    left = right := by
  cases refusedLeft with
  | nothing =>
      cases refusedRight
      rfl
  | notANumber isNaN =>
      cases refusedRight with
      | notANumber => rfl
      | infinite isInfinite =>
          rw [Binary64.isNaN_of_isInfinite isInfinite] at isNaN
          cases isNaN
  | infinite isInfinite =>
      cases refusedRight with
      | infinite => rfl
      | notANumber isNaN =>
          rw [Binary64.isNaN_of_isInfinite isInfinite] at isNaN
          cases isNaN
  | noNumeral =>
      cases refusedRight
      rfl

/-- What is refused denotes no integer. -/
theorem Refused.not_denotes
    {value : Value}
    {kind : ErrorKind}
    (refused : value.Refused kind)
    (number : Int) :
    ¬value.Denotes number := by
  intro denotes
  cases refused with
  | nothing => cases denotes
  | notANumber isNaN =>
      cases denotes with
      | real _ finite =>
          rw [Binary64.isFinite_eq_false_iff.mpr (.inl isNaN)] at finite
          cases finite
  | infinite isInfinite =>
      cases denotes with
      | real _ finite =>
          rw [Binary64.isFinite_eq_false_iff.mpr (.inr isInfinite)] at finite
          cases finite
  | noNumeral none =>
      cases denotes with
      | text numeral few => exact absurd few (Nat.not_le.mpr (none _ _ numeral))

end Value
end Readout
