import Readout.Conversion
import Readout.Proofs.Endings
import Readout.Proofs.Packing
import Readout.Proofs.Views

/-!
# What reading a register can end in

The length of a sequence decides first, then the first element without an
answer. If all elements of a sequence that is short enough have an answer, the
register is read as the value of the answers.
-/

namespace Readout
namespace Register

theorem decode_of_no_length
    {isSet : Value → Except Fault Bool}
    {sequence : Value}
    {fault : Fault}
    (unsized : sequence.length = .error fault) :
    decode isSet sequence = Session.fail fault := by
  unfold decode
  rw [unsized, Session.ofExcept_error, Session.fail_bind]

/-- A sequence that is too long is refused, whatever its elements are. -/
theorem decode_of_long
    {isSet : Value → Except Fault Bool}
    {sequence : Value}
    {length : Nat}
    (sized : sequence.length = .ok length)
    (long : Word.capacity < length) :
    (decode isSet sequence).RefusesWith .range
      ("`bits` must be less than 64, but was " ++ Decimal.text length) := by
  unfold decode
  rw [sized, Session.ofExcept_ok, pure_bind]
  apply Session.require_bind_refusesWith
  · rfl
  · exact decide_eq_false (Nat.not_le.mpr long)

/-- The length of a short sequence does not show in how it is read. -/
theorem decode_of_short
    {isSet : Value → Except Fault Bool}
    {sequence : Value}
    {elements : List Value}
    (sized : sequence.length = .ok elements.length)
    (viewed : sequence.elements = .ok elements)
    (short : elements.length ≤ Word.capacity) :
    decode isSet sequence = (do
      let mask ← Session.ofExcept (elements.mapM isSet)
      if mask.length < elements.length then
        Session.fail (.shortElements elements.length mask.length)
      else
        return Word.join mask) := by
  unfold decode
  rw [sized, Session.ofExcept_ok, pure_bind, viewed, Session.ofExcept_ok]
  refine Eq.trans (Session.require_bind_of_met rfl (decide_eq_true short) _) ?_
  rw [pure_bind, List.take_length]

/-- A short sequence with an answer for each element is read as their value. -/
theorem decode_of_answers
    {isSet : Value → Except Fault Bool}
    {sequence : Value}
    {elements : List Value}
    {mask : List Bool}
    (sized : sequence.length = .ok elements.length)
    (viewed : sequence.elements = .ok elements)
    (short : elements.length ≤ Word.capacity)
    (answered : elements.mapM isSet = .ok mask) :
    decode isSet sequence = pure (Bits.value mask : Int) := by
  have sameLength : elements.length = mask.length :=
    (mapM_eq_ok_iff.mp answered).length_eq
  rw [decode_of_short sized viewed short, answered, Session.ofExcept_ok,
    pure_bind, if_neg (by omega), Word.join_eq_value (by omega)]

/-- A short sequence with an element without an answer is not read. -/
theorem decode_of_unanswered
    {isSet : Value → Except Fault Bool}
    {sequence : Value}
    {elements : List Value}
    {fault : Fault}
    (sized : sequence.length = .ok elements.length)
    (viewed : sequence.elements = .ok elements)
    (short : elements.length ≤ Word.capacity)
    (unanswered : elements.mapM isSet = .error fault) :
    decode isSet sequence = Session.fail fault := by
  rw [decode_of_short sized viewed short, unanswered, Session.ofExcept_error,
    Session.fail_bind]

/-- A short sequence is read only if each of its elements has an answer. -/
theorem exists_answers_of_decode
    {isSet : Value → Except Fault Bool}
    {sequence : Value}
    {elements : List Value}
    {number : Int}
    (sized : sequence.length = .ok elements.length)
    (viewed : sequence.elements = .ok elements)
    (short : elements.length ≤ Word.capacity)
    (succeeded : (decode isSet sequence).result = .ok number) :
    ∃ mask, elements.mapM isSet = .ok mask ∧ number = Bits.value mask := by
  cases answered : elements.mapM isSet with
  | error fault =>
      rw [decode_of_unanswered sized viewed short answered] at succeeded
      cases succeeded
  | ok mask =>
      rw [decode_of_answers sized viewed short answered] at succeeded
      exact ⟨mask, rfl, (Except.ok.inj succeeded).symm⟩

/-! ## Sequences that are read alike -/

/-- Sequences of one length that is too long are refused in the same way. -/
theorem decode_eq_of_long
    {leftTest rightTest : Value → Except Fault Bool}
    {left right : Value}
    {length : Nat}
    (leftSized : left.length = .ok length)
    (rightSized : right.length = .ok length)
    (long : Word.capacity < length) :
    decode leftTest left = decode rightTest right := by
  have unmet : decide (length ≤ Word.capacity) = false :=
    decide_eq_false (Nat.not_le.mpr long)
  unfold decode
  rw [leftSized, rightSized, Session.ofExcept_ok, pure_bind, pure_bind, unmet]
  rfl

/-- Sequences of one length whose elements have the same answers are read in the
same way, or refused in the same way. -/
theorem decode_eq_of_answers
    {leftTest rightTest : Value → Except Fault Bool}
    {left right : Value}
    {leftElements rightElements : List Value}
    {mask : List Bool}
    (leftSized : left.length = .ok leftElements.length)
    (rightSized : right.length = .ok rightElements.length)
    (leftViewed : left.elements = .ok leftElements)
    (rightViewed : right.elements = .ok rightElements)
    (leftAnswered : leftElements.mapM leftTest = .ok mask)
    (rightAnswered : rightElements.mapM rightTest = .ok mask) :
    decode leftTest left = decode rightTest right := by
  have leftLength : leftElements.length = mask.length :=
    (mapM_eq_ok_iff.mp leftAnswered).length_eq
  have rightLength : rightElements.length = mask.length :=
    (mapM_eq_ok_iff.mp rightAnswered).length_eq
  rcases Nat.lt_or_ge Word.capacity mask.length with long | short
  · rw [leftLength] at leftSized
    rw [rightLength] at rightSized
    exact decode_eq_of_long leftSized rightSized long
  · rw [decode_of_answers leftSized leftViewed (by omega) leftAnswered,
      decode_of_answers rightSized rightViewed (by omega) rightAnswered]

/-- How a sequence is read depends on the answers of its elements alone. -/
theorem decode_congr
    {left right : Value → Except Fault Bool}
    {sequence : Value}
    (sameAnswers : ∀ elements, sequence.elements = .ok elements →
      ∀ element ∈ elements, left element = right element) :
    decode left sequence = decode right sequence := by
  unfold decode
  congr 1
  funext length
  congr 1
  funext _
  cases viewed : sequence.elements with
  | error fault => rfl
  | ok elements =>
      have sameMask : (elements.take length).mapM left =
          (elements.take length).mapM right := by
        apply mapM_congr
        intro element member
        exact sameAnswers elements viewed element (List.mem_of_mem_take member)
      rw [Session.ofExcept_ok, pure_bind, pure_bind, sameMask]

/-! ## Registers of bits and of outcomes -/

theorem numberOfBits_ofBits
    {bits : List Bool}
    (short : bits.length ≤ Word.capacity) :
    numberOfBits (.ofBits bits) = pure (Bits.value bits : Int) := by
  refine decode_of_answers ?_ (Value.elements_ofBits bits) ?_
    (mapM_truth_flags bits)
  · rw [Value.length_ofBits, List.length_map]
  · rwa [List.length_map]

theorem numberOfOutcomes_ofOutcomes
    {bits : List Bool}
    (short : bits.length ≤ Word.capacity) :
    numberOfOutcomes (.ofOutcomes (bits.map Outcome.ofBool)) =
      pure (Bits.value bits : Int) := by
  refine decode_of_answers ?_ (Value.elements_ofOutcomes _) ?_
    (mapM_measuredOne_outcomes bits)
  · simp only [Value.length_ofOutcomes, List.length_map]
  · rwa [List.length_map, List.length_map]

end Register
end Readout
