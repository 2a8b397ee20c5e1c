import Mathlib.Algebra.BigOperators.Fin
import Readout.Proofs.Decoding

/-!
# Reading as a sum of weights

The element at index `i` of a register weighs `2 ^ i`. A sequence is read as the
sum of the weights of its elements that pass a test, unless it has no length, is
too long, or has an element for which the test has no answer. These are found out
in this order, so that only the elements of a short sequence are looked at.
-/

namespace Readout
namespace Register

/-! ## Weights -/

/-- The sum of the weights of the elements that pass a test. -/
def weight (isSet : α → Prop) [DecidablePred isSet] (elements : List α) : Nat :=
  ∑ index : Fin elements.length,
    if isSet elements[index] then 2 ^ (index : Nat) else 0

section Weight

variable {isSet : α → Prop} [DecidablePred isSet]

@[simp] theorem weight_nil : weight isSet [] = 0 := rfl

@[simp] theorem weight_cons (element : α) (rest : List α) :
    weight isSet (element :: rest) =
      (if isSet element then 1 else 0) + 2 * weight isSet rest := by
  calc weight isSet (element :: rest)
      = (if isSet element then 1 else 0) +
          ∑ index : Fin rest.length,
            if isSet rest[index] then 2 ^ ((index : Nat) + 1) else 0 :=
        Fin.sum_univ_succ _
    _ = (if isSet element then 1 else 0) + 2 * weight isSet rest := by
        rw [weight, Finset.mul_sum]
        congr 1
        apply Finset.sum_congr rfl
        intro index _
        rw [mul_ite, mul_zero, Nat.pow_succ']

/-- A list of elements weighs less than the next element would. -/
theorem weight_lt (elements : List α) :
    weight isSet elements < 2 ^ elements.length := by
  induction elements with
  | nil => simp
  | cons element rest inductionHypothesis =>
      rw [weight_cons, List.length_cons, Nat.pow_succ]
      split <;> omega

/-- The value of the answers to a test is the weight of the elements that pass. -/
theorem value_eq_weight
    {elements : List α}
    {answers : List Bool}
    (decided : List.Forall₂ (fun element answer => answer = true ↔ isSet element)
      elements answers) :
    Bits.value answers = weight isSet elements := by
  induction decided with
  | nil => rfl
  | @cons element answer _ _ passes _ inductionHypothesis =>
      have lowest : answer.toNat = if isSet element then 1 else 0 := by
        cases answer with
        | false =>
            rw [if_neg fun set => nomatch passes.mpr set]
            rfl
        | true =>
            rw [if_pos (passes.mp rfl)]
            rfl
      rw [Bits.value_cons, weight_cons, lowest, inductionHypothesis]

end Weight

/-- The weight of the elements for which the test has the answer true is the
value of all answers. -/
theorem value_eq_weight_of_answers
    {test : α → Except Fault Bool}
    {elements : List α}
    {answers : List Bool}
    (answered : elements.mapM test = .ok answers) :
    Bits.value answers = weight (fun element => test element = .ok true) elements := by
  apply value_eq_weight
  apply (mapM_eq_ok_iff.mp answered).imp
  intro element answer asked
  rw [asked, Except.ok.injEq]

/-! ## What reading a sequence comes to -/

/-- What reading a sequence by a test of its elements comes to: its length is
checked first, then the first element without an answer decides. The last case is
the one in which there is a number. -/
inductive Reading
    (test : Value → Except Fault Bool)
    (sequence : Value)
    (session : Session Value) :
    Prop
  | unsized
      (fault : Fault)
      (noLength : sequence.length = .error fault)
      (ends : session.FailsWith .type fault.message)
  | long
      (length : Nat)
      (sized : sequence.length = .ok length)
      (long : 64 ≤ length)
      (ends : session.RefusesWith .range
        ("`bits` must be less than 64, but was " ++ Decimal.text length))
  | unanswered
      (before : List Value)
      (element : Value)
      (after : List Value)
      (fault : Fault)
      (sized : sequence.length = .ok (before ++ element :: after).length)
      (viewed : sequence.elements = .ok (before ++ element :: after))
      (short : (before ++ element :: after).length < 64)
      (answered : ∀ earlier ∈ before, ∃ answer, test earlier = .ok answer)
      (undefined : test element = .error fault)
      (ends : session.FailsWith .value fault.message)
  | read
      (elements : List Value)
      (sized : sequence.length = .ok elements.length)
      (viewed : sequence.elements = .ok elements)
      (short : elements.length < 64)
      (answered : ∀ element ∈ elements, ∃ answer, test element = .ok answer)
      (ends : session = pure (.integer
        (weight (fun element => test element = .ok true) elements)))
      (bound : weight (fun element => test element = .ok true) elements <
        2 ^ elements.length)

/-- A sequence is read as its length and the answers of its elements say. -/
theorem reading_decode
    {test : Value → Except Fault Bool}
    {sequence : Value}
    (notTable : sequence.isTable = false)
    (undefinedIsValue : ∀ element fault,
      test element = .error fault → fault.kind = .value) :
    Reading test sequence (Value.integer <$> decode test sequence) := by
  cases sized : sequence.length with
  | error fault =>
      refine .unsized fault sized ?_
      rw [decode_of_no_length sized, ← Value.kind_of_length_eq_error sized]
      exact (Session.fail_failsWith fault).map _
  | ok length =>
      rcases Nat.lt_or_ge length 64 with short | long
      · obtain ⟨elements, viewed, rfl⟩ := Value.exists_elements notTable sized
        have fits : elements.length ≤ Word.capacity := Nat.le_of_lt_succ short
        cases answered : elements.mapM test with
        | error fault =>
            obtain ⟨before, element, after, rfl, earlier, undefined⟩ :=
              mapM_eq_error_iff.mp answered
            refine .unanswered before element after fault sized viewed short earlier
              undefined ?_
            rw [decode_of_unanswered sized viewed fits answered,
              ← undefinedIsValue element fault undefined]
            exact (Session.fail_failsWith fault).map _
        | ok answers =>
            refine .read elements sized viewed short ?_ ?_ (weight_lt elements)
            · intro element member
              exact exists_answer_of_mem answered member
            · rw [decode_of_answers sized viewed fits answered, map_pure,
                value_eq_weight_of_answers answered]
      · exact .long length sized long ((decode_of_long sized long).map _)

/-- A short sequence all of whose elements have an answer is read as a weight. -/
theorem Reading.eq_weight
    {test : Value → Except Fault Bool}
    {sequence : Value}
    {session : Session Value}
    {elements : List Value}
    (reading : Reading test sequence session)
    (sized : sequence.length = .ok elements.length)
    (viewed : sequence.elements = .ok elements)
    (short : elements.length < 64)
    (answered : ∀ element ∈ elements, ∃ answer, test element = .ok answer) :
    session = pure (.integer
      (weight (fun element => test element = .ok true) elements)) := by
  cases reading with
  | unsized fault noLength =>
      rw [sized] at noLength
      cases noLength
  | long length otherSized long =>
      rw [sized] at otherSized
      cases otherSized
      exact absurd long (Nat.not_le.mpr short)
  | unanswered before element after fault _ otherViewed _ _ undefined =>
      rw [viewed] at otherViewed
      cases otherViewed
      obtain ⟨answer, asked⟩ := answered element (by simp)
      rw [undefined] at asked
      cases asked
  | read others _ otherViewed _ _ ends =>
      rw [viewed] at otherViewed
      cases otherViewed
      exact ends

/-- Without grids and tables among the elements, what is read from outcomes depends
on whether each element is the outcome `one`. -/
theorem numberOfOutcomes_eq_decode
    {sequence : Value}
    (noCells : ∀ elements, sequence.elements = .ok elements →
      ∀ element ∈ elements, element.hasCells = false) :
    numberOfOutcomes sequence =
      decode (fun element => .ok (decide (element = .outcome .one))) sequence := by
  apply decode_congr
  intro elements viewed element member
  rw [measuredOne_of_not_hasCells (noCells elements viewed element member),
    Except.ok.injEq, Bool.eq_iff_iff, decide_eq_true_iff, Value.isOutcomeOne_iff]

/-- A value that is not a table is read from its bits by the truth values of its
elements, and from its outcomes by which elements are the outcome `one`, if there are
no grids and no tables among them. The second test has an answer for every element. -/
theorem reading_outcome
    {sequence : Value}
    (notTable : sequence.isTable = false) :
    Reading Value.truth sequence (Conversion.run (.numberOfBits sequence)) ∧
    ((∀ elements, sequence.elements = .ok elements →
        ∀ element ∈ elements, element.hasCells = false) →
      Reading (fun element => .ok (decide (element = .outcome .one))) sequence
        (Conversion.run (.numberOfOutcomes sequence))) := by
  constructor
  · exact reading_decode notTable fun element fault undefined =>
      Value.kind_of_truth_eq_error undefined
  · intro noCells
    rw [Conversion.run, numberOfOutcomes_eq_decode noCells]
    exact reading_decode notTable fun element fault undefined => nomatch undefined

/-- A table among the elements, none of which is a grid, is enough for outcomes not to
be read: the answers for its fields are no single answer. -/
theorem tableElement_not_read :
    (Value.list [.twoFields]).isTable = false ∧
      (Value.list [.twoFields]).elements = .ok [.twoFields] ∧
      Value.twoFields.isArray = false ∧
      (Value.list [.twoFields]).length = .ok 1 ∧
      (Conversion.run (.numberOfOutcomes (.list [.twoFields]))).FailsWith .value
        "setting an array element with a sequence." :=
  ⟨rfl, rfl, rfl, rfl, Session.fail_failsWith .manyAnswers⟩

/-- Elements that count as true, of which one alone is the outcome `one`, and an
empty text, which does not. -/
def mixedElements : List Value :=
  [.outcome .zero, .integer 1, .outcome .one, .text ""]

theorem reading_mixedElements :
    (Value.list mixedElements).isTable = false ∧
      (∀ elements, (Value.list mixedElements).elements = .ok elements →
        ∀ element ∈ elements, element.hasCells = false) ∧
      Conversion.run (.numberOfBits (.list mixedElements)) =
        pure (.integer 7) ∧
      Conversion.run (.numberOfOutcomes (.list mixedElements)) =
        pure (.integer 4) := by
  have notTable : (Value.list mixedElements).isTable = false := rfl
  have noCells : ∀ elements, (Value.list mixedElements).elements = .ok elements →
      ∀ element ∈ elements, element.hasCells = false := by
    rintro _ ⟨⟩
    simp [mixedElements, Value.hasCells, Value.isArray, Value.isTable]
  have truths : ∀ element ∈ mixedElements, ∃ answer, element.truth = .ok answer := by
    simp [mixedElements, Value.truth]
  have ones : ∀ element ∈ mixedElements,
      ∃ answer, (.ok (decide (element = .outcome .one)) : Except Fault Bool) =
        .ok answer :=
    fun element _ => ⟨_, rfl⟩
  obtain ⟨bits, outcomes⟩ := reading_outcome notTable
  exact ⟨notTable, noCells, bits.eq_weight rfl rfl (by decide) truths,
    (outcomes noCells).eq_weight rfl rfl (by decide) ones⟩

end Register
end Readout
