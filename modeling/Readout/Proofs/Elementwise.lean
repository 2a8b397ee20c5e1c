import Readout.Proofs.RoundTrip

/-!
# Truth values to outcomes and back

The truth values of the elements of any sequence come back from the outcomes that they
stand for. The other way round, outcomes come back from their flags, and all elements
that are not the outcome `one` become `zero`, true or not. Both hold at every length
and for elements that can be gone through only once.
-/

namespace Readout
namespace Conversion

/-- Turn the elements of a sequence into outcomes, and these into flags. -/
def flagsThroughOutcomes (sequence : Value) : Session Value := do
  let outcomes ← run (.outcomes sequence)
  run (.flags outcomes)

/-- Turn the elements of a sequence into flags, and these into outcomes. -/
def outcomesThroughFlags (sequence : Value) : Session Value := do
  let flags ← run (.flags sequence)
  run (.outcomes flags)

/-- The outcome that comes back from the flag of a value. -/
def normalised (value : Value) : Outcome :=
  if value = .outcome .one then .one else .zero

theorem ofBool_isOutcomeOne (value : Value) :
    Outcome.ofBool value.isOutcomeOne = normalised value := by
  unfold normalised
  split
  · next isOne => rw [Value.isOutcomeOne_iff.mpr isOne, Outcome.ofBool_true]
  · next notOne =>
      rw [Bool.eq_false_iff.mpr (mt Value.isOutcomeOne_iff.mp notOne), Outcome.ofBool_false]

@[simp] theorem normalised_outcome (outcome : Outcome) :
    normalised (.outcome outcome) = outcome :=
  (ofBool_isOutcomeOne _).symm.trans (Outcome.ofBool_isOne outcome)

/-- The flags of outcomes say which of them are `one`. -/
theorem run_flags_ofOutcomes (outcomes : List Outcome) :
    run (.flags (.ofOutcomes outcomes)) = pure (.ofBits (outcomes.map Outcome.isOne)) := by
  have noCells : ∀ element ∈ outcomes.map Value.outcome, element.hasCells = false := by
    intro element member
    obtain ⟨outcome, _, rfl⟩ := List.mem_map.mp member
    rfl
  rw [run_flags (Value.elements_ofOutcomes outcomes) noCells, List.map_map]
  rfl

section Sequences

variable
  {sequence : Value}
  {elements : List Value}
  (viewed : sequence.elements = .ok elements)

include viewed in
/-- Elements with truth values come back as these. -/
theorem flagsThroughOutcomes_eq
    {bits : List Bool}
    (truths : List.Forall₂ (fun element bit => element.truth = .ok bit) elements bits) :
    flagsThroughOutcomes sequence = pure (.ofBits bits) := by
  have outcomes := Elementwise.outcomes_of_answers viewed (mapM_eq_ok_iff.mpr truths)
  have restored : (bits.map Outcome.ofBool).map Outcome.isOne = bits := by
    rw [List.map_map]
    exact List.map_id'' Outcome.isOne_ofBool bits
  rw [flagsThroughOutcomes, run, outcomes, Session.ofExcept_ok, map_pure, pure_bind,
    run_flags_ofOutcomes, restored]

include viewed in
/-- Elements that are no grids and no tables come back as outcomes. -/
theorem outcomesThroughFlags_eq
    (noCells : ∀ element ∈ elements, element.hasCells = false) :
    outcomesThroughFlags sequence = pure (.ofOutcomes (elements.map normalised)) := by
  have restored : (elements.map Value.isOutcomeOne).map Outcome.ofBool =
      elements.map normalised := by
    rw [List.map_map]
    exact List.map_congr_left fun element _ => ofBool_isOutcomeOne element
  rw [outcomesThroughFlags, run_flags viewed noCells, pure_bind, run_outcomes_ofBits,
    restored]

include viewed in
/-- Where truth values are missing, the first one that is missing decides. -/
theorem run_outcomes_of_undefined
    {fault : Fault}
    (undefined : elements.mapM Value.truth = .error fault) :
    run (.outcomes sequence) = Session.fail fault := by
  obtain ⟨before, element, after, split, answered, untrue⟩ := mapM_eq_error_iff.mp undefined
  -- An element stands for an outcome exactly if it has a truth value.
  have failed : elements.mapM Elementwise.outcome = .error fault := by
    refine mapM_eq_error_iff.mpr ⟨before, element, after, split, ?_, ?_⟩
    · intro earlier member
      obtain ⟨answer, asked⟩ := answered earlier member
      exact ⟨Outcome.ofBool answer, by rw [Elementwise.outcome, asked, Except.map]⟩
    · rw [Elementwise.outcome, untrue, Except.map]
  rw [run, Elementwise.outcomes, viewed]
  change Value.ofOutcomes <$> Session.ofExcept (elements.mapM Elementwise.outcome) = _
  rw [failed]
  rfl

end Sequences

theorem outcomesThroughFlags_ofOutcomes (outcomes : List Outcome) :
    outcomesThroughFlags (.ofOutcomes outcomes) = pure (.ofOutcomes outcomes) := by
  have restored : (outcomes.map Outcome.isOne).map Outcome.ofBool = outcomes := by
    rw [List.map_map]
    exact List.map_id'' Outcome.ofBool_isOne outcomes
  rw [outcomesThroughFlags, run_flags_ofOutcomes, pure_bind, run_outcomes_ofBits, restored]

/-- The two maps on sequences of any kind and length. Truth values come back through
outcomes. Without grids and tables among the elements, each comes back as an outcome,
which is `one` for the outcome `one` alone; outcomes come back as themselves, and nothing
changes any more the second time. Where elements have no truth value, the first of them is the
error, and there are no outcomes. -/
theorem elementwise_maps_inverse
    {sequence : Value}
    {elements : List Value}
    (viewed : sequence.elements = .ok elements) :
    ((∀ element ∈ elements, ∃ bit, element.truth = .ok bit) →
      ∃ bits, List.Forall₂ (fun element bit => element.truth = .ok bit) elements bits ∧
        flagsThroughOutcomes sequence = pure (.ofBits bits)) ∧
    ((∀ element ∈ elements, element.hasCells = false) →
      outcomesThroughFlags sequence = pure (.ofOutcomes (elements.map normalised)) ∧
      (∀ outcomes, elements = outcomes.map .outcome →
        outcomesThroughFlags sequence = pure (.ofOutcomes outcomes)) ∧
      (do
        let once ← outcomesThroughFlags sequence
        outcomesThroughFlags once) = outcomesThroughFlags sequence) ∧
    ((∃ element ∈ elements, ∀ bit, element.truth ≠ .ok bit) →
      ∃ before element after fault, elements = before ++ element :: after ∧
        (∀ earlier ∈ before, ∃ bit, earlier.truth = .ok bit) ∧
        element.truth = .error fault ∧
        fault.kind = .value ∧
        run (.outcomes sequence) = Session.fail fault) := by
  refine ⟨?_, ?_, ?_⟩
  · intro answered
    obtain ⟨bits, truths⟩ := exists_mapM_eq_ok answered
    have pointwise := mapM_eq_ok_iff.mp truths
    exact ⟨bits, pointwise, flagsThroughOutcomes_eq viewed pointwise⟩
  · intro noCells
    have restored := outcomesThroughFlags_eq viewed noCells
    refine ⟨restored, ?_, ?_⟩
    · rintro outcomes rfl
      rw [restored, List.map_map]
      exact congrArg (pure ∘ Value.ofOutcomes) (List.map_id'' normalised_outcome outcomes)
    · rw [restored, pure_bind, outcomesThroughFlags_ofOutcomes]
  · rintro ⟨untrue, member, none⟩
    cases truths : elements.mapM Value.truth with
    | ok bits =>
        obtain ⟨bit, defined⟩ := exists_answer_of_mem truths member
        exact absurd defined (none bit)
    | error fault =>
        obtain ⟨before, element, after, split, answered, undefined⟩ :=
          mapM_eq_error_iff.mp truths
        exact ⟨before, element, after, fault, split, answered, undefined,
          Value.kind_of_truth_eq_error undefined, run_outcomes_of_undefined viewed truths⟩

/-- The flags of a sequence of a table, which is no grid, have no single truth values,
so that no outcomes come back. -/
theorem tableElement_not_restored :
    (Value.list [.twoFields]).elements = .ok [.twoFields] ∧
      Value.twoFields.isArray = false ∧
      (outcomesThroughFlags (.list [.twoFields])).FailsWith .value
        Fault.manyTruths.message := by
  refine ⟨rfl, rfl, ?_⟩
  rw [outcomesThroughFlags, run_flags_twoFields, pure_bind]
  exact Session.fail_failsWith .manyTruths

/-- Elements that are all true and can be gone through once. -/
def trueElements : List Value :=
  [.outcome .one, .integer 1, .outcome .zero, .flag true]

theorem trueElements_restored :
    (Value.cursor trueElements).elements = .ok trueElements ∧
      flagsThroughOutcomes (.cursor trueElements) =
        pure (.ofBits [true, true, true, true]) ∧
      outcomesThroughFlags (.cursor trueElements) =
        pure (.ofOutcomes [.one, .zero, .zero, .zero]) := by
  have viewed : (Value.cursor trueElements).elements = .ok trueElements := rfl
  obtain ⟨throughOutcomes, throughFlags, _⟩ := elementwise_maps_inverse viewed
  have allTrue : trueElements.mapM Value.truth = .ok [true, true, true, true] := rfl
  obtain ⟨bits, truths, restored⟩ := throughOutcomes fun _ => exists_answer_of_mem allTrue
  obtain rfl : [true, true, true, true] = bits :=
    Except.ok.inj (allTrue.symm.trans (mapM_eq_ok_iff.mpr truths))
  have noCells : ∀ element ∈ trueElements, element.hasCells = false := by
    simp [trueElements, Value.hasCells, Value.isArray, Value.isTable]
  exact ⟨viewed, restored, (throughFlags noCells).1⟩

end Conversion
end Readout
