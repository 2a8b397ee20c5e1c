import Readout.Proofs.RoundTrip

/-!
# Two ways to read a sequence

The elements of a sequence can be read as bits, or turned into outcomes first and
then read as outcomes. The two ways agree for every length and for all kinds of
elements, on what they read as well as on what they refuse. So do reading outcomes
and reading the flags that say which elements are the outcome `one`.
-/

namespace Readout
namespace Conversion

/-- Turn the elements of a sequence into outcomes and read these. -/
def readThroughOutcomes (sequence : Value) : Session Value := do
  let outcomes ← run (.outcomes sequence)
  run (.numberOfOutcomes outcomes)

/-- Flag the elements of a sequence that are the outcome `one` and read the
flags. -/
def readThroughFlags (sequence : Value) : Session Value := do
  let flags ← run (.flags sequence)
  run (.numberOfBits flags)

/-- What reading a sequence of some length settles: a number that fits into the
length, or the refusal of the length with its one notice. -/
inductive Settles (length : Nat) (session : Session Value) : Prop
  | read
      (number : Nat)
      (short : length ≤ 63)
      (fits : number < 2 ^ length)
      (ends : session = pure (.integer number))
  | refused
      (long : 64 ≤ length)
      (ends : session.RefusesWith .range
        ("`bits` must be less than 64, but was " ++ Decimal.text length))

/-- A sequence all of whose elements have an answer is read or refused by its
length. -/
theorem settles_decode
    {test : Value → Except Fault Bool}
    {sequence : Value}
    {elements : List Value}
    {answers : List Bool}
    (sized : sequence.length = .ok elements.length)
    (viewed : sequence.elements = .ok elements)
    (answered : elements.mapM test = .ok answers) :
    Settles elements.length (Value.integer <$> Register.decode test sequence) := by
  rcases Nat.lt_or_ge elements.length 64 with short | long
  · have sameLength : elements.length = answers.length :=
      (mapM_eq_ok_iff.mp answered).length_eq
    refine .read (Bits.value answers) (Nat.le_of_lt_succ short) ?_ ?_
    · rw [sameLength]
      exact Bits.value_lt answers
    · rw [Register.decode_of_answers sized viewed (Nat.le_of_lt_succ short)
        answered, map_pure]
  · exact .refused long ((Register.decode_of_long sized long).map _)

/-- Elements with truth values are read alike as bits and through outcomes. -/
theorem readThroughOutcomes_eq
    {sequence : Value}
    {elements : List Value}
    {answers : List Bool}
    (sized : sequence.length = .ok elements.length)
    (viewed : sequence.elements = .ok elements)
    (answered : elements.mapM Value.truth = .ok answers) :
    readThroughOutcomes sequence = run (.numberOfBits sequence) := by
  have turned : run (.outcomes sequence) =
      pure (.ofOutcomes (answers.map Outcome.ofBool)) := by
    rw [run, Elementwise.outcomes_of_answers viewed answered, Session.ofExcept_ok,
      map_pure]
  have sameReading :
      Register.numberOfOutcomes (.ofOutcomes (answers.map Outcome.ofBool)) =
        Register.numberOfBits sequence := by
    refine Register.decode_eq_of_answers ?_ sized (Value.elements_ofOutcomes _)
      viewed (Register.mapM_measuredOne_outcomes answers) answered
    simp only [Value.length_ofOutcomes, List.length_map]
  rw [readThroughOutcomes, turned, pure_bind]
  exact congrArg (Value.integer <$> ·) sameReading

/-- Without grids and tables among the elements, they are read alike as outcomes and
through flags. -/
theorem readThroughFlags_eq
    {sequence : Value}
    {elements : List Value}
    (sized : sequence.length = .ok elements.length)
    (viewed : sequence.elements = .ok elements)
    (noCells : ∀ element ∈ elements, element.hasCells = false) :
    readThroughFlags sequence = run (.numberOfOutcomes sequence) := by
  have sameReading :
      Register.numberOfBits (.ofBits (elements.map Value.isOutcomeOne)) =
        Register.numberOfOutcomes sequence := by
    refine Register.decode_eq_of_answers ?_ sized (Value.elements_ofBits _) viewed
      (mapM_truth_flags _) (Register.mapM_measuredOne noCells)
    simp only [Value.length_ofBits, List.length_map]
  rw [readThroughFlags, run_flags viewed noCells, pure_bind]
  exact congrArg (Value.integer <$> ·) sameReading

/-- For a sequence of any length, reading its elements as bits is the same as
reading the outcomes that they stand for, if they have truth values; and reading
its outcomes is the same as reading their flags, if there are no grids and no tables
among them. What is read or refused is the same, and so are the notices. -/
theorem decode_paths_agree
    {sequence : Value}
    {length : Nat}
    (notTable : sequence.isTable = false)
    (sized : sequence.length = .ok length) :
    ∃ elements, sequence.elements = .ok elements ∧ elements.length = length ∧
      ((∀ element ∈ elements, ∃ answer, element.truth = .ok answer) →
        readThroughOutcomes sequence = run (.numberOfBits sequence) ∧
        Settles length (run (.numberOfBits sequence))) ∧
      ((∀ element ∈ elements, element.hasCells = false) →
        readThroughFlags sequence = run (.numberOfOutcomes sequence) ∧
        Settles length (run (.numberOfOutcomes sequence))) := by
  obtain ⟨elements, viewed, rfl⟩ := Value.exists_elements notTable sized
  refine ⟨elements, viewed, rfl, ?_, ?_⟩
  · intro hasTruths
    obtain ⟨answers, answered⟩ := exists_mapM_eq_ok hasTruths
    exact ⟨readThroughOutcomes_eq sized viewed answered,
      settles_decode sized viewed answered⟩
  · intro noCells
    exact ⟨readThroughFlags_eq sized viewed noCells,
      settles_decode sized viewed (Register.mapM_measuredOne noCells)⟩

/-- Of a sequence of a table, which is no grid, neither the flags nor the outcomes are
read, and not for the same reason. -/
theorem tableElement_disagrees :
    (Value.list [.twoFields]).isTable = false ∧
      (Value.list [.twoFields]).elements = .ok [.twoFields] ∧
      Value.twoFields.isArray = false ∧
      (readThroughFlags (.list [.twoFields])).FailsWith .value
        Fault.manyTruths.message ∧
      (run (.numberOfOutcomes (.list [.twoFields]))).FailsWith .value
        Fault.manyAnswers.message ∧
      Fault.manyTruths.message ≠ Fault.manyAnswers.message := by
  refine ⟨rfl, rfl, rfl, ?_, Session.fail_failsWith .manyAnswers, by decide⟩
  rw [readThroughFlags, run_flags_twoFields, pure_bind]
  exact Session.fail_failsWith .manyTruths

/-- One outcome more than a word takes. -/
def overlongOutcomes : Value :=
  .tuple (List.replicate 64 (.outcome .zero))

theorem overlongOutcomes_refused :
    overlongOutcomes.isTable = false ∧
      overlongOutcomes.length = .ok 64 ∧
      readThroughOutcomes overlongOutcomes = run (.numberOfBits overlongOutcomes) ∧
      readThroughFlags overlongOutcomes =
        run (.numberOfOutcomes overlongOutcomes) ∧
      (run (.numberOfBits overlongOutcomes)).RefusesWith .range
        ("`bits` must be less than 64, but was " ++ Decimal.text 64) := by
  have notTable : overlongOutcomes.isTable = false := rfl
  have sized : overlongOutcomes.length = .ok 64 := rfl
  obtain ⟨elements, viewed, _, asBits, asOutcomes⟩ :=
    decode_paths_agree notTable sized
  cases viewed
  have isZero {element : Value}
      (member : element ∈ List.replicate 64 (Value.outcome .zero)) :
      element = .outcome .zero :=
    List.eq_of_mem_replicate member
  obtain ⟨throughOutcomes, settled⟩ := asBits fun element member =>
    ⟨true, by rw [isZero member]; rfl⟩
  obtain ⟨throughFlags, _⟩ := asOutcomes fun element member => by
    rw [isZero member]
    rfl
  refine ⟨notTable, sized, throughOutcomes, throughFlags, ?_⟩
  cases settled with
  | read number short => exact absurd short (by decide)
  | refused long ends => exact ends

end Conversion
end Readout
