import Mathlib.Data.List.Forall2
import Readout.Elementwise
import Readout.Register.Decode
import Readout.Value.Number
import Readout.Value.View

/-!
# Values as integers and as sequences

An integer proper and an integer of fixed size are read alike wherever an
integer is asked for. Every value with a length, tables apart, has as many
elements as its length says. Asking all elements of a sequence a question
succeeds exactly if each of them has an answer.
-/

namespace Readout

/-! ## Answers of all elements -/

/-- Of two steps that succeed, the first has a result that the second takes. -/
theorem except_bind_eq_ok_iff
    {first : Except ε α}
    {next : α → Except ε β}
    {result : β} :
    first >>= next = .ok result ↔
      ∃ value, first = .ok value ∧ next value = .ok result := by
  cases first <;> simp [bind, Except.bind]

/-- A list is mapped to the answers of its elements, one by one. -/
theorem mapM_eq_ok_iff
    {ask : α → Except ε β}
    {items : List α}
    {answers : List β} :
    items.mapM ask = .ok answers ↔
      List.Forall₂ (fun item answer => ask item = .ok answer) items answers := by
  induction items generalizing answers with
  | nil => simp [pure, Except.pure, eq_comm]
  | cons item rest inductionHypothesis =>
      rw [List.mapM_cons, List.forall₂_cons_left_iff]
      simp only [except_bind_eq_ok_iff]
      constructor
      · rintro ⟨answer, asked, following, others, joined⟩
        cases joined
        exact ⟨answer, following, asked, inductionHypothesis.mp others, rfl⟩
      · rintro ⟨answer, following, asked, others, rfl⟩
        exact ⟨answer, asked, following, inductionHypothesis.mpr others, rfl⟩

/-- A list all of whose elements have an answer is mapped to the answers. -/
theorem exists_mapM_eq_ok
    {ask : α → Except ε β}
    {items : List α}
    (answered : ∀ item ∈ items, ∃ answer, ask item = .ok answer) :
    ∃ answers, items.mapM ask = .ok answers := by
  induction items with
  | nil => exact ⟨[], rfl⟩
  | cons item rest inductionHypothesis =>
      obtain ⟨answer, asked⟩ := answered item List.mem_cons_self
      obtain ⟨following, others⟩ := inductionHypothesis fun other member =>
        answered other (List.mem_cons_of_mem item member)
      exact ⟨answer :: following, mapM_eq_ok_iff.mpr
        (.cons asked (mapM_eq_ok_iff.mp others))⟩

/-- If all elements of a list together have answers, so has each of them. -/
theorem exists_answer_of_mem
    {ask : α → Except ε β}
    {items : List α}
    {answers : List β}
    {item : α}
    (answered : items.mapM ask = .ok answers)
    (member : item ∈ items) :
    ∃ answer, ask item = .ok answer := by
  rw [mapM_eq_ok_iff] at answered
  induction answered with
  | nil => cases member
  | cons asked _ inductionHypothesis =>
      rcases List.mem_cons.mp member with rfl | member
      · exact ⟨_, asked⟩
      · exact inductionHypothesis member

/-- Asking all elements fails at the first one without an answer. -/
theorem mapM_eq_error_iff
    {ask : α → Except ε β}
    {items : List α}
    {fault : ε} :
    items.mapM ask = .error fault ↔
      ∃ before item rest, items = before ++ item :: rest ∧
        (∀ earlier ∈ before, ∃ answer, ask earlier = .ok answer) ∧
        ask item = .error fault := by
  constructor
  · intro failed
    induction items with
    | nil => cases failed
    | cons item rest inductionHypothesis =>
        rw [List.mapM_cons] at failed
        cases asked : ask item with
        | error other =>
            rw [asked] at failed
            cases failed
            exact ⟨[], item, rest, rfl, by simp, asked⟩
        | ok answer =>
            rw [asked] at failed
            cases others : rest.mapM ask with
            | ok following =>
                rw [others] at failed
                cases failed
            | error other =>
                rw [others] at failed
                cases failed
                obtain ⟨before, first, after, rfl, answered, undefined⟩ :=
                  inductionHypothesis others
                refine ⟨item :: before, first, after, rfl, ?_, undefined⟩
                intro earlier member
                rcases List.mem_cons.mp member with rfl | member
                · exact ⟨answer, asked⟩
                · exact answered earlier member
  · rintro ⟨before, item, rest, rfl, answered, undefined⟩
    obtain ⟨answers, asked⟩ := exists_mapM_eq_ok answered
    rw [List.mapM_append, asked, List.mapM_cons, undefined]
    rfl

/-- Two questions that all elements answer alike have the same answers. -/
theorem mapM_congr
    {left right : α → Except ε β}
    {items : List α}
    (same : ∀ item ∈ items, left item = right item) :
    items.mapM left = items.mapM right := by
  induction items with
  | nil => rfl
  | cons item rest inductionHypothesis =>
      have others := inductionHypothesis fun other member =>
        same other (List.mem_cons_of_mem item member)
      rw [List.mapM_cons, List.mapM_cons, same item List.mem_cons_self, others]

/-- Where each answer is a known function of the element, so is the list. -/
theorem mapM_eq_ok_map
    {ask : α → Except ε β}
    {answer : α → β}
    {items : List α}
    (answered : ∀ item ∈ items, ask item = .ok (answer item)) :
    items.mapM ask = .ok (items.map answer) := by
  rw [mapM_eq_ok_iff, List.forall₂_map_right_iff, List.forall₂_same]
  exact answered

namespace Grid

/-- A grid with an axis has as many rows as the axis has indices. -/
theorem length_rows
    {grid : Grid α}
    {size : Nat}
    {inner : List Nat}
    (shaped : grid.shape = size :: inner) :
    grid.rows.length = size := by
  obtain ⟨shape, content, length_content⟩ := grid
  cases shaped
  exact length_cut inner size content length_content

end Grid

namespace Value

/-! ## Integers -/

/-- A value is an integer, proper or of fixed size; truth values are none. -/
inductive IsInteger : Value → Int → Prop
  | proper (number : Int) : IsInteger (.integer number) number
  | fixedSize (format : IntegerFormat) (number : Int) :
      IsInteger (.scalar (.integer format number)) number

/-- The integer that a value is read as is the one it is. -/
theorem integer?_eq_some_iff {value : Value} {number : Int} :
    value.integer? = some number ↔ value.IsInteger number := by
  constructor
  · intro read
    unfold integer? at read
    split at read
    · cases read
      exact .proper _
    · cases read
      exact .fixedSize _ _
    · cases read
  · rintro (_ | _) <;> rfl

/-- A value that is no integer is not read as one. -/
theorem integer?_eq_none_iff {value : Value} :
    value.integer? = none ↔ ∀ number, ¬value.IsInteger number := by
  rw [Option.eq_none_iff_forall_ne_some]
  exact forall_congr' fun number => not_congr integer?_eq_some_iff

theorem IsInteger.unique
    {value : Value}
    {left right : Int}
    (isLeft : value.IsInteger left)
    (isRight : value.IsInteger right) :
    left = right := by
  have read := integer?_eq_some_iff.mpr isLeft
  rw [integer?_eq_some_iff.mpr isRight] at read
  exact (Option.some.inj read).symm

/-- An integer counts as itself. -/
theorem IsInteger.count_eq
    {value : Value}
    {number : Int}
    (isInteger : value.IsInteger number) :
    value.count = .ok number := by
  cases isInteger <;> rfl

/-- An integer is positive if it is above zero. -/
theorem IsInteger.isPositive_eq
    {value : Value}
    {number : Int}
    (isInteger : value.IsInteger number) :
    value.isPositive = .ok (decide (0 < number)) := by
  cases isInteger <;> rfl

/-! ## Outcomes -/

/-- Whether a value itself is the outcome `one`. -/
def isOutcomeOne : Value → Bool
  | .outcome value => value.isOne
  | _ => false

theorem isOutcomeOne_iff {value : Value} :
    value.isOutcomeOne = true ↔ value = .outcome .one := by
  constructor
  · intro isOne
    unfold isOutcomeOne at isOne
    split at isOne
    · next outcome =>
        cases outcome with
        | zero => cases isOne
        | one => rfl
    · cases isOne
  · rintro rfl
    rfl

instance (value : Value) : Decidable (value = .outcome .one) :=
  decidable_of_iff _ isOutcomeOne_iff

/-- Whether a value is a grid or a table, which are compared cell by cell. -/
def hasCells (value : Value) : Bool :=
  value.isArray || value.isTable

/-- A value that is neither a grid nor a table has a single answer. -/
theorem isOne_eq_single
    {value : Value}
    (noCells : value.hasCells = false) :
    value.isOne = .single value.isOutcomeOne := by
  cases value with
  | array | table => cases noCells
  | _ => rfl

theorem isTable_of_not_hasCells
    {value : Value}
    (noCells : value.hasCells = false) :
    value.isTable = false :=
  (Bool.or_eq_false_iff.mp noCells).2

/-- A table of one column and two rows, which is compared field by field. -/
def twoFields : Value :=
  .table ⟨["a"], [[.integer 1], [.integer 2]]⟩

/-! ## Sequences -/

/-- Having no length is an error of type. -/
theorem kind_of_length_eq_error
    {value : Value}
    {fault : Fault}
    (unsized : value.length = .error fault) :
    fault.kind = .type := by
  cases value with
  | array cells =>
      cases shaped : cells.shape with
      | nil =>
          rw [Value.length, shaped] at unsized
          cases unsized
          rfl
      | cons size inner =>
          rw [Value.length, shaped] at unsized
          cases unsized
  | scalar content =>
      cases content with
      | text content => cases unsized
      | _ =>
          cases unsized
          rfl
  | nothing | flag | integer | real | outcome | cursor =>
      cases unsized
      rfl
  | _ => cases unsized

/-- Having no truth value is an error of value. -/
theorem kind_of_truth_eq_error
    {value : Value}
    {fault : Fault}
    (undefined : value.truth = .error fault) :
    fault.kind = .value := by
  cases value with
  | array cells =>
      change (cells.map Cell.truth).only = .error fault at undefined
      unfold Grid.only at undefined
      split at undefined
      · cases undefined
        rfl
      · cases undefined
      · cases undefined
        rfl
  | table content =>
      cases undefined
      rfl
  | _ => cases undefined

/-- A grid with an axis has as many parts as the axis has indices. -/
theorem exists_parts
    {cells : Grid Cell}
    {size : Nat}
    {inner : List Nat}
    (shaped : cells.shape = size :: inner) :
    ∃ elements, parts cells = .ok elements ∧ elements.length = size := by
  cases inner with
  | nil =>
      refine ⟨cells.cells.map ofCell, by rw [parts, shaped], ?_⟩
      rw [List.length_map, cells.length_cells, shaped]
      simp
  | cons next following =>
      refine ⟨cells.rows.map .array, by rw [parts, shaped], ?_⟩
      rw [List.length_map, Grid.length_rows shaped]

/-- A value with a length that is not a table has that many elements. -/
theorem exists_elements
    {value : Value}
    {length : Nat}
    (notTable : value.isTable = false)
    (sized : value.length = .ok length) :
    ∃ elements, value.elements = .ok elements ∧ elements.length = length := by
  cases value with
  | text content =>
      cases sized
      exact ⟨characters content, rfl, by simp [characters, String.length_toList]⟩
  | octets content =>
      cases sized
      exact ⟨_, rfl, List.length_map _⟩
  | list content | tuple content | mapping content =>
      cases sized
      exact ⟨content, rfl, rfl⟩
  | scalar content =>
      cases content with
      | text content =>
          cases sized
          exact ⟨characters content, rfl, by simp [characters, String.length_toList]⟩
      | _ => cases sized
  | array cells =>
      cases shaped : cells.shape with
      | nil => simp [Value.length, shaped] at sized
      | cons size inner =>
          simp only [Value.length, shaped, Except.ok.injEq] at sized
          exact sized ▸ exists_parts shaped
  | table content => simp [isTable] at notTable
  | _ => cases sized

@[simp] theorem length_ofBits (bits : List Bool) :
    (ofBits bits).length = .ok bits.length := by
  simp [ofBits, Value.length, Grid.map]

@[simp] theorem elements_ofBits (bits : List Bool) :
    (ofBits bits).elements = .ok (bits.map fun bit => .scalar (.flag bit)) := by
  simp [ofBits, elements, parts, Grid.map, Grid.vector, ofCell]

@[simp] theorem length_ofOutcomes (outcomes : List Outcome) :
    (ofOutcomes outcomes).length = .ok outcomes.length := by
  simp [ofOutcomes, Value.length]

@[simp] theorem elements_ofOutcomes (outcomes : List Outcome) :
    (ofOutcomes outcomes).elements = .ok (outcomes.map .outcome) := rfl

end Value

/-! ## Truth values and outcomes of the elements -/

/-- The truth values of truth values are themselves. -/
theorem mapM_truth_flags (bits : List Bool) :
    (bits.map fun bit => Value.scalar (.flag bit)).mapM Value.truth =
      .ok bits := by
  rw [mapM_eq_ok_iff, List.forall₂_map_left_iff, List.forall₂_same]
  exact fun bit _ => rfl

namespace Elementwise

/-- Elements with truth values stand for the outcomes that correspond to these. -/
theorem outcomes_of_answers
    {sequence : Value}
    {elements : List Value}
    {answers : List Bool}
    (viewed : sequence.elements = .ok elements)
    (answered : elements.mapM Value.truth = .ok answers) :
    outcomes sequence = .ok (answers.map Outcome.ofBool) := by
  rw [outcomes, viewed]
  change List.mapM outcome elements = _
  rw [mapM_eq_ok_iff, List.forall₂_map_right_iff]
  apply (mapM_eq_ok_iff.mp answered).imp
  intro element answer asked
  rw [outcome, asked]
  rfl

/-- Bits stand for the outcomes that correspond to them. -/
@[simp] theorem outcomes_ofBits (bits : List Bool) :
    outcomes (.ofBits bits) = .ok (bits.map Outcome.ofBool) :=
  outcomes_of_answers (Value.elements_ofBits bits) (mapM_truth_flags bits)

/-- Without grids and tables among the elements, each has a single flag. -/
theorem flags_eq_vector
    {sequence : Value}
    {elements : List Value}
    (viewed : sequence.elements = .ok elements)
    (noCells : ∀ element ∈ elements, element.hasCells = false) :
    flags sequence = .ok (Grid.vector (elements.map Value.isOutcomeOne)) := by
  have single : elements.map Value.isOne =
      (elements.map Value.isOutcomeOne).map Grid.single := by
    rw [List.map_map]
    exact List.map_congr_left fun element member =>
      Value.isOne_eq_single (noCells element member)
  rw [flags, viewed]
  change Grid.stack (elements.map Value.isOne) = _
  rw [single, Grid.stack_map_single]

end Elementwise

namespace Register

/-- A value that is neither a grid nor a table is measured as itself. -/
theorem measuredOne_of_not_hasCells
    {value : Value}
    (noCells : value.hasCells = false) :
    measuredOne value = .ok value.isOutcomeOne := by
  rw [measuredOne, Value.isTable_of_not_hasCells noCells,
    Value.isOne_eq_single noCells, Grid.only_single]

/-- Whatever is measured has an answer or too many of them. -/
theorem eq_manyAnswers_of_measuredOne
    {value : Value}
    {fault : Fault}
    (undefined : measuredOne value = .error fault) :
    fault = .manyAnswers := by
  unfold measuredOne at undefined
  split at undefined
  · cases undefined
  · cases undefined
    rfl

/-- Without grids and tables among the elements, each is measured. -/
theorem mapM_measuredOne
    {elements : List Value}
    (noCells : ∀ element ∈ elements, element.hasCells = false) :
    elements.mapM measuredOne = .ok (elements.map Value.isOutcomeOne) :=
  mapM_eq_ok_map fun element member =>
    measuredOne_of_not_hasCells (noCells element member)

/-- Outcomes are measured as the truth values that correspond to them. -/
theorem mapM_measuredOne_outcomes (bits : List Bool) :
    ((bits.map Outcome.ofBool).map Value.outcome).mapM measuredOne = .ok bits := by
  rw [mapM_eq_ok_iff, List.forall₂_map_left_iff, List.forall₂_map_left_iff,
    List.forall₂_same]
  intro bit _
  rw [measuredOne_of_not_hasCells rfl]
  exact congrArg Except.ok (Outcome.isOne_ofBool bit)

end Register
end Readout
