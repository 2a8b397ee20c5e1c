import Readout.Benchmark.Run
import Readout.Conversion
import Readout.Proofs.Endings
import Readout.Proofs.Views

/-!
# Sessions that keep an orderly log

The log of a session says how the session ended: a refusal has one line, which
names the error and repeats its wording, and every other ending has none. Sessions
of this kind can be put one after the other, so that all conversions are of this
kind, and so are benchmarks, in any number of passes. None of them shows a figure.
-/

namespace Readout

/-- The kinds of errors that a notice announces. -/
def ErrorKind.announced : List ErrorKind :=
  [.range, .invalidArgument, .bitOverflow]

/-- Whether a fault is the refusal of a demand. -/
@[simp] def Fault.isRefusal : Fault → Bool
  | .refused _ => true
  | _ => false

/-- Only a refusal is of a kind that is announced. -/
theorem Fault.kind_not_mem_announced
    {fault : Fault}
    (notRefused : fault.isRefusal = false) :
    fault.kind ∉ ErrorKind.announced := by
  cases fault with
  | refused notice => cases notRefused
  | _ => simp [Fault.kind, ErrorKind.announced]

/-- Every demand is refused with an error that is announced. -/
theorem Demand.kind_mem_announced (demand : Demand) :
    demand.kind ∈ ErrorKind.announced := by
  cases demand <;> simp [Demand.kind, ErrorKind.announced]

namespace Session

/-- The log of a session, line by line. -/
def log (session : Session α) : List String :=
  session.notices.map Notice.logLine

/-- The log that an ending calls for. -/
def logOfEnding : Except Fault α → List String
  | .ok _ => []
  | .error fault =>
      if fault.kind ∈ ErrorKind.announced then
        ["DEBUG " ++ fault.kind.text ++ ": " ++ fault.message]
      else []

/-- A session whose log is the one that its ending calls for, and that shows no
figure. -/
structure Orderly (session : Session α) : Prop where
  /-- The log says how the session ended. -/
  log_eq : session.log = logOfEnding session.result
  /-- No figure is shown. -/
  figures_eq : session.figures = []

/-! ## Composition -/

theorem notices_of_append
    (before after : List Event)
    (result : Except Fault α) :
    (⟨before ++ after, result⟩ : Session α).notices =
      (⟨before, result⟩ : Session α).notices ++
        (⟨after, result⟩ : Session α).notices :=
  List.filterMap_append

theorem figures_of_append
    (before after : List Event)
    (result : Except Fault α) :
    (⟨before ++ after, result⟩ : Session α).figures =
      (⟨before, result⟩ : Session α).figures ++
        (⟨after, result⟩ : Session α).figures :=
  List.filterMap_append

theorem output_of_append
    (before after : List Event)
    (result : Except Fault α) :
    (⟨before ++ after, result⟩ : Session α).output =
      (⟨before, result⟩ : Session α).output ++
        (⟨after, result⟩ : Session α).output := by
  have lines : (⟨before ++ after, result⟩ : Session α).lines =
      (⟨before, result⟩ : Session α).lines ++
        (⟨after, result⟩ : Session α).lines :=
    List.filterMap_append
  rw [output, lines, List.map_append, String.join_append]
  rfl

theorem orderly_pure (value : α) : (pure value : Session α).Orderly :=
  ⟨rfl, rfl⟩

theorem orderly_print (text : String) : (print text).Orderly :=
  ⟨rfl, rfl⟩

/-- Failing otherwise than by a refusal is orderly. -/
theorem orderly_fail
    {fault : Fault}
    (notRefused : fault.isRefusal = false) :
    (fail fault : Session α).Orderly :=
  ⟨(if_neg (Fault.kind_not_mem_announced notRefused)).symm, rfl⟩

/-- Orderly sessions one after the other are orderly. A session that goes on has
left no notice, so that only its last part shows in the log. -/
theorem Orderly.bind
    {session : Session α}
    {next : α → Session β}
    (first : session.Orderly)
    (rest : ∀ value, (next value).Orderly) :
    (session >>= next).Orderly := by
  obtain ⟨logged, figureless⟩ := first
  cases ended : session.result with
  | error fault =>
      rw [ended] at logged
      rw [bind_of_error next ended]
      exact ⟨logged, figureless⟩
  | ok value =>
      rw [ended] at logged
      rw [bind_of_ok next ended]
      constructor
      · rw [log, notices_of_append, List.map_append]
        exact (congrArg (· ++ (next value).log) logged).trans (rest value).log_eq
      · rw [figures_of_append]
        exact (congrArg (· ++ (next value).figures) figureless).trans
          (rest value).figures_eq

theorem Orderly.map
    {session : Session α}
    (orderly : session.Orderly)
    (convert : α → β) :
    (convert <$> session).Orderly := by
  rw [map_eq_pure_bind]
  exact orderly.bind fun value => orderly_pure (convert value)

/-- What a demand is refused with is announced in the words of the error. -/
theorem orderly_require (holds : Bool) (demand : Demand) :
    (require holds demand).Orderly := by
  cases worded : demand.wording? with
  | none =>
      rw [require_of_unworded holds worded]
      exact orderly_fail rfl
  | some wording =>
      cases holds with
      | true =>
          rw [require_true worded]
          exact orderly_pure ()
      | false =>
          have message : (Fault.refused ⟨demand.kind, wording⟩).message = wording :=
            message_refused demand.kind_ne_key
          rw [require_false worded]
          refine ⟨?_, rfl⟩
          rw [logOfEnding, message]
          exact (if_pos demand.kind_mem_announced).symm

end Session

/-! ## Computations without events -/

/-- A computation that never ends in a refusal. -/
def Quiet (result : Except Fault α) : Prop :=
  ∀ fault, result = .error fault → fault.isRefusal = false

@[simp] theorem quiet_ok (value : α) : Quiet (.ok value) :=
  nofun

@[simp] theorem quiet_error_iff {fault : Fault} :
    Quiet (.error fault : Except Fault α) ↔ fault.isRefusal = false := by
  constructor
  · intro quiet
    exact quiet fault rfl
  · rintro notRefused _ ⟨⟩
    exact notRefused

theorem Quiet.bind
    {first : Except Fault α}
    {next : α → Except Fault β}
    (quiet : Quiet first)
    (rest : ∀ value, Quiet (next value)) :
    Quiet (first >>= next) := by
  cases first with
  | ok value => exact rest value
  | error fault => exact quiet_error_iff.mpr (quiet fault rfl)

theorem Quiet.map
    {result : Except Fault α}
    (quiet : Quiet result)
    (convert : α → β) :
    Quiet (result.map convert) := by
  cases result with
  | ok value => exact quiet_ok (convert value)
  | error fault => exact quiet_error_iff.mpr (quiet fault rfl)

theorem quiet_mapM
    {ask : α → Except Fault β}
    (quiet : ∀ item, Quiet (ask item))
    (items : List α) :
    Quiet (items.mapM ask) := by
  intro fault failed
  obtain ⟨_, item, _, _, _, undefined⟩ := mapM_eq_error_iff.mp failed
  exact quiet item fault undefined

theorem Session.orderly_ofExcept
    {result : Except Fault α}
    (quiet : Quiet result) :
    (Session.ofExcept result).Orderly := by
  cases result with
  | ok value => exact orderly_pure value
  | error fault => exact orderly_fail (quiet fault rfl)

/-! ## Views of values -/

theorem Grid.quiet_only (grid : Grid α) : Quiet grid.only := by
  unfold Grid.only
  split <;> simp

theorem Grid.quiet_stack (grids : List (Grid α)) : Quiet (Grid.stack grids) := by
  unfold Grid.stack
  split
  · simp
  · split <;> simp

namespace Value

theorem quiet_truth (value : Value) : Quiet value.truth := by
  cases value with
  | array cells => exact Grid.quiet_only _
  | _ => simp [truth]

theorem quiet_length (value : Value) : Quiet value.length := by
  cases value with
  | array cells =>
      rw [length]
      split <;> simp
  | scalar value => cases value <;> simp [length]
  | _ => simp [length]

theorem quiet_elements (value : Value) : Quiet value.elements := by
  cases value with
  | array cells =>
      rw [elements, parts]
      split <;> simp
  | scalar value => cases value <;> simp [elements]
  | _ => simp [elements]

theorem quiet_count (value : Value) : Quiet value.count := by
  unfold count
  split <;> simp

theorem quiet_isPositive (value : Value) : Quiet value.isPositive := by
  unfold isPositive
  split <;> simp

theorem quiet_wholeBound (value : Binary64) : Quiet (wholeBound value) := by
  unfold wholeBound wholePart
  apply Quiet.bind
  · split
    · simp
    · split <;> simp
  · intro whole
    split <;> simp

theorem quiet_successor (value : Value) : Quiet value.successor := by
  cases value with
  | real value => exact quiet_wholeBound _
  | scalar value =>
      cases value with
      | real format value => exact quiet_wholeBound _
      | _ => simp [successor]
  | _ => simp [successor]

end Value

/-! ## Conversions -/

namespace Elementwise

theorem quiet_outcome (value : Value) : Quiet (outcome value) :=
  value.quiet_truth.map _

theorem quiet_outcomes (sequence : Value) : Quiet (outcomes sequence) :=
  sequence.quiet_elements.bind fun elements => quiet_mapM quiet_outcome elements

theorem quiet_flags (sequence : Value) : Quiet (flags sequence) :=
  sequence.quiet_elements.bind fun _ => Grid.quiet_stack _

end Elementwise

/-- An argument that is no integer is refused without a notice. -/
theorem Argument.orderly_integer (name : String) (value : Value) :
    (Argument.integer name value).Orderly := by
  unfold Argument.integer
  split
  · exact Session.orderly_pure _
  · exact Session.orderly_fail rfl

namespace Register

theorem quiet_measuredOne (value : Value) : Quiet (measuredOne value) := by
  intro fault undefined
  rw [eq_manyAnswers_of_measuredOne undefined]
  rfl

theorem orderly_decode
    {isSet : Value → Except Fault Bool}
    (quiet : ∀ value, Quiet (isSet value))
    (sequence : Value) :
    (decode isSet sequence).Orderly := by
  unfold decode
  apply (Session.orderly_ofExcept sequence.quiet_length).bind
  intro length
  apply (Session.orderly_require _ _).bind
  intro _
  apply (Session.orderly_ofExcept sequence.quiet_elements).bind
  intro elements
  apply (Session.orderly_ofExcept (quiet_mapM quiet _)).bind
  intro mask
  split
  · exact Session.orderly_fail rfl
  · exact Session.orderly_pure _

theorem orderly_numberOfBits (bits : Value) : (numberOfBits bits).Orderly :=
  orderly_decode Value.quiet_truth bits

theorem orderly_numberOfOutcomes (outcomes : Value) :
    (numberOfOutcomes outcomes).Orderly :=
  orderly_decode quiet_measuredOne outcomes

/-- Whichever demand is not met, it is announced, and none after it is worded. -/
theorem orderly_bitsOfNumber (number width : Value) :
    (bitsOfNumber number width).Orderly := by
  unfold bitsOfNumber
  apply (Argument.orderly_integer "number" number).bind
  intro number
  apply (Argument.orderly_integer "bits" width).bind
  intro width
  apply (Session.orderly_require _ _).bind
  intro _
  apply (Session.orderly_require _ _).bind
  intro _
  apply (Session.orderly_require _ _).bind
  intro _
  apply (Session.orderly_require _ _).bind
  intro _
  exact Session.orderly_pure _

end Register

namespace Widening

theorem quiet_realOfInteger (number : Int) : Quiet (realOfInteger number) := by
  unfold realOfInteger
  cases Binary64.ofInt? number with
  | some real => exact quiet_ok real
  | none => simp

theorem orderly_asReal (number : Value) : (asReal number).Orderly := by
  unfold asReal
  apply (Argument.orderly_integer "number" number).bind
  intro number
  exact Session.orderly_ofExcept (quiet_realOfInteger number)

end Widening

theorem Conversion.orderly_run (request : Conversion) : request.run.Orderly := by
  cases request with
  | numberOfBits sequence => exact (Register.orderly_numberOfBits sequence).map _
  | bitsOfNumber number width =>
      exact (Register.orderly_bitsOfNumber number width).map _
  | numberOfOutcomes sequence =>
      exact (Register.orderly_numberOfOutcomes sequence).map _
  | isOne value => exact Session.orderly_pure _
  | outcome value =>
      exact (Session.orderly_ofExcept (Elementwise.quiet_outcome value)).map _
  | flags sequence =>
      exact (Session.orderly_ofExcept (Elementwise.quiet_flags sequence)).map _
  | outcomes sequence =>
      exact (Session.orderly_ofExcept (Elementwise.quiet_outcomes sequence)).map _
  | asReal number => exact (Widening.orderly_asReal number).map _
  | asInteger number => exact (Argument.orderly_integer "number" number).map _

/-! ## Benchmarks -/

theorem WidthSource.quiet_width
    (widths : WidthSource)
    (generator : Generator)
    (index : Nat) :
    Quiet (widths.width generator index) := by
  cases widths with
  | given widths => exact quiet_ok _
  | drawn largest =>
      apply largest.quiet_successor.bind
      intro bound
      split
      · rw [Fault.noNumberBelow]
        split <;> simp
      · split <;> simp

namespace Benchmark

theorem quiet_drawNumber (width : Value) (generator : Generator) :
    Quiet (drawNumber width generator) := by
  apply width.quiet_isPositive.bind
  intro positive
  split
  · exact width.quiet_count.bind fun _ => quiet_ok _
  · exact quiet_ok _

theorem quiet_registerSize (width : Value) (bits : List Bool) :
    Quiet (registerSize width bits) := by
  unfold registerSize
  split <;> simp

theorem orderly_roundTrip
    (setup : Setup)
    (index : Nat)
    (width : Value)
    (number : Nat) :
    (roundTrip setup index width number).Orderly := by
  unfold roundTrip
  apply (Register.orderly_bitsOfNumber (.integer number) width).bind
  intro bits
  apply (Register.orderly_numberOfBits _).bind
  intro decoded
  apply (Session.orderly_ofExcept (Elementwise.quiet_outcomes _)).bind
  intro outcomes
  apply (Register.orderly_numberOfOutcomes _).bind
  intro measured
  apply (Session.orderly_ofExcept (quiet_registerSize width bits)).bind
  intro size
  exact Session.orderly_pure _

theorem orderly_record
    (trip : RoundTrip)
    (time : Binary64)
    (generator : Generator)
    (state : State) :
    (record trip time generator state).Orderly := by
  unfold record
  split
  · exact Session.orderly_pure _
  · split
    · exact Session.orderly_pure _
    · split
      · exact Session.orderly_fail rfl
      · exact (Session.orderly_print _).bind fun _ => Session.orderly_pure _

theorem orderly_pass (setup : Setup) (index : Nat) (state : State) :
    (pass setup index state).Orderly := by
  unfold pass
  apply (Session.orderly_ofExcept (setup.widths.quiet_width _ _)).bind
  intro width
  apply (Session.orderly_ofExcept (quiet_drawNumber _ _)).bind
  intro number
  apply (orderly_roundTrip setup index _ _).bind
  intro trip
  exact orderly_record _ _ _ _

/-- However many passes come before a failing one, they leave no notice. -/
theorem orderly_passes (setup : Setup) (count index : Nat) (state : State) :
    (passes setup count index state).Orderly := by
  induction count generalizing index state with
  | zero => exact Session.orderly_pure state
  | succ count inductionHypothesis =>
      apply (orderly_pass setup index state).bind
      intro following
      exact inductionHypothesis (index + 1) following

theorem quiet_countText (value : Value) : Quiet (countText value) := by
  unfold countText
  split
  · exact quiet_ok _
  · exact quiet_ok _
  · apply value.quiet_count.bind
    intro number
    split <;> simp

theorem orderly_summarise (setup : Setup) (state : State) :
    (summarise setup state).Orderly := by
  unfold summarise
  apply (Session.orderly_ofExcept (quiet_countText setup.passes)).bind
  intro count
  apply (Session.orderly_print _).bind
  intro _
  split
  · exact (Session.orderly_print _).bind fun _ => Session.orderly_pure _
  · exact (Session.orderly_pure _).bind fun _ => Session.orderly_pure _

/-- A benchmark is orderly, whatever its setup. -/
theorem orderly_run (setup : Setup) : (run setup).Orderly := by
  unfold run
  apply (Session.orderly_ofExcept setup.passes.quiet_count).bind
  intro count
  apply (orderly_passes setup _ _ _).bind
  intro final
  exact orderly_summarise setup final

end Benchmark
end Readout
