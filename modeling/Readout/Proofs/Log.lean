import Readout.Argument
import Readout.Proofs.Survey

/-!
# What the log says

The log of a conversion, of a benchmark and of a survey has one line if the session
ends in a refusal, and none otherwise. The line names the kind of the error and
repeats its wording. A check of any value as a condition leaves one line exactly if
the value counts as false.
-/

namespace Readout

namespace Survey

/-- A survey adds nothing to the log of its benchmark. -/
theorem log_eq_logOfEnding (setup : Benchmark.Setup) :
    (run setup).log = Session.logOfEnding (run setup).result := by
  have logged := (Benchmark.orderly_run setup).log_eq
  cases ended : (Benchmark.run setup).result with
  | error fault =>
      rw [ended] at logged
      rw [run_of_failed ended]
      exact logged
  | ok report =>
      rw [ended] at logged
      obtain ⟨_, rows, _, _, summarised, _⟩ := exists_rows_of_report ended
      have appended {events : List Event}
          (left : (run setup).events = (Benchmark.run setup).events ++ events) :
          (run setup).log = (Benchmark.run setup).log ++
            (⟨events, .ok ()⟩ : Session Unit).log := by
        rw [Session.log, Session.notices, left, List.filterMap_append, List.map_append]
        rfl
      -- Neither the figure nor the line that is added is a notice.
      cases rows with
      | nil =>
          obtain ⟨result, events, _⟩ := run_of_no_rows ended summarised
          rw [result, appended events, logged]
          rfl
      | cons row rest =>
          obtain ⟨result, events, _⟩ :=
            run_of_rows ended summarised (List.cons_ne_nil row rest)
          rw [result, appended events, logged]
          rfl

end Survey

namespace Argument

/-- What checking a value as a condition comes to. -/
inductive Checked
    (condition : Value)
    (kind : ErrorKind)
    (message : String)
    (session : Session Unit) :
    Prop
  | passed
      (holds : condition.truth = .ok true)
      (ends : session = pure ())
  | refused
      (fails : condition.truth = .ok false)
      (ends : session.RefusesWith kind message)
      (logged : session.log = ["DEBUG " ++ kind.text ++ ": " ++ message])
  | undecided
      (fault : Fault)
      (undefined : condition.truth = .error fault)
      (ends : session.FailsWith .value fault.message)
      (logged : session.log = [])

/-- The truth value of a condition decides what checking it comes to. -/
theorem checked_ensure
    (condition : Value)
    {kind : ErrorKind}
    (message : String)
    (isConversion : kind.isA .conversion = true) :
    Checked condition kind message (ensure condition ⟨kind, message⟩) := by
  have notKey : kind ≠ .key := by
    rintro rfl
    cases isConversion
  cases decided : condition.truth with
  | error fault =>
      have ended : ensure condition ⟨kind, message⟩ = Session.fail fault := by
        rw [ensure, decided, Session.ofExcept_error, Session.fail_bind]
      refine .undecided fault decided ?_ (by rw [ended]; rfl)
      rw [ended, ← Value.kind_of_truth_eq_error decided]
      exact Session.fail_failsWith fault
  | ok holds =>
      have ended : ensure condition ⟨kind, message⟩ =
          Session.check holds ⟨kind, message⟩ := by
        rw [ensure, decided, Session.ofExcept_ok, pure_bind]
      cases holds with
      | true =>
          rw [Session.check_true] at ended
          exact .passed decided ended
      | false =>
          rw [Session.check_false] at ended
          refine .refused decided ?_ (by rw [ended]; rfl)
          rw [ended]
          exact ⟨rfl, _, rfl, rfl, Session.message_refused notKey⟩

end Argument

/-- The log of a session says how it ended: every refusal has one line, which names
the kind of the error and repeats its wording, and there are no others. Checking a
value as a condition leaves one line exactly if the value counts as false. -/
theorem log_matches_ending :
    (∀ request : Conversion,
      request.run.log = Session.logOfEnding request.run.result) ∧
    (∀ setup : Benchmark.Setup,
      (Benchmark.run setup).log =
        Session.logOfEnding (Benchmark.run setup).result) ∧
    (∀ setup : Benchmark.Setup,
      (Survey.run setup).log = Session.logOfEnding (Survey.run setup).result) ∧
    (∀ (condition : Value) (kind : ErrorKind) (message : String),
      kind.isA .conversion = true →
      Argument.Checked condition kind message
        (Argument.ensure condition ⟨kind, message⟩)) :=
  ⟨fun request => request.orderly_run.log_eq,
    fun setup => (Benchmark.orderly_run setup).log_eq,
    Survey.log_eq_logOfEnding,
    fun condition _ message => Argument.checked_ensure condition message⟩

/-- An empty list does not pass as a condition. -/
theorem log_emptyCondition :
    ErrorKind.bitOverflow.isA .conversion = true ∧
      (Argument.ensure (.list []) ⟨.bitOverflow, "too wide"⟩).log =
        ["DEBUG BitOverflowError: too wide"] := by
  have isConversion : ErrorKind.bitOverflow.isA .conversion = true := rfl
  have checked := log_matches_ending.2.2.2 (.list []) .bitOverflow "too wide"
    isConversion
  cases checked with
  | passed holds => cases holds
  | refused _ _ logged => exact ⟨isConversion, logged⟩
  | undecided fault undefined => cases undefined

end Readout
