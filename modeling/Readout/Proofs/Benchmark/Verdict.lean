import Readout.Benchmark.Run
import Readout.Proofs.Benchmark.Timings

/-!
# The verdict of a benchmark

With widths that can be read, a benchmark succeeds if what it reports can be written.
The mismatches are exactly the passes into which a fault is injected, so there are
none without faults, and what is printed follows from the draws and the faults. A
fault that makes a number too long for its report ends the benchmark there.
-/

namespace Readout
namespace Benchmark

/-- A number of passes that is no truth value is printed if its numeral is. -/
theorem countText_of_isInteger
    {passes : Value}
    {count : Int}
    (isCount : passes.IsInteger count) :
    countText passes =
      (Decimal.text? count).elim (.error .tooLongToWrite) .ok := by
  cases isCount <;>
    simp only [countText, Value.count, bind, Except.bind] <;>
    cases Decimal.text? count <;> rfl

/-- A number of passes is a certain integer and is printed in a certain way: an
integer with at most as many digits as can be written, or the truth value that
counts as one. -/
inductive Announces : Value → Int → String → Prop
  | integer (count : Int) (short : count.natAbs < 10 ^ Decimal.maxDigits) :
      Announces (.integer count) count (Decimal.text count)
  | flag : Announces (.flag true) 1 "True"

/-- An integer from zero up that fits into a word is announced by its numeral. -/
theorem announces_word
    {count : Int}
    (nonnegative : 0 ≤ count)
    (isWord : count ≤ Word.largest) :
    Announces (.integer count) count (Decimal.text count) :=
  .integer count (Decimal.isSpeakable_iff.mp
    (Decimal.isSpeakable_of_le_largest nonnegative isWord))

theorem Announces.count_eq
    {passes : Value}
    {count : Int}
    {label : String}
    (announces : Announces passes count label) :
    passes.count = .ok count := by
  cases announces <;> rfl

theorem Announces.countText_eq
    {passes : Value}
    {count : Int}
    {label : String}
    (announces : Announces passes count label) :
    countText passes = .ok label := by
  cases announces with
  | integer count short =>
      have speakable := Decimal.isSpeakable_iff.mpr short
      rw [countText_of_isInteger (.proper count),
        Decimal.text?_of_isSpeakable speakable]
      rfl
  | flag => rfl

namespace Setup

/-- The distinct widths of the passes below an index, in the order in which they
first come up. -/
def distinctSizes (setup : Setup) (count : Nat) : List Nat :=
  ((List.range count).map setup.size).eraseDups

/-- The lines that sum up a number of passes, given how the number is printed. -/
def summaryLines (setup : Setup) (label : String) (count : Nat) : List String :=
  (label ++ " round trips over " ++
      Decimal.text (setup.distinctSizes count).length ++ " widths.") ::
    if 0 < (setup.faultyPasses count).length then
      [Decimal.text (setup.faultyPasses count).length ++ " MISMATCHES!!!"]
    else []

/-- The lines that a number of passes prints: a report for each of the first
three passes with a fault, then the summary. -/
def verdictLines (setup : Setup) (label : String) (count : Nat) : List String :=
  setup.mismatchLines count ++ setup.summaryLines label count

end Setup

/-- Summing up the passes below an index prints the summary. -/
theorem summarise_stateBefore
    {setup : Setup}
    {label : String}
    (counted : countText setup.passes = .ok label)
    (count : Nat) :
    summarise setup (setup.stateBefore count) =
      ⟨(setup.summaryLines label count).map .line,
        .ok ⟨setup.timings count, setup.passes,
          (setup.faultyPasses count).length⟩⟩ := by
  have widths : (setup.stateBefore count).timings.keys.length =
      (setup.distinctSizes count).length :=
    congrArg List.length (keys_timings setup count)
  rw [summarise, counted, Session.ofExcept_ok, pure_bind, widths,
    Setup.summaryLines]
  by_cases faulty : 0 < (setup.faultyPasses count).length
  · have counts : 0 < (setup.stateBefore count).mismatches := faulty
    rw [if_pos faulty, if_pos counts]
    rfl
  · have counts : ¬0 < (setup.stateBefore count).mismatches := faulty
    rw [if_neg faulty, if_neg counts]
    rfl

section Run

variable {setup : Setup} {count : Int}

/-- A benchmark whose passes complete, and whose number of passes can be printed, prints
the verdict and reports it. -/
theorem run_of_counted
    {label : String}
    (counted : setup.passes.count = .ok count)
    (labelled : countText setup.passes = .ok label)
    (completes : ∀ index < count.toNat, Completes setup index) :
    run setup =
      ⟨(setup.verdictLines label count.toNat).map .line,
        .ok ⟨setup.timings count.toNat, setup.passes,
          (setup.faultyPasses count.toNat).length⟩⟩ := by
  rw [run, counted, Session.ofExcept_ok, pure_bind,
    passes_stateBefore completes, Session.bind_of_ok _ rfl,
    summarise_stateBefore labelled, Setup.verdictLines,
    List.map_append]

theorem run_of_completes
    {label : String}
    (announces : Announces setup.passes count label)
    (completes : ∀ index < count.toNat, Completes setup index) :
    run setup =
      ⟨(setup.verdictLines label count.toNat).map .line,
        .ok ⟨setup.timings count.toNat, setup.passes,
          (setup.faultyPasses count.toNat).length⟩⟩ :=
  run_of_counted announces.count_eq announces.countText_eq completes

section Failed

variable
  {index : Nat}
  (counted : setup.passes.count = .ok count)
  (below : index < count.toNat)
  (completes : ∀ earlier < index, Completes setup earlier)

include counted below completes

/-- A benchmark ends as the first pass that fails, after the reports of the passes
before. -/
theorem run_of_failed
    {events : List Event}
    {fault : Fault}
    (failed : pass setup index (setup.stateBefore index) = ⟨events, .error fault⟩) :
    run setup = ⟨(setup.mismatchLines index).map .line ++ events, .error fault⟩ := by
  rw [run, counted, Session.ofExcept_ok, pure_bind,
    passes_of_failed below completes failed, Session.bind_of_error _ rfl]

/-- A benchmark ends at the first report that cannot be written. -/
theorem run_of_not_printable
    (readable : Readable setup index)
    (notPrintable : ¬Printable setup index) :
    run setup = ⟨(setup.mismatchLines index).map .line, .error .tooLongToWrite⟩ := by
  rw [run_of_failed counted below completes
    (pass_of_not_printable readable notPrintable), List.append_nil]

end Failed

end Run

theorem faultyPasses_of_no_faults
    {setup : Setup}
    (noBitFaults : setup.bitFaults = [])
    (noOutcomeFaults : setup.outcomeFaults = [])
    (count : Nat) :
    setup.faultyPasses count = [] := by
  apply List.filter_eq_nil_iff.mpr
  intro index _
  simp [Setup.isFaulty, Setup.bitFault, Setup.outcomeFault, noBitFaults,
    noOutcomeFaults, cyclic]

/-- Notices after the lines of a session do not show in its printed text. -/
theorem output_of_lines_append_notices
    {session : Session α}
    {lines : List String}
    {notices : List Notice}
    (left : session.events = lines.map .line ++ notices.map .notice) :
    session.output = String.join (lines.map (· ++ "\n")) := by
  have kept : session.lines = lines := by
    rw [Session.lines, left, List.filterMap_append, List.filterMap_map,
      List.filterMap_map]
    have printed : lines.filterMap some = lines := List.filterMap_some
    have silent : notices.filterMap (fun _ => (none : Option String)) = [] :=
      List.filterMap_eq_nil_iff.mpr fun _ _ => rfl
    exact (congrArg₂ (· ++ ·) printed silent).trans (List.append_nil lines)
  rw [Session.output, kept]

/-- The printed text of a session in which only lines are printed. -/
theorem output_of_lines
    {session : Session α}
    {lines : List String}
    (printed : session.events = lines.map .line) :
    session.output = String.join (lines.map (· ++ "\n")) := by
  have left : session.events =
      lines.map .line ++ ([] : List Notice).map .notice := by
    rw [printed, List.map_nil, List.append_nil]
  exact output_of_lines_append_notices left

/-- With widths that can be read, a benchmark succeeds if what it reports can be
written, as it can with masks that fit into words. Its mismatches are the passes into
which a fault is injected, and it leaves nothing behind but the lines of the verdict.
Otherwise it fails at the first report with too many digits, after the lines of the
passes before. -/
theorem run_verdict
    {setup : Setup}
    {count : Int}
    {label : String}
    (announces : Announces setup.passes count label)
    (short : ShortWidths setup.widths) :
    (∀ index, Readable setup index) ∧
    (HasWordFaults setup → ∀ index, Printable setup index) ∧
    ((∀ index < count.toNat, Printable setup index) →
      ∃ report, (run setup).result = .ok report ∧
        report.passes = setup.passes ∧
        report.mismatches = (setup.faultyPasses count.toNat).length ∧
        (run setup).events =
          (setup.verdictLines label count.toNat).map .line ∧
        (run setup).output =
          String.join
            ((setup.verdictLines label count.toNat).map (· ++ "\n")) ∧
        (setup.bitFaults = [] → setup.outcomeFaults = [] →
          report.mismatches = 0)) ∧
    (∀ index < count.toNat, (∀ earlier < index, Printable setup earlier) →
      ¬Printable setup index →
        (run setup).EndsWith ((setup.mismatchLines index).map .line) .value
          Fault.tooLongToWrite.message ∧
        (run setup).output =
          String.join ((setup.mismatchLines index).map (· ++ "\n"))) := by
  have readable : ∀ index, Readable setup index := short.readable
  refine ⟨readable, ?_, ?_, ?_⟩
  · intro wordFaults index
    exact ((readable index).completes wordFaults).printable
  · intro printable
    have ran := run_of_completes announces fun index below =>
      ⟨readable index, printable index below⟩
    have printed : (run setup).events =
        (setup.verdictLines label count.toNat).map .line := by
      rw [ran]
    refine ⟨⟨setup.timings count.toNat, setup.passes,
      (setup.faultyPasses count.toNat).length⟩, ?_, rfl, rfl, printed,
      output_of_lines printed, ?_⟩
    · rw [ran]
    · intro noBitFaults noOutcomeFaults
      rw [faultyPasses_of_no_faults noBitFaults noOutcomeFaults]
      rfl
  · intro index below printable notPrintable
    have ran := run_of_not_printable announces.count_eq below
      (fun earlier before => ⟨readable earlier, printable earlier before⟩)
      (readable index) notPrintable
    have printed : (run setup).events = (setup.mismatchLines index).map .line := by
      rw [ran]
    exact ⟨⟨printed, .tooLongToWrite, by rw [ran], rfl, rfl⟩, output_of_lines printed⟩

/-- A pass over a width of one bit, which draws one. The fault that is injected into
its bits has as many digits as can be written, and the number that is read back has one
more. -/
def longFaultSetup : Setup where
  passes := .integer 1
  widths := .given [.integer 1]
  seed := 2
  clock := [⟨0⟩]
  bitFaults := [-((10 ^ Decimal.maxDigits - 1 : Nat) : Int)]

theorem longFaultSetup_not_printable : ¬Printable longFaultSetup 0 := by
  have reported : longFaultSetup.IsReported 0 := by decide +kernel
  have one : longFaultSetup.number 0 = 1 := by decide +kernel
  intro printable
  have writable := printable reported
  rw [Setup.IsWritable, one] at writable
  revert writable
  decide +kernel

theorem shortWidths_longFaultSetup : ShortWidths longFaultSetup.widths := by
  refine ⟨List.cons_ne_nil _ _, ?_⟩
  intro width member
  rw [List.mem_singleton.mp member]
  exact ⟨1, .proper 1, by decide⟩

/-- The widths are short and the number of passes is announced, yet there is no report
and nothing is printed. -/
theorem longFaultSetup_without_verdict :
    Announces longFaultSetup.passes 1 (Decimal.text 1) ∧
      ShortWidths longFaultSetup.widths ∧
      longFaultSetup.faultyPasses 1 = [0] ∧
      (run longFaultSetup).EndsWith [] .value Fault.tooLongToWrite.message ∧
      (run longFaultSetup).output = "" := by
  have announces : Announces longFaultSetup.passes 1 (Decimal.text 1) :=
    announces_word (by decide) (by decide)
  have ran := run_of_not_printable announces.count_eq (by decide : 0 < Int.toNat 1)
    (fun _ before => absurd before (Nat.not_lt_zero _))
    (shortWidths_longFaultSetup.readable 0) longFaultSetup_not_printable
  rw [ran]
  exact ⟨announces, shortWidths_longFaultSetup, by decide +kernel,
    ⟨rfl, .tooLongToWrite, rfl, rfl, rfl⟩, rfl⟩

/-- Five passes over random widths. A fault is injected into the bits of every second
pass and into the outcomes of the third. -/
def disturbedSetup : Setup where
  passes := .integer 5
  clock := [⟨0⟩]
  bitFaults := [0, 1]
  outcomeFaults := [0, 0, -1, 0, 0]

theorem run_disturbedSetup :
    Announces disturbedSetup.passes 5 (Decimal.text 5) ∧
      ShortWidths disturbedSetup.widths ∧
      (∀ index < Int.toNat 5, Printable disturbedSetup index) ∧
      ∃ report, (run disturbedSetup).result = .ok report ∧
        report.mismatches = 3 := by
  have announces : Announces disturbedSetup.passes 5 (Decimal.text 5) :=
    announces_word (by decide) (by decide)
  have short : ShortWidths disturbedSetup.widths := ⟨63, rfl, by decide⟩
  have wordFaults : HasWordFaults disturbedSetup := by decide
  obtain ⟨_, allPrintable, succeeds, _⟩ := run_verdict announces short
  have printable : ∀ index < Int.toNat 5, Printable disturbedSetup index :=
    fun index _ => allPrintable wordFaults index
  obtain ⟨report, succeeded, _, mismatches, _⟩ := succeeds printable
  refine ⟨announces, short, printable, report, succeeded, ?_⟩
  rw [mismatches]
  decide

end Benchmark
end Readout
