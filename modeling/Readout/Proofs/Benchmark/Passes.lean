import Readout.Proofs.Benchmark.Draws
import Readout.Proofs.Decoding
import Readout.Proofs.Encoding

/-!
# What the passes of a benchmark leave behind

As long as the passes draw what can be read and their reports can be written, the
state between two passes is a function of the setup alone: the faults that have been
injected so far are the mismatches counted, and the timings are those of the passes in
order. The first three passes with a fault are reported, each in one line. Passes end
at the first report that has too many digits.
-/

namespace Readout

/-- What differs between two integers takes no more bits than they have, the sign bit
apart. -/
theorem TwosComplement.xor_bounded
    {left right : Int}
    {width : Nat}
    (leftBounded : -2 ^ width ≤ left ∧ left < 2 ^ width)
    (rightBounded : -2 ^ width ≤ right ∧ right < 2 ^ width) :
    -2 ^ width ≤ TwosComplement.xor left right ∧
      TwosComplement.xor left right < 2 ^ width := by
  have bound : ((2 ^ width : Nat) : Int) = 2 ^ width := Int.natCast_pow 2 width
  have ofNat_iff (number : Nat) :
      (-2 ^ width ≤ Int.ofNat number ∧ Int.ofNat number < 2 ^ width) ↔
        number < 2 ^ width := by
    rw [← bound, Int.ofNat_eq_natCast]
    omega
  have negSucc_iff (number : Nat) :
      (-2 ^ width ≤ Int.negSucc number ∧ Int.negSucc number < 2 ^ width) ↔
        number < 2 ^ width := by
    rw [← bound, Int.negSucc_eq]
    omega
  cases left <;> cases right <;>
    simp only [TwosComplement.xor, ofNat_iff, negSucc_iff]
      at leftBounded rightBounded ⊢ <;>
    exact Nat.xor_lt_two_pow leftBounded rightBounded

namespace Benchmark

namespace Setup

/-- Whether a fault is injected into what a pass reads back. -/
def isFaulty (setup : Setup) (index : Nat) : Bool :=
  setup.bitFault index != 0 || setup.outcomeFault index != 0

/-- The passes below an index into which a fault is injected, in order. -/
def faultyPasses (setup : Setup) (count : Nat) : List Nat :=
  (List.range count).filter setup.isFaulty

/-- What comes back in a pass. -/
def trip (setup : Setup) (index : Nat) : RoundTrip where
  size := setup.size index
  number := setup.number index
  decoded := TwosComplement.xor (setup.number index) (setup.bitFault index)
  measured := TwosComplement.xor (setup.number index) (setup.outcomeFault index)

/-- The line that reports what a pass reads back. -/
def mismatchLine (setup : Setup) (index : Nat) : String :=
  "Round-trip mismatch at width " ++ Decimal.text (setup.size index) ++
    ": expected " ++ Decimal.text (setup.number index) ++ ", got " ++
    Decimal.text
      (TwosComplement.xor (setup.number index) (setup.bitFault index)) ++
    " (bits) / " ++
    Decimal.text
      (TwosComplement.xor (setup.number index) (setup.outcomeFault index)) ++
    " (results)"

/-- The lines that report the passes below an index: one for each of the first
three with a fault. -/
def mismatchLines (setup : Setup) (count : Nat) : List String :=
  ((setup.faultyPasses count).take 3).map setup.mismatchLine

/-- A pass is reported if it is one of the first three with a fault. -/
def IsReported (setup : Setup) (index : Nat) : Prop :=
  setup.isFaulty index = true ∧ (setup.faultyPasses index).length < 3

instance (setup : Setup) (index : Nat) : Decidable (setup.IsReported index) :=
  inferInstanceAs (Decidable (_ ∧ _))

/-- The numbers that a pass reads back do not have too many digits. -/
def IsWritable (setup : Setup) (index : Nat) : Prop :=
  (TwosComplement.xor (setup.number index) (setup.bitFault index)).natAbs <
      10 ^ Decimal.maxDigits ∧
    (TwosComplement.xor (setup.number index) (setup.outcomeFault index)).natAbs <
      10 ^ Decimal.maxDigits

/-- The timings of the passes below an index. -/
def timings (setup : Setup) : Nat → Timings
  | 0 => Ledger.empty
  | index + 1 =>
      enter (setup.size index) (elapsed setup index) (setup.timings index)

/-- The state before the pass with a given index. -/
def stateBefore (setup : Setup) (index : Nat) : State where
  generator := setup.source index
  patience := maxReports - (setup.faultyPasses index).length
  mismatches := (setup.faultyPasses index).length
  timings := setup.timings index

theorem faultyPasses_succ (setup : Setup) (index : Nat) :
    setup.faultyPasses (index + 1) =
      setup.faultyPasses index ++ if setup.isFaulty index then [index] else [] := by
  rw [faultyPasses, List.range_succ, List.filter_append, List.filter_singleton]
  cases setup.isFaulty index <;> rfl

end Setup

/-- What a pass reports, if it is reported, can be written. -/
def Printable (setup : Setup) (index : Nat) : Prop :=
  setup.IsReported index → setup.IsWritable index

/-- A pass draws what can be read, and its report can be written. -/
structure Completes (setup : Setup) (index : Nat) : Prop where
  /-- It draws what can be read. -/
  readable : Readable setup index
  /-- Its report can be written. -/
  printable : Printable setup index

/-! ## One round trip -/

/-- A number that fits into a readable width comes back in both ways. -/
theorem roundTrip_of_fits
    {width : Value}
    {size number : Nat}
    (setup : Setup)
    (index : Nat)
    (isWidth : width.IsInteger size)
    (short : size ≤ Word.capacity)
    (fits : number < 2 ^ size) :
    roundTrip setup index width number = pure
      { size
        number
        decoded := TwosComplement.xor number (setup.bitFault index)
        measured := TwosComplement.xor number (setup.outcomeFault index) } := by
  have written :=
    Register.bitsOfNumber_of_short (.proper number) isWidth short fits
  have sized : (Word.split (number : Int) size).1.length = size :=
    Word.length_split _ _
  have bitsShort :
      (Word.split (number : Int) size).1.length ≤ Word.capacity :=
    sized.trans_le short
  have registerSized :
      registerSize width (Word.split (number : Int) size).1 = .ok size := by
    rw [registerSize, sized, Value.integer?_eq_some_iff.mpr isWidth, if_pos rfl]
  rw [roundTrip, written, pure_bind, Register.numberOfBits_ofBits bitsShort,
    pure_bind, Elementwise.outcomes_ofBits, Session.ofExcept_ok, pure_bind,
    Register.numberOfOutcomes_ofOutcomes bitsShort, pure_bind, registerSized,
    Session.ofExcept_ok, pure_bind,
    Word.value_split (Word.cast_le_largest short fits) fits]

/-- A number comes back changed exactly if a fault is injected. -/
theorem isMismatch_trip (setup : Setup) (index : Nat) :
    (setup.trip index).isMismatch = setup.isFaulty index := by
  have changed (mask : Int) :
      (TwosComplement.xor (setup.number index) mask != setup.number index) =
        (mask != 0) := by
    rw [Bool.eq_iff_iff, bne_iff_ne, bne_iff_ne, ne_eq, ne_eq,
      TwosComplement.xor_eq_self_iff]
  exact congrArg₂ or (changed _) (changed _)

/-! ## Reports -/

/-- The report of a pass that can be written is its line. -/
theorem report?_trip
    {setup : Setup}
    {index : Nat}
    (readable : Readable setup index)
    (writable : setup.IsWritable index) :
    (setup.trip index).report? = some (setup.mismatchLine index) := by
  obtain ⟨_, _, _, short, fits⟩ := readable.exists_drawAt
  have size : Decimal.isSpeakable (setup.size index) = true :=
    Decimal.isSpeakable_of_le_capacity short
  have number : Decimal.isSpeakable (setup.number index) = true :=
    Decimal.isSpeakable_of_le_largest (Int.natCast_nonneg _)
      (Word.cast_le_largest short fits)
  have decoded := Decimal.isSpeakable_iff.mpr writable.1
  have measured := Decimal.isSpeakable_iff.mpr writable.2
  simp only [RoundTrip.report?, Setup.trip, Decimal.text?_of_isSpeakable size,
    Decimal.text?_of_isSpeakable number, Decimal.text?_of_isSpeakable decoded,
    Decimal.text?_of_isSpeakable measured]
  rfl

/-- A text made with a numeral is there only if the number can be written. -/
theorem exists_of_text?_bind
    {number : Int}
    {rest : String → Option String}
    {text : String}
    (made : (Decimal.text? number >>= rest) = some text) :
    number.natAbs < 10 ^ Decimal.maxDigits ∧
      ∃ numeral, rest numeral = some text := by
  obtain ⟨numeral, written, made⟩ := Option.bind_eq_some_iff.mp made
  refine ⟨Decimal.isSpeakable_iff.mp ?_, numeral, made⟩
  by_contra unspeakable
  rw [Decimal.text?_of_not_isSpeakable (Bool.eq_false_iff.mpr unspeakable)] at written
  cases written

/-- A number with too many digits leaves nothing of a report. -/
theorem report?_trip_of_not_writable
    {setup : Setup}
    {index : Nat}
    (notWritable : ¬setup.IsWritable index) :
    (setup.trip index).report? = none := by
  rw [Option.eq_none_iff_forall_ne_some]
  intro report made
  obtain ⟨_, _, made⟩ := exists_of_text?_bind made
  obtain ⟨_, _, made⟩ := exists_of_text?_bind made
  obtain ⟨decoded, _, made⟩ := exists_of_text?_bind made
  obtain ⟨measured, _⟩ := exists_of_text?_bind made
  exact notWritable ⟨decoded, measured⟩

/-- Every mask of a setup fits into a word. -/
def HasWordFaults (setup : Setup) : Prop :=
  ∀ mask ∈ setup.bitFaults ++ setup.outcomeFaults,
    -2 ^ Word.capacity ≤ mask ∧ mask < 2 ^ Word.capacity

instance (setup : Setup) : Decidable (HasWordFaults setup) :=
  List.decidableBAll _ _

/-- A number that is changed by a mask of a word can be written. -/
theorem natAbs_xor_lt
    {number : Nat}
    {mask : Int}
    (fits : number < 2 ^ Word.capacity)
    (masked : -2 ^ Word.capacity ≤ mask ∧ mask < 2 ^ Word.capacity) :
    (TwosComplement.xor number mask).natAbs < 10 ^ Decimal.maxDigits := by
  have numberBounded : -2 ^ Word.capacity ≤ (number : Int) ∧
      (number : Int) < 2 ^ Word.capacity := by
    rw [Word.capacity] at fits ⊢
    omega
  obtain ⟨lower, upper⟩ := TwosComplement.xor_bounded numberBounded masked
  have fewer := Decimal.two_pow_capacity_lt
  rw [Word.capacity] at lower upper fewer
  exact Nat.lt_of_le_of_lt (by omega) fewer

/-- With masks of words, every pass that can be read completes. -/
theorem Readable.completes
    {setup : Setup}
    {index : Nat}
    (readable : Readable setup index)
    (wordFaults : HasWordFaults setup) :
    Completes setup index := by
  obtain ⟨_, _, _, short, fits⟩ := readable.exists_drawAt
  have numberFits : setup.number index < 2 ^ Word.capacity :=
    Nat.lt_of_lt_of_le fits (Nat.pow_le_pow_right (by decide) short)
  have isWord {masks : List Int}
      (masked : ∀ mask ∈ masks, mask ∈ setup.bitFaults ++ setup.outcomeFaults) :
      -2 ^ Word.capacity ≤ cyclic 0 masks index ∧
        cyclic 0 masks index < 2 ^ Word.capacity := by
    by_cases none : masks = []
    · have zero : -2 ^ Word.capacity ≤ (0 : Int) ∧ (0 : Int) < 2 ^ Word.capacity := by
        decide
      rw [none]
      exact zero
    · exact wordFaults _ (masked _ (cyclic_mem 0 none index))
  exact ⟨readable, fun _ =>
    ⟨natAbs_xor_lt numberFits (isWord fun _ => List.mem_append_left _),
      natAbs_xor_lt numberFits (isWord fun _ => List.mem_append_right _)⟩⟩

/-! ## One pass -/

theorem pass_eq_draw (setup : Setup) (index : Nat) (state : State) :
    pass setup index state = (do
      let draw ← Session.ofExcept (setup.draw index state.generator)
      let trip ← roundTrip setup index draw.width draw.number
      record trip (elapsed setup index) draw.generator state) := by
  unfold pass Setup.draw
  simp only [Session.ofExcept_bind, Session.ofExcept_pure, bind_assoc, pure_bind]

theorem record_of_match
    {trip : RoundTrip}
    (time : Binary64)
    (generator : Generator)
    (state : State)
    (unchanged : trip.isMismatch = false) :
    record trip time generator state = pure
      { state with
        generator
        timings := enter trip.size time state.timings } := by
  rw [record, unchanged]
  rfl

theorem record_of_impatient
    {trip : RoundTrip}
    {state : State}
    (time : Binary64)
    (generator : Generator)
    (changed : trip.isMismatch = true)
    (impatient : state.patience = 0) :
    record trip time generator state = pure
      { state with
        generator
        timings := enter trip.size time state.timings
        mismatches := state.mismatches + 1 } := by
  simp only [record, changed, Bool.not_true, Bool.false_eq_true, if_false, impatient,
    if_true]

theorem record_of_reported
    {trip : RoundTrip}
    {state : State}
    {report : String}
    (time : Binary64)
    (generator : Generator)
    (changed : trip.isMismatch = true)
    (patient : state.patience ≠ 0)
    (written : trip.report? = some report) :
    record trip time generator state =
      ⟨[.line report], .ok
        { generator
          timings := enter trip.size time state.timings
          patience := state.patience - 1
          mismatches := state.mismatches + 1 }⟩ := by
  simp only [record, changed, Bool.not_true, Bool.false_eq_true, if_false, patient,
    written]
  rfl

theorem record_of_unwritten
    {trip : RoundTrip}
    {state : State}
    (time : Binary64)
    (generator : Generator)
    (changed : trip.isMismatch = true)
    (patient : state.patience ≠ 0)
    (unwritten : trip.report? = none) :
    record trip time generator state = Session.fail .tooLongToWrite := by
  simp only [record, changed, Bool.not_true, Bool.false_eq_true, if_false, patient,
    unwritten]

/-! ## What a pass prints -/

/-- The line of a pass that is reported. -/
def Setup.passLines (setup : Setup) (index : Nat) : List String :=
  if setup.IsReported index then [setup.mismatchLine index] else []

/-- The lines of the passes below an index grow by those of the pass. -/
theorem mismatchLines_succ (setup : Setup) (index : Nat) :
    setup.mismatchLines (index + 1) =
      setup.mismatchLines index ++ setup.passLines index := by
  rw [Setup.mismatchLines, Setup.faultyPasses_succ, List.take_append, List.map_append,
    Setup.passLines]
  congr 1
  by_cases faulty : setup.isFaulty index = true
  · rw [if_pos faulty]
    by_cases patient : (setup.faultyPasses index).length < 3
    · have enough : [index].length ≤ 3 - (setup.faultyPasses index).length :=
        Nat.sub_pos_of_lt patient
      rw [if_pos ⟨faulty, patient⟩, List.take_of_length_le enough]
      rfl
    · have none : 3 - (setup.faultyPasses index).length = 0 :=
        Nat.sub_eq_zero_of_le (Nat.le_of_not_lt patient)
      rw [if_neg fun reported => patient reported.2, none]
      rfl
  · rw [if_neg faulty, if_neg fun reported => faulty reported.1, List.take_nil]
    rfl

theorem length_faultyPasses_succ (setup : Setup) (index : Nat) :
    (setup.faultyPasses (index + 1)).length =
      (setup.faultyPasses index).length +
        if setup.isFaulty index then 1 else 0 := by
  rw [setup.faultyPasses_succ, List.length_append]
  cases setup.isFaulty index <;> rfl

section Pass

variable {setup : Setup} {index : Nat}

/-- There is patience for a pass that is reported. -/
theorem Setup.IsReported.patience_ne_zero (reported : setup.IsReported index) :
    (setup.stateBefore index).patience ≠ 0 :=
  Nat.sub_ne_zero_of_lt reported.2

/-- Counting a round trip moves on to the state before the next pass. -/
theorem record_stateBefore (completes : Completes setup index) :
    record (setup.trip index) (elapsed setup index) (setup.source (index + 1))
        (setup.stateBefore index) =
      ⟨(setup.passLines index).map .line,
        .ok (setup.stateBefore (index + 1))⟩ := by
  have mismatch := isMismatch_trip setup index
  have counted := length_faultyPasses_succ setup index
  cases faulty : setup.isFaulty index with
  | false =>
      have notReported : ¬setup.IsReported index := fun reported =>
        Bool.false_ne_true (faulty.symm.trans reported.1)
      rw [faulty] at mismatch
      rw [faulty, if_neg Bool.false_ne_true, Nat.add_zero] at counted
      rw [record_of_match _ _ _ mismatch, Setup.passLines, if_neg notReported]
      unfold Setup.stateBefore
      rw [counted]
      rfl
  | true =>
      rw [faulty] at mismatch
      rw [faulty, if_pos rfl] at counted
      by_cases patient : (setup.faultyPasses index).length < 3
      · have reported : setup.IsReported index := ⟨faulty, patient⟩
        have written :=
          report?_trip completes.readable (completes.printable reported)
        rw [record_of_reported _ _ mismatch reported.patience_ne_zero written,
          Setup.passLines, if_pos reported]
        unfold Setup.stateBefore
        rw [counted, ← Nat.sub_sub]
        rfl
      · have used : maxReports ≤ (setup.faultyPasses index).length :=
          Nat.le_of_not_lt patient
        have none : (setup.stateBefore index).patience = 0 :=
          Nat.sub_eq_zero_of_le used
        rw [record_of_impatient _ _ mismatch none, Setup.passLines,
          if_neg fun reported => patient reported.2]
        unfold Setup.stateBefore
        rw [counted, Nat.sub_eq_zero_of_le used,
          Nat.sub_eq_zero_of_le (Nat.le_succ_of_le used)]
        rfl

/-- A pass that draws what can be read counts its round trip. -/
theorem pass_of_readable (readable : Readable setup index) :
    pass setup index (setup.stateBefore index) =
      record (setup.trip index) (elapsed setup index) (setup.source (index + 1))
        (setup.stateBefore index) := by
  obtain ⟨width, drawn, isWidth, short, fits⟩ := readable.exists_drawAt
  have drawnNow : setup.draw index (setup.stateBefore index).generator =
      .ok ⟨width, setup.number index, setup.source (index + 1)⟩ := drawn
  rw [pass_eq_draw, drawnNow, Session.ofExcept_ok, pure_bind,
    roundTrip_of_fits setup index isWidth short fits, pure_bind]
  rfl

/-- A pass that completes moves on to the state before the next. -/
theorem pass_stateBefore (completes : Completes setup index) :
    pass setup index (setup.stateBefore index) =
      ⟨(setup.passLines index).map .line,
        .ok (setup.stateBefore (index + 1))⟩ :=
  (pass_of_readable completes.readable).trans (record_stateBefore completes)

/-- A pass whose report cannot be written fails, and prints nothing. -/
theorem pass_of_not_printable
    (readable : Readable setup index)
    (notPrintable : ¬Printable setup index) :
    pass setup index (setup.stateBefore index) = Session.fail .tooLongToWrite := by
  obtain ⟨reported, notWritable⟩ := Classical.not_imp.mp notPrintable
  have mismatch : (setup.trip index).isMismatch = true :=
    (isMismatch_trip setup index).trans reported.1
  rw [pass_of_readable readable, record_of_unwritten _ _ mismatch
    reported.patience_ne_zero (report?_trip_of_not_writable notWritable)]

end Pass

/-! ## All passes -/

/-- Passes can be split into earlier and later ones. -/
theorem passes_add
    (setup : Setup)
    (earlier later index : Nat)
    (state : State) :
    passes setup (earlier + later) index state =
      passes setup earlier index state >>= passes setup later (index + earlier) := by
  induction earlier generalizing index state with
  | zero => rw [Nat.zero_add, Nat.add_zero, passes, pure_bind]
  | succ earlier inductionHypothesis =>
      have first (remaining : Nat) :
          passes setup (remaining + 1) index state =
            pass setup index state >>= passes setup remaining (index + 1) := rfl
      rw [Nat.succ_add, first, first, bind_assoc]
      congr 1
      funext following
      rw [inductionHypothesis, Nat.succ_add, ← Nat.add_succ]

/-- The last of several passes can be split off. -/
theorem passes_succ
    (setup : Setup)
    (count index : Nat)
    (state : State) :
    passes setup (count + 1) index state =
      passes setup count index state >>= pass setup (index + count) := by
  have single : passes setup 1 (index + count) = pass setup (index + count) := by
    funext following
    exact bind_pure _
  rw [passes_add, single]

/-- Passes that complete print their reports and lead to the state before the next
pass. -/
theorem passes_stateBefore
    {setup : Setup}
    {count : Nat}
    (completes : ∀ index < count, Completes setup index) :
    passes setup count 0 (State.initial setup) =
      ⟨(setup.mismatchLines count).map .line, .ok (setup.stateBefore count)⟩ := by
  induction count with
  | zero => rfl
  | succ count inductionHypothesis =>
      have earlier := inductionHypothesis fun index below =>
        completes index (Nat.lt_succ_of_lt below)
      rw [passes_succ, earlier, Session.bind_of_ok _ rfl, Nat.zero_add,
        pass_stateBefore (completes count (Nat.lt_succ_self count)),
        mismatchLines_succ, List.map_append]

/-- Passes end as the first one that fails, after the reports of the ones before. -/
theorem passes_of_failed
    {setup : Setup}
    {index count : Nat}
    {events : List Event}
    {fault : Fault}
    (below : index < count)
    (completes : ∀ earlier < index, Completes setup earlier)
    (failed : pass setup index (setup.stateBefore index) = ⟨events, .error fault⟩) :
    passes setup count 0 (State.initial setup) =
      ⟨(setup.mismatchLines index).map .line ++ events, .error fault⟩ := by
  obtain ⟨later, rfl⟩ := Nat.exists_eq_add_of_lt below
  have rest : passes setup (later + 1) (0 + index) (setup.stateBefore index) =
      ⟨events, .error fault⟩ := by
    rw [Nat.zero_add, passes, failed]
    rfl
  rw [Nat.add_assoc, passes_add, passes_stateBefore completes,
    Session.bind_of_ok _ rfl, rest]

end Benchmark
end Readout
