import Readout.Proofs.Benchmark.Failures
import Readout.Proofs.Rejection

/-!
# Benchmarks over random widths end

A random width is drawn by a loop that rejects numbers until one is small enough.
The loop ends from every state of the random source, so every pass gets a width,
and a benchmark over widths that can be read gets through all of its passes, or ends
at a report or a number of passes that has too many digits.
-/

namespace Readout
namespace Benchmark

/-- The draws of a pass end: from the state before the pass, the rejection loop
finds a width up to a largest one, and from there the pass draws a number that
fits into the width. -/
def DrawsEnd (setup : Setup) (maximum index : Nat) : Prop :=
  ∃ rejections rest, rejections < Generator.period ∧
    Generator.Finds (maximum + 1) (Bits.size (maximum + 1)) rejections
      (setup.source index) (setup.size index, rest) ∧
    setup.size index ≤ maximum ∧
    rest.bits (setup.size index) =
      (setup.number index, setup.source (index + 1)) ∧
    setup.number index < 2 ^ setup.size index

/-- What counts is an integer or a truth value. -/
theorem isInteger_or_flag_of_count
    {value : Value}
    {count : Int}
    (counted : value.count = .ok count) :
    value.IsInteger count ∨ ∃ flag, value = .flag flag := by
  cases value with
  | flag flag => exact .inr ⟨flag, rfl⟩
  | integer number =>
      cases counted
      exact .inl (.proper _)
  | scalar scalar =>
      cases scalar with
      | integer format number =>
          cases counted
          exact .inl (.fixedSize format _)
      | _ => cases counted
  | _ => cases counted

/-- A number of passes is printed unless it has too many digits. -/
theorem countText_of_count
    {passes : Value}
    {count : Int}
    (counted : passes.count = .ok count) :
    (∃ label, countText passes = .ok label) ∨
      10 ^ Decimal.maxDigits ≤ count.natAbs ∧
        countText passes = .error .tooLongToWrite := by
  rcases isInteger_or_flag_of_count counted with isCount | ⟨flag, rfl⟩
  · rw [countText_of_isInteger isCount]
    cases speakable : Decimal.isSpeakable count with
    | true =>
        rw [Decimal.text?_of_isSpeakable speakable]
        exact .inl ⟨_, rfl⟩
    | false =>
        rw [Decimal.text?_of_not_isSpeakable speakable]
        exact .inr ⟨Decimal.isSpeakable_eq_false_iff.mp speakable, rfl⟩
  · cases flag <;> exact .inl ⟨_, rfl⟩

section Drawn

variable {largest : Value} {maximum : Nat}

/-- From every state, the rejection loop ends in the width that is taken. -/
theorem exists_finds_width
    (following : largest.successor = .ok (maximum + 1))
    (moderate : maximum ≤ 2 ^ 32 - 2)
    (generator : Generator) :
    ∃ rejections size rest, rejections < Generator.period ∧
      Generator.Finds (maximum + 1) (Bits.size (maximum + 1)) rejections generator
        (size, rest) ∧
      size ≤ maximum ∧
      ∀ index, (WidthSource.drawn largest).width generator index =
        .ok (.integer size, rest) := by
  have positive : 0 < maximum + 1 := Nat.succ_pos maximum
  obtain ⟨rejections, ⟨size, rest⟩, few, finds, sought⟩ :=
    Generator.exists_finds positive (by omega) generator
  exact ⟨rejections, size, rest, few, finds, Nat.le_of_lt_succ finds.lt,
    fun index => width_drawn index following (by omega) sought⟩

/-- The draws of every pass end. -/
theorem drawsEnd
    {setup : Setup}
    (following : largest.successor = .ok (maximum + 1))
    (moderate : maximum ≤ 2 ^ 32 - 2)
    (drawn : setup.widths = .drawn largest)
    (index : Nat) :
    DrawsEnd setup maximum index := by
  obtain ⟨rejections, size, rest, few, finds, small, taken⟩ :=
    exists_finds_width following moderate (setup.source index)
  have isWidth : (Value.integer size).IsInteger size := .proper size
  have drawnAt : setup.drawAt index =
      .ok ⟨.integer size, (rest.bits size).1, (rest.bits size).2⟩ := by
    apply drawAt_of_width _ isWidth
    rw [drawn]
    exact taken index
  have sizeKnown : setup.size index = size := size_of_drawAt drawnAt isWidth
  rw [DrawsEnd, sizeKnown, number_of_drawAt drawnAt,
    source_succ_of_drawAt drawnAt]
  exact ⟨rejections, rest, few, finds, small, rfl, Generator.bits_lt size rest⟩

/-- A benchmark over random widths that can be read ends in a report, unless the number
of its passes or a report of one of them cannot be printed. -/
theorem result_of_drawn
    {setup : Setup}
    {count : Int}
    (following : largest.successor = .ok (maximum + 1))
    (readable : maximum ≤ 63)
    (drawn : setup.widths = .drawn largest)
    (counted : setup.passes.count = .ok count) :
    ((∀ index < count.toNat, Printable setup index) →
      (passes setup count.toNat 0 (State.initial setup)).result =
          .ok (setup.stateBefore count.toNat) ∧
        ((∃ report, (run setup).result = .ok report) ∨
          10 ^ Decimal.maxDigits ≤ count.natAbs ∧
            (run setup).result = .error .tooLongToWrite)) ∧
    ((∃ index < count.toNat, ¬Printable setup index) →
      (run setup).result = .error .tooLongToWrite) := by
  have short : ShortWidths setup.widths := by
    rw [drawn]
    exact ⟨maximum, following, readable⟩
  constructor
  · intro printable
    have completes : ∀ index < count.toNat, Completes setup index :=
      fun index below => ⟨short.readable index, printable index below⟩
    have passed := congrArg Session.result (passes_stateBefore completes)
    refine ⟨passed, ?_⟩
    rcases countText_of_count counted with ⟨label, labelled⟩ | ⟨long, refused⟩
    · rw [run_of_counted counted labelled completes]
      exact .inl ⟨_, rfl⟩
    · right
      refine ⟨long, ?_⟩
      rw [run, counted, Session.ofExcept_ok, pure_bind,
        Session.bind_of_ok _ passed, summarise, refused]
      rfl
  · intro unprintable
    -- The first report that cannot be written ends the benchmark.
    classical
    obtain ⟨below, notPrintable⟩ := Nat.find_spec unprintable
    have completes : ∀ earlier < Nat.find unprintable, Completes setup earlier := by
      intro earlier before
      refine ⟨short.readable earlier, ?_⟩
      by_contra alsoNotPrintable
      exact Nat.find_min unprintable before
        ⟨Nat.lt_trans before below, alsoNotPrintable⟩
    rw [run_of_not_printable counted below completes (short.readable _) notPrintable]

/-- A random width up to a largest one below `2 ^ 32 - 1` is found from every state
of the random source, within a period of draws, and every number drawn fits into
its width. So a benchmark over random widths that can be read ends, whatever its
seed and its number of passes: the draws of each pass end, and it gets through all
of its passes or ends at the first report that has too many digits. -/
theorem random_widths_terminate
    (following : largest.successor = .ok (maximum + 1))
    (moderate : maximum ≤ 2 ^ 32 - 2) :
    (∀ generator : Generator,
      ∃ rejections size rest, rejections < Generator.period ∧
        Generator.Finds (maximum + 1) (Bits.size (maximum + 1)) rejections
          generator (size, rest) ∧
        size ≤ maximum ∧
        ∀ index, (WidthSource.drawn largest).width generator index =
          .ok (.integer size, rest)) ∧
    (∀ (generator : Generator) (width : Value) (size : Nat),
      width.IsInteger size → 0 < size →
        drawNumber width generator = .ok (generator.bits size) ∧
        (generator.bits size).1 < 2 ^ size ∧
        (generator.bits size).2 = Generator.next^[(size + 31) / 32] generator) ∧
    (maximum ≤ 63 →
      ∀ (setup : Setup) (count : Int),
        setup.widths = .drawn largest → setup.passes.count = .ok count →
          (∀ index, DrawsEnd setup maximum index) ∧
          ((∀ index < count.toNat, Printable setup index) →
            (passes setup count.toNat 0 (State.initial setup)).result =
                .ok (setup.stateBefore count.toNat) ∧
              ((∃ report, (run setup).result = .ok report) ∨
                10 ^ Decimal.maxDigits ≤ count.natAbs ∧
                  (run setup).result = .error .tooLongToWrite)) ∧
          ((∃ index < count.toNat, ¬Printable setup index) →
            (run setup).result = .error .tooLongToWrite)) := by
  refine ⟨exists_finds_width following moderate, ?_, ?_⟩
  · intro generator width size isWidth _
    exact ⟨drawNumber_of_isInteger isWidth generator,
      Generator.bits_lt size generator, Generator.bits_snd size generator⟩
  · intro readable setup count drawn counted
    exact ⟨drawsEnd following moderate drawn,
      result_of_drawn following readable drawn counted⟩

end Drawn

/-- Nine passes over random widths of up to forty bits. Of the numbers of six bits,
those from forty-one on are rejected. -/
def cappedSetup : Setup where
  passes := .integer 9
  widths := .drawn (.integer 40)
  seed := -1
  clock := [⟨0⟩]

theorem cappedSetup_ends :
    (Value.integer 40).successor = .ok ((40 : Nat) + 1) ∧
      cappedSetup.widths = .drawn (.integer 40) ∧
      cappedSetup.passes.count = .ok 9 ∧
      (∀ index, DrawsEnd cappedSetup 40 index) ∧
      ∃ report, (run cappedSetup).result = .ok report := by
  have following : (Value.integer 40).successor = .ok ((40 : Nat) + 1) := rfl
  have drawn : cappedSetup.widths = .drawn (.integer 40) := rfl
  have counted : cappedSetup.passes.count = .ok 9 := rfl
  obtain ⟨drawsEnd, ends, _⟩ :=
    (random_widths_terminate following (by decide)).2.2 (by decide) cappedSetup 9
      drawn counted
  have noFault : ∀ index, ¬cappedSetup.IsReported index := by
    rintro index ⟨faulty, _⟩
    cases faulty
  obtain ⟨_, reported | ⟨long, _⟩⟩ := ends fun index _ reported =>
    absurd reported (noFault index)
  · exact ⟨following, drawn, counted, drawsEnd, reported⟩
  · have short : Decimal.isSpeakable 9 = true :=
      Decimal.isSpeakable_of_le_largest (by decide) (by decide)
    exact absurd (Decimal.isSpeakable_iff.mp short) (Nat.not_lt.mpr long)

end Benchmark
end Readout
