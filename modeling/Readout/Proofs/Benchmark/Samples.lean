import Readout.Proofs.Benchmark.Success

/-!
# The samples of the timings

The timings of a benchmark that succeeds are a rearrangement of its passes: under
each width, in the order in which the widths first came up, stand the times of the
passes of that width, in order. No time is lost and none is entered twice. Faults
that are injected do not show in the timings, unless they end the benchmark.
-/

namespace Readout

namespace Ledger

variable {keys : List Nat} {key : Nat} {entry : Nat → α}

/-- A change at a known key changes the entry of that key alone. -/
theorem amend_map_of_mem
    (change : Option α → α)
    (distinct : keys.Nodup)
    (known : key ∈ keys) :
    amend (· == ·) key change (keys.map fun other => (other, entry other)) =
      keys.map fun other =>
        (other, if other = key then change (some (entry other)) else entry other) := by
  induction keys with
  | nil => cases known
  | cons other rest inductionHypothesis =>
      obtain ⟨absent, restDistinct⟩ := List.nodup_cons.mp distinct
      rw [List.map_cons, List.map_cons]
      by_cases isSame : other = key
      · have unchanged : rest.map (fun later => (later, entry later)) =
            rest.map fun later =>
              (later, if later = key then change (some (entry later))
                else entry later) := by
          apply List.map_congr_left
          intro later member
          have different : later ≠ key := by
            rintro rfl
            exact absent (isSame ▸ member)
          rw [if_neg different]
        rw [amend_cons_of_same change _ _ (beq_iff_eq.mpr isSame), if_pos isSame,
          unchanged]
      · have later : key ∈ rest :=
          (List.mem_cons.mp known).resolve_left (Ne.symm isSame)
        rw [amend_cons_of_not_same change _ _ (beq_eq_false_iff_ne.mpr isSame),
          inductionHypothesis restDistinct later, if_neg isSame]

/-- A change at a new key adds an entry. -/
theorem amend_map_of_not_mem
    (change : Option α → α)
    (isNew : key ∉ keys) :
    amend (· == ·) key change (keys.map fun other => (other, entry other)) =
      (keys.map fun other => (other, entry other)) ++ [(key, change none)] := by
  induction keys with
  | nil => rfl
  | cons other rest inductionHypothesis =>
      have different : other ≠ key := (List.ne_of_not_mem_cons isNew).symm
      have absent : key ∉ rest := List.not_mem_of_not_mem_cons isNew
      rw [List.map_cons,
        amend_cons_of_not_same change _ _ (beq_eq_false_iff_ne.mpr different),
        inductionHypothesis absent, List.cons_append]

end Ledger

namespace Benchmark

/-! ## The samples of a width -/

namespace Setup

/-- The times of the passes below an index that have some width, in order. -/
def samples (setup : Setup) (count size : Nat) : List Binary64 :=
  ((List.range count).filter fun index => setup.size index = size).map fun index =>
    setup.reading (2 * index + 1) - setup.reading (2 * index)

/-- A pass adds its time to the samples of its width. -/
theorem samples_succ (setup : Setup) (count size : Nat) :
    setup.samples (count + 1) size =
      if size = setup.size count then
        setup.samples count size ++ [elapsed setup count]
      else setup.samples count size := by
  rw [samples, List.range_succ, List.filter_append, List.map_append]
  by_cases isSize : size = setup.size count
  · rw [if_pos isSize, List.filter_singleton, isSize, decide_eq_true rfl]
    rfl
  · rw [if_neg isSize, List.filter_singleton, decide_eq_false (Ne.symm isSize)]
    exact List.append_nil _

/-- A width that has not come up has no samples. -/
theorem samples_eq_nil
    {setup : Setup}
    {count size : Nat}
    (isNew : size ∉ setup.distinctSizes count) :
    setup.samples count size = [] := by
  rw [samples, List.map_eq_nil_iff, List.filter_eq_nil_iff]
  intro index below isSize
  apply isNew
  rw [distinctSizes, List.mem_eraseDups, List.mem_map]
  exact ⟨index, below, of_decide_eq_true isSize⟩

/-- A width that has come up has samples. -/
theorem samples_ne_nil
    {setup : Setup}
    {count size : Nat}
    (known : size ∈ setup.distinctSizes count) :
    setup.samples count size ≠ [] := by
  rw [distinctSizes, List.mem_eraseDups, List.mem_map] at known
  obtain ⟨index, below, isSize⟩ := known
  rw [samples, ne_eq, List.map_eq_nil_iff, List.filter_eq_nil_iff]
  exact fun none => none index below (decide_eq_true isSize)

theorem distinctSizes_succ (setup : Setup) (count : Nat) :
    setup.distinctSizes (count + 1) =
      if setup.size count ∈ setup.distinctSizes count then
        setup.distinctSizes count
      else setup.distinctSizes count ++ [setup.size count] := by
  rw [distinctSizes, List.range_succ, List.map_append, List.map_singleton,
    eraseDups_append_singleton]
  simp only [distinctSizes, List.mem_eraseDups]

theorem nodup_distinctSizes (setup : Setup) (count : Nat) :
    (setup.distinctSizes count).Nodup := by
  induction count with
  | zero => exact List.nodup_nil
  | succ count inductionHypothesis =>
      rw [distinctSizes_succ]
      split
      · exact inductionHypothesis
      · next isNew =>
          rw [← List.concat_eq_append]
          exact inductionHypothesis.concat isNew

end Setup

/-! ## The timings as samples -/

/-- Under each width that has come up stand its samples. -/
theorem timings_eq_samples (setup : Setup) (count : Nat) :
    (setup.timings count).toList =
      (setup.distinctSizes count).map fun size =>
        (size, setup.samples count size) := by
  induction count with
  | zero => rfl
  | succ count inductionHypothesis =>
      rw [Setup.timings, enter, Ledger.toList_update, inductionHypothesis,
        Setup.distinctSizes_succ]
      by_cases known : setup.size count ∈ setup.distinctSizes count
      · rw [if_pos known,
          Ledger.amend_map_of_mem _ (setup.nodup_distinctSizes count) known]
        apply List.map_congr_left
        intro size _
        rw [Setup.samples_succ, Option.getD_some]
      · have others : (setup.distinctSizes count).map
              (fun size => (size, setup.samples (count + 1) size)) =
            (setup.distinctSizes count).map fun size =>
              (size, setup.samples count size) := by
          apply List.map_congr_left
          intro size member
          have different : size ≠ setup.size count := by
            rintro rfl
            exact known member
          rw [Setup.samples_succ, if_neg different]
        rw [if_neg known, Ledger.amend_map_of_not_mem _ known, List.map_append,
          others, List.map_singleton, Setup.samples_succ, if_pos rfl,
          Setup.samples_eq_nil known, Option.getD_none]

/-- The number of times in a list of entries. -/
def sampleCount (entries : List (Nat × List Binary64)) : Nat :=
  (entries.map fun entry => entry.2.length).sum

/-- Entering a time adds one time. -/
theorem sampleCount_amend
    (size : Nat)
    (time : Binary64)
    (entries : List (Nat × List Binary64)) :
    sampleCount
        (Ledger.amend (· == ·) size (fun times => times.getD [] ++ [time]) entries) =
      sampleCount entries + 1 := by
  induction entries with
  | nil => rfl
  | cons head rest inductionHypothesis =>
      obtain ⟨other, times⟩ := head
      cases isSame : other == size with
      | true =>
          rw [Ledger.amend_cons_of_same _ _ _ isSame, Option.getD_some]
          simp only [sampleCount, List.map_cons, List.sum_cons, List.length_append,
            List.length_singleton]
          omega
      | false =>
          rw [Ledger.amend_cons_of_not_same _ _ _ isSame]
          simp only [sampleCount, List.map_cons, List.sum_cons] at inductionHypothesis ⊢
          rw [inductionHypothesis, Nat.add_assoc]

/-- There are as many times as passes. -/
theorem sampleCount_timings (setup : Setup) (count : Nat) :
    sampleCount (setup.timings count).toList = count := by
  induction count with
  | zero => rfl
  | succ count inductionHypothesis =>
      rw [Setup.timings, enter, Ledger.toList_update, sampleCount_amend,
        inductionHypothesis]

/-! ## Setups that differ in their faults -/

section Faults

variable {left right : Setup}

/-- The random source depends on the widths and the seed alone. -/
theorem source_congr
    (sameWidths : left.widths = right.widths)
    (sameSeed : left.seed = right.seed)
    (index : Nat) :
    left.source index = right.source index := by
  induction index with
  | zero => rw [Setup.source, Setup.source, sameSeed]
  | succ index inductionHypothesis =>
      rw [Setup.source, Setup.source, Setup.draw, Setup.draw, sameWidths,
        inductionHypothesis]

theorem drawAt_congr
    (sameWidths : left.widths = right.widths)
    (sameSeed : left.seed = right.seed)
    (index : Nat) :
    left.drawAt index = right.drawAt index := by
  rw [Setup.drawAt, Setup.drawAt, Setup.draw, Setup.draw, sameWidths,
    source_congr sameWidths sameSeed]

theorem size_congr
    (sameWidths : left.widths = right.widths)
    (sameSeed : left.seed = right.seed)
    (index : Nat) :
    left.size index = right.size index := by
  rw [Setup.size, Setup.size, drawAt_congr sameWidths sameSeed]

/-- Whether a pass draws what can be read depends on the widths and the seed
alone. -/
theorem readable_congr
    {index : Nat}
    (sameWidths : left.widths = right.widths)
    (sameSeed : left.seed = right.seed)
    (readable : Readable left index) :
    Readable right index := by
  obtain ⟨width, drawn, isWidth, short, _⟩ := readable.exists_drawAt
  rw [drawAt_congr sameWidths sameSeed] at drawn
  rw [size_congr sameWidths sameSeed] at isWidth short
  exact readable_of_drawAt drawn isWidth short

/-- The timings depend on the widths, the seed and the clock alone. -/
theorem timings_congr
    (sameWidths : left.widths = right.widths)
    (sameSeed : left.seed = right.seed)
    (sameClock : left.clock = right.clock)
    (count : Nat) :
    left.timings count = right.timings count := by
  have sameTime (index : Nat) : elapsed left index = elapsed right index := by
    rw [elapsed, elapsed, Setup.reading, Setup.reading, Setup.reading,
      Setup.reading, sameClock]
  induction count with
  | zero => rfl
  | succ count inductionHypothesis =>
      rw [Setup.timings, Setup.timings, inductionHypothesis, sameTime,
        size_congr sameWidths sameSeed]

/-- A benchmark with the same number of passes, widths, seed and clock as one that
succeeds succeeds too exactly if its reports can be written, and then with the same
timings. -/
theorem result_congr
    {report : Report}
    {count : Int}
    (samePasses : left.passes = right.passes)
    (sameWidths : left.widths = right.widths)
    (sameSeed : left.seed = right.seed)
    (sameClock : left.clock = right.clock)
    (succeeded : (run left).result = .ok report)
    (counted : left.passes.count = .ok count) :
    ((∃ other, (run right).result = .ok other) ↔
      ∀ index < count.toNat, Printable right index) ∧
    ∀ other, (run right).result = .ok other → other.timings = report.timings := by
  obtain ⟨number, label, sameCount, labelled, completes⟩ := completes_of_run succeeded
  obtain rfl : number = count := Except.ok.inj (sameCount.symm.trans counted)
  rw [run_of_counted counted labelled completes] at succeeded
  cases succeeded
  rw [samePasses] at counted labelled
  constructor
  · constructor
    · rintro ⟨other, succeeded⟩ index below
      obtain ⟨otherCount, _, otherCounted, _, otherCompletes⟩ :=
        completes_of_run succeeded
      obtain rfl : otherCount = number :=
        Except.ok.inj (otherCounted.symm.trans counted)
      exact (otherCompletes index below).printable
    · intro printable
      rw [run_of_counted counted labelled fun index below =>
        ⟨readable_congr sameWidths sameSeed (completes index below).readable,
          printable index below⟩]
      exact ⟨_, rfl⟩
  · intro other succeeded
    obtain ⟨otherCount, otherLabel, otherCounted, otherLabelled, otherCompletes⟩ :=
      completes_of_run succeeded
    obtain rfl : otherCount = number :=
      Except.ok.inj (otherCounted.symm.trans counted)
    rw [run_of_counted otherCounted otherLabelled otherCompletes] at succeeded
    cases succeeded
    exact (timings_congr sameWidths sameSeed sameClock otherCount.toNat).symm

end Faults

/-! ## Every successful benchmark -/

/-- The timings of a benchmark that succeeds hold, under the distinct widths of
its passes in the order in which they first came up, the times of the passes of
each width in order: at least one time each, and as many as passes altogether.
With other faults the benchmark succeeds too, as long as its reports can be written,
and always with the same timings. -/
theorem timings_of_success
    {setup : Setup}
    {report : Report}
    (succeeded : (run setup).result = .ok report) :
    ∃ count : Int, setup.passes.count = .ok count ∧
      (∀ index < count.toNat, Readable setup index) ∧
      report.timings.toList =
        (setup.distinctSizes count.toNat).map (fun size =>
          (size, setup.samples count.toNat size)) ∧
      (∀ entry ∈ report.timings.toList, entry.2 ≠ []) ∧
      (report.timings.map fun entry => entry.2.length).sum = count.toNat ∧
      ∀ bitFaults outcomeFaults,
        ((∃ other, (run { setup with bitFaults, outcomeFaults }).result = .ok other) ↔
          ∀ index < count.toNat,
            Printable { setup with bitFaults, outcomeFaults } index) ∧
        ∀ other, (run { setup with bitFaults, outcomeFaults }).result = .ok other →
          other.timings = report.timings := by
  obtain ⟨count, label, counted, labelled, completes⟩ := completes_of_run succeeded
  have undisturbed (bitFaults outcomeFaults : List Int) :
      ((∃ other, (run { setup with bitFaults, outcomeFaults }).result = .ok other) ↔
        ∀ index < count.toNat,
          Printable { setup with bitFaults, outcomeFaults } index) ∧
      ∀ other, (run { setup with bitFaults, outcomeFaults }).result = .ok other →
        other.timings = report.timings := by
    apply result_congr _ _ _ _ succeeded counted <;> rfl
  rw [run_of_counted counted labelled completes] at succeeded
  cases succeeded
  refine ⟨count, counted, fun index below => (completes index below).readable,
    timings_eq_samples setup count.toNat, ?_, sampleCount_timings setup count.toNat,
    undisturbed⟩
  intro entry member
  rw [timings_eq_samples, List.mem_map] at member
  obtain ⟨size, known, rfl⟩ := member
  exact Setup.samples_ne_nil known

/-- Three passes, the last of which has the width of the first in another format,
and a clock that repeats after three readings. -/
def recurringSetup : Setup where
  passes := .integer 3
  widths := .given [.integer 3, .integer 5, .scalar (.integer ⟨true, 64⟩ 3)]
  clock := [⟨0⟩, Binary64.one, ⟨0x4008000000000000⟩]

theorem timings_recurringSetup :
    ∃ report, (run recurringSetup).result = .ok report ∧
      report.timings.toList =
        [ (3, [Binary64.one - ⟨0⟩, ⟨0x4008000000000000⟩ - Binary64.one]),
          (5, [⟨0⟩ - ⟨0x4008000000000000⟩]) ] := by
  have announces : Announces recurringSetup.passes 3 (Decimal.text 3) :=
    announces_word (by decide) (by decide)
  have short : ShortWidths recurringSetup.widths := by
    refine ⟨List.cons_ne_nil _ _, ?_⟩
    intro width member
    rcases List.mem_cons.mp member with rfl | member
    · exact ⟨3, .proper 3, by decide⟩
    rcases List.mem_cons.mp member with rfl | member
    · exact ⟨5, .proper 5, by decide⟩
    rw [List.mem_singleton.mp member]
    exact ⟨3, .fixedSize _ 3, by decide⟩
  have wordFaults : HasWordFaults recurringSetup := by decide
  have ran := run_of_completes announces fun index _ =>
    (short.readable index).completes wordFaults
  have succeeded := congrArg Session.result ran
  obtain ⟨count, counted, _, timings, _⟩ := timings_of_success succeeded
  cases counted
  have sizes : recurringSetup.distinctSizes 3 = [3, 5] := by decide
  refine ⟨_, succeeded, ?_⟩
  rw [timings]
  change (recurringSetup.distinctSizes 3).map _ = _
  rw [sizes]
  rfl

end Benchmark
end Readout
