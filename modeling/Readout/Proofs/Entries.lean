import Readout.Proofs.Integers
import Readout.Proofs.Rows
import Readout.Proofs.Widening

/-!
# Rows of entries, and entries without a row

An entry has a row if no sample is an integer too large for a real number, if its width
denotes an integer and if it has samples. Otherwise it is faulty: its samples are looked
at first, then its width, then their number. The first faulty entry decides how a
summary fails, whatever comes after it, and without one there is a summary.
-/

namespace Readout

/-! ## Samples -/

/-- A sample is an integer beyond every real number. -/
def Sample.IsTooLarge : Sample → Prop
  | .integer number => 2 ^ 1024 - 2 ^ 970 ≤ |number|
  | _ => False

namespace Sample

/-- An integer is no real number if no binary64 number is what it is rounded to. -/
theorem realOfInteger_eq_error_iff {number : Int} {fault : Fault} :
    Widening.realOfInteger number = .error fault ↔
      (Sample.integer number).IsTooLarge ∧ fault = .realOverflow := by
  rw [IsTooLarge, ← Binary64.ofInt?_eq_none_iff]
  unfold Widening.realOfInteger
  cases Binary64.ofInt? number with
  | some real => exact ⟨nofun, nofun⟩
  | none =>
      rw [Except.error.injEq, eq_comm]
      exact (and_iff_right rfl).symm

theorem toReal_eq_error_iff {sample : Sample} {fault : Fault} :
    sample.toReal = .error fault ↔ sample.IsTooLarge ∧ fault = .realOverflow := by
  cases sample with
  | real value => exact ⟨nofun, nofun⟩
  | integer number => rw [toReal, realOfInteger_eq_error_iff]
  | flag answer =>
      have small : ¬(2 ^ 1024 - 2 ^ 970 : ℤ) ≤ |answer.toInt| := by
        cases answer <;> decide +kernel
      rw [toReal, realOfInteger_eq_error_iff]
      exact ⟨fun large => absurd large.1 small, nofun⟩
  | missing => exact ⟨nofun, nofun⟩

/-- Samples are all turned into real numbers unless one of them is too large. -/
theorem mapM_toReal_eq_error_iff {samples : List Sample} {fault : Fault} :
    samples.mapM toReal = .error fault ↔
      (∃ sample ∈ samples, sample.IsTooLarge) ∧ fault = .realOverflow := by
  have large_of_error {fault : Fault} (failed : samples.mapM toReal = .error fault) :
      (∃ sample ∈ samples, sample.IsTooLarge) ∧ fault = .realOverflow := by
    obtain ⟨before, sample, after, rfl, _, undefined⟩ := mapM_eq_error_iff.mp failed
    obtain ⟨large, rfl⟩ := toReal_eq_error_iff.mp undefined
    exact ⟨⟨sample, by simp, large⟩, rfl⟩
  constructor
  · exact large_of_error
  · rintro ⟨⟨sample, member, large⟩, rfl⟩
    cases converted : samples.mapM toReal with
    | error fault => rw [(large_of_error converted).2]
    | ok seconds =>
        obtain ⟨second, asked⟩ := exists_answer_of_mem converted member
        rw [toReal_eq_error_iff.mpr ⟨large, rfl⟩] at asked
        cases asked

theorem exists_seconds
    {samples : List Sample}
    (notLarge : ¬∃ sample ∈ samples, sample.IsTooLarge) :
    ∃ seconds, samples.mapM toReal = .ok seconds := by
  cases converted : samples.mapM toReal with
  | ok seconds => exact ⟨seconds, rfl⟩
  | error fault => exact absurd (mapM_toReal_eq_error_iff.mp converted).1 notLarge

end Sample

/-! ## Rows -/

namespace Statistics

@[simp] theorem percentile?_nil [Arithmetic α] : percentile? ([] : List α) = none := by
  simp [percentile?, ascending]

end Statistics

namespace WidthRow

/-- A row says of an entry what its width is and how many samples it has, with the mean
and the percentile of these samples as numbers of microseconds. -/
structure Summarises (row : WidthRow) (entry : Value × List Sample) : Prop where
  /-- The width is the integer that the key denotes. -/
  width : entry.1.Denotes row.width
  /-- All samples are counted. -/
  calls : row.calls = entry.2.length
  /-- Mean and percentile are those of the samples of the entry. -/
  times : ∃ seconds,
    List.Forall₂ (fun sample second => sample.toReal = .ok second) entry.2 seconds ∧
    row.mean = Statistics.mean (Statistics.microseconds seconds) ∧
    Statistics.percentile? (Statistics.microseconds seconds) = some row.percentile

/-- An entry has no row, which is an error of this kind. Samples that are too large come
before a width that is refused, and both before samples that are missing. -/
inductive Faulty (entry : Value × List Sample) : ErrorKind → Prop
  | largeSample
      (large : ∃ sample ∈ entry.2, sample.IsTooLarge) :
      Faulty entry .overflow
  | refusedWidth
      {kind : ErrorKind}
      (notLarge : ¬∃ sample ∈ entry.2, sample.IsTooLarge)
      (refused : entry.1.Refused kind) :
      Faulty entry kind
  | noSamples
      (notRefused : ¬∃ kind, entry.1.Refused kind)
      (empty : entry.2 = []) :
      Faulty entry .index

variable {entry : Value × List Sample} {row : WidthRow} {fault : Fault}

/-- The reasons exclude each other, so the kind of the error is determined. -/
theorem Faulty.unique
    {left right : ErrorKind}
    (faultyLeft : Faulty entry left)
    (faultyRight : Faulty entry right) :
    left = right := by
  cases faultyLeft with
  | largeSample large =>
      cases faultyRight with
      | largeSample => rfl
      | refusedWidth notLarge => exact absurd large notLarge
      | noSamples _ empty => simp [empty] at large
  | refusedWidth notLarge refused =>
      cases faultyRight with
      | largeSample large => exact absurd large notLarge
      | refusedWidth _ refusedRight => exact refused.unique refusedRight
      | noSamples notRefused => exact absurd ⟨_, refused⟩ notRefused
  | noSamples notRefused empty =>
      cases faultyRight with
      | largeSample large => simp [empty] at large
      | refusedWidth _ refused => exact absurd ⟨_, refused⟩ notRefused
      | noSamples => rfl

theorem ofEntry_of_large (large : ∃ sample ∈ entry.2, sample.IsTooLarge) :
    ofEntry entry = .error .realOverflow := by
  rw [ofEntry, Sample.mapM_toReal_eq_error_iff.mpr ⟨large, rfl⟩]
  rfl

theorem ofEntry_of_refused
    (notLarge : ¬∃ sample ∈ entry.2, sample.IsTooLarge)
    (unread : entry.1.toInteger = .error fault) :
    ofEntry entry = .error fault := by
  obtain ⟨seconds, converted⟩ := Sample.exists_seconds notLarge
  rw [ofEntry, converted, unread]
  rfl

section Read

variable
  {seconds : List Binary64}
  {width : Int}
  (converted : entry.2.mapM Sample.toReal = .ok seconds)
  (read : entry.1.toInteger = .ok width)

include converted read in
/-- Once samples and width are read, there is a row if there is a percentile. -/
theorem ofEntry_eq_ok_iff_of_read :
    ofEntry entry = .ok row ↔
      ∃ percentile,
        Statistics.percentile? (Statistics.microseconds seconds) = some percentile ∧
        ⟨width, seconds.length, Statistics.mean (Statistics.microseconds seconds),
          percentile⟩ = row := by
  simp only [ofEntry, converted, read, bind, Except.bind,
    Statistics.length_microseconds]
  cases Statistics.percentile? (Statistics.microseconds seconds) with
  | none => simp
  | some percentile => simp [pure, Except.pure]

include converted read in
theorem ofEntry_of_empty (empty : entry.2 = []) : ofEntry entry = .error .noSamples := by
  rw [empty] at converted
  cases converted
  simp [ofEntry, empty, read, bind, Except.bind, pure, Except.pure, Statistics.microseconds]

end Read

/-- What summarising an entry ends in, by the first thing that is wrong with it. -/
inductive Ending (entry : Value × List Sample) : Except Fault WidthRow → Prop
  | largeSample
      (large : ∃ sample ∈ entry.2, sample.IsTooLarge) :
      Ending entry (.error .realOverflow)
  | unread
      {fault : Fault}
      (notLarge : ¬∃ sample ∈ entry.2, sample.IsTooLarge)
      (failed : entry.1.toInteger = .error fault) :
      Ending entry (.error fault)
  | noSamples
      {width : Int}
      (read : entry.1.toInteger = .ok width)
      (empty : entry.2 = []) :
      Ending entry (.error .noSamples)
  | summarised
      {width : Int}
      {seconds : List Binary64}
      (converted : entry.2.mapM Sample.toReal = .ok seconds)
      (read : entry.1.toInteger = .ok width)
      (nonempty : seconds ≠ []) :
      Ending entry (.ok (ofSeconds width seconds))

theorem ending_ofEntry (entry : Value × List Sample) : Ending entry (ofEntry entry) := by
  -- The cases are split in the order of the steps: samples, width, number of samples.
  by_cases large : ∃ sample ∈ entry.2, sample.IsTooLarge
  · rw [ofEntry_of_large large]
    exact .largeSample large
  · obtain ⟨seconds, converted⟩ := Sample.exists_seconds large
    cases read : entry.1.toInteger with
    | error fault =>
        rw [ofEntry_of_refused large read]
        exact .unread large read
    | ok width =>
        by_cases empty : entry.2 = []
        · rw [ofEntry_of_empty converted read empty]
          exact .noSamples read empty
        · have nonempty : seconds ≠ [] := by
            rw [← List.length_pos_iff, ← (mapM_eq_ok_iff.mp converted).length_eq]
            exact List.length_pos_iff.mpr empty
          rw [ofEntry_of_seconds converted read nonempty]
          exact .summarised converted read nonempty

/-- The row of a width and of numbers of seconds summarises the entry of which it is
made. -/
theorem summarises_ofSeconds
    {width : Int}
    {seconds : List Binary64}
    (converted : entry.2.mapM Sample.toReal = .ok seconds)
    (read : entry.1.toInteger = .ok width)
    (nonempty : seconds ≠ []) :
    (ofSeconds width seconds).Summarises entry := by
  obtain ⟨percentile, found⟩ :=
    Statistics.exists_percentile (Statistics.microseconds_ne_nil nonempty)
  have perSample := mapM_eq_ok_iff.mp converted
  refine ⟨Value.denotes_of_toInteger read, perSample.length_eq.symm, seconds, perSample,
    rfl, ?_⟩
  rw [ofSeconds, found, Option.getD_some]

/-- The row of an entry is the one that summarises it. -/
theorem ofEntry_eq_ok_iff : ofEntry entry = .ok row ↔ row.Summarises entry := by
  constructor
  · intro ended
    have ending := ending_ofEntry entry
    rw [ended] at ending
    cases ending with
    | summarised converted read nonempty =>
        exact summarises_ofSeconds converted read nonempty
  · rintro ⟨width, calls, seconds, converted, mean, found⟩
    rw [ofEntry_eq_ok_iff_of_read (mapM_eq_ok_iff.mpr converted) width.toInteger_eq]
    refine ⟨row.percentile, found, ?_⟩
    rw [← mean, ← converted.length_eq, ← calls]

/-- An entry with a width and with samples that are not too large has a row. -/
theorem exists_row
    {width : Int}
    (notLarge : ¬∃ sample ∈ entry.2, sample.IsTooLarge)
    (read : entry.1.toInteger = .ok width)
    (nonempty : entry.2 ≠ []) :
    ∃ row, ofEntry entry = .ok row := by
  have ending := ending_ofEntry entry
  generalize ofEntry entry = result at ending ⊢
  cases ending with
  | largeSample large => exact absurd large notLarge
  | unread _ failed =>
      rw [read] at failed
      cases failed
  | noSamples _ empty => exact absurd empty nonempty
  | summarised => exact ⟨_, rfl⟩

/-- An entry with a plain width that has no row is faulty. -/
theorem faulty_of_ofEntry
    (plain : entry.1.isPlain = true)
    (failed : ofEntry entry = .error fault) :
    Faulty entry fault.kind := by
  have ending := ending_ofEntry entry
  rw [failed] at ending
  cases ending with
  | largeSample large => exact .largeSample large
  | unread notLarge failed =>
      exact .refusedWidth notLarge (Value.refused_of_toInteger plain failed)
  | noSamples read empty =>
      have denotes := Value.denotes_of_toInteger read
      exact .noSamples (fun ⟨_, refused⟩ => refused.not_denotes _ denotes) empty

/-- A faulty entry has no row. -/
theorem Faulty.ne_ok
    {kind : ErrorKind}
    (faulty : Faulty entry kind)
    (row : WidthRow) :
    ofEntry entry ≠ .ok row := by
  intro ended
  have summarises := ofEntry_eq_ok_iff.mp ended
  obtain ⟨seconds, converted, _, found⟩ := summarises.times
  cases faulty with
  | largeSample large =>
      have failed := Sample.mapM_toReal_eq_error_iff.mpr ⟨large, rfl⟩
      rw [mapM_eq_ok_iff.mpr converted] at failed
      cases failed
  | refusedWidth _ refused => exact refused.not_denotes _ summarises.width
  | noSamples _ empty =>
      rw [empty, List.forall₂_nil_left_iff] at converted
      rw [converted] at found
      exact absurd found (by simp [Statistics.microseconds])

/-- An entry is faulty for one of three reasons. -/
theorem exists_faulty_iff :
    (∃ kind, Faulty entry kind) ↔
      (∃ sample ∈ entry.2, sample.IsTooLarge) ∨ (∃ kind, entry.1.Refused kind) ∨
        entry.2 = [] := by
  constructor
  · rintro ⟨kind, large | ⟨_, refused⟩ | ⟨_, empty⟩⟩
    · exact .inl large
    · exact .inr (.inl ⟨kind, refused⟩)
    · exact .inr (.inr empty)
  · intro reasons
    by_cases large : ∃ sample ∈ entry.2, sample.IsTooLarge
    · exact ⟨_, .largeSample large⟩
    · by_cases notRefused : ∃ kind, entry.1.Refused kind
      · obtain ⟨kind, refused⟩ := notRefused
        exact ⟨kind, .refusedWidth large refused⟩
      · exact ⟨_, .noSamples notRefused ((reasons.resolve_left large).resolve_left notRefused)⟩

end WidthRow

/-! ## Summaries that fail -/

namespace WidthSummary

open WidthRow

section Entries

variable {entries : List (Value × List Sample)} {fault : Fault}

/-- A summary fails as the rows of its entries do. -/
theorem ofEntries_eq_error_iff :
    ofEntries entries = .error fault ↔ entries.mapM ofEntry = .error fault := by
  rw [ofEntries, rows]
  cases entries.mapM ofEntry with
  | error other => simp [bind, Except.bind, Except.map]
  | ok unsorted => constructor <;> intro failed <;> cases failed

/-- There is a summary exactly if every entry has a row. -/
theorem exists_table_iff :
    (∃ found, ofEntries entries = .ok found) ↔
      ∀ entry ∈ entries, ∃ row, ofEntry entry = .ok row := by
  constructor
  · rintro ⟨found, succeeded⟩ entry member
    cases ended : entries.mapM ofEntry with
    | ok unsorted => exact exists_answer_of_mem ended member
    | error fault =>
        rw [ofEntries_eq_error_iff.mpr ended] at succeeded
        cases succeeded
  · intro answered
    obtain ⟨unsorted, ended⟩ := exists_mapM_eq_ok answered
    rw [ofEntries, rows, ended]
    exact ⟨_, rfl⟩

/-- A summary fails as the first entry without a row does. -/
theorem exists_first_fault (failed : ofEntries entries = .error fault) :
    ∃ before entry after, entries = before ++ entry :: after ∧
      (∀ earlier ∈ before, ∃ row, ofEntry earlier = .ok row) ∧
      ofEntry entry = .error fault :=
  mapM_eq_error_iff.mp (ofEntries_eq_error_iff.mp failed)

/-- What comes after the first entry without a row does not matter. -/
theorem ofEntries_of_first_fault
    {before : List (Value × List Sample)}
    {entry : Value × List Sample}
    (answered : ∀ earlier ∈ before, ∃ row, ofEntry earlier = .ok row)
    (failed : ofEntry entry = .error fault)
    (later : List (Value × List Sample)) :
    ofEntries (before ++ entry :: later) = .error fault :=
  ofEntries_eq_error_iff.mpr
    (mapM_eq_error_iff.mpr ⟨before, entry, later, rfl, answered, failed⟩)

/-- There is no summary of entries one of which is faulty. -/
theorem exists_fault_of_faulty
    {entry : Value × List Sample}
    {kind : ErrorKind}
    (member : entry ∈ entries)
    (faulty : Faulty entry kind) :
    ∃ fault, ofEntries entries = .error fault := by
  cases ended : ofEntries entries with
  | error fault => exact ⟨fault, rfl⟩
  | ok found =>
      obtain ⟨row, summarised⟩ := exists_table_iff.mp ⟨found, ended⟩ entry member
      exact absurd summarised (faulty.ne_ok row)

end Entries

/-- For timings under plain widths there is no summary exactly if some entry has a
sample that is too large, or a width that is refused, or no samples. The first entry
of this sort in order decides, whatever entries come later. The kind of the error is
that of the first of the three reasons that applies to it. -/
theorem first_faulty_entry_decides
    {timings : Timings}
    (plain : ∀ key ∈ timings.keys, key.isPlain = true) :
    ((∃ fault, ofTimings timings = .error fault) ↔
      ∃ entry ∈ timings.toList,
        (∃ sample ∈ entry.2, sample.IsTooLarge) ∨ (∃ kind, entry.1.Refused kind) ∨
          entry.2 = []) ∧
    ∀ fault, ofTimings timings = .error fault →
      ∃ before entry after, timings.toList = before ++ entry :: after ∧
        (∀ earlier ∈ before, ∀ kind, ¬Faulty earlier kind) ∧
        Faulty entry fault.kind ∧
        ∀ (others : Timings) (later : List (Value × List Sample)),
          others.toList = before ++ entry :: later →
          ofTimings others = .error fault := by
  have plainEntry {entry : Value × List Sample} (member : entry ∈ timings.toList) :
      entry.1.isPlain = true :=
    plain entry.1 (List.mem_map_of_mem member)
  simp only [← exists_faulty_iff]
  refine ⟨⟨?_, ?_⟩, ?_⟩
  · rintro ⟨fault, failed⟩
    obtain ⟨before, entry, after, split, _, undefined⟩ := exists_first_fault failed
    have member : entry ∈ timings.toList := by simp [split]
    exact ⟨entry, member, _, faulty_of_ofEntry (plainEntry member) undefined⟩
  · rintro ⟨entry, member, kind, faulty⟩
    exact exists_fault_of_faulty member faulty
  · intro fault failed
    obtain ⟨before, entry, after, split, answered, undefined⟩ := exists_first_fault failed
    have member : entry ∈ timings.toList := by simp [split]
    refine ⟨before, entry, after, split, ?_,
      faulty_of_ofEntry (plainEntry member) undefined, ?_⟩
    · intro earlier earlierMember kind faulty
      obtain ⟨row, summarised⟩ := answered earlier earlierMember
      exact faulty.ne_ok row summarised
    · intro others later alike
      rw [ofTimings, alike]
      exact ofEntries_of_first_fault answered undefined later

/-- Nothing at all as a width, with a sample that is too large, and after it a text
that is no numeral, without samples. -/
def faultyTimings : Timings where
  toList := [(.nothing, [.real Binary64.one, .integer (-2 ^ 1024)]), (.text "+", [])]
  distinct := by decide

/-- The sample that is too large decides, not the width of its entry, nor what is
wrong with the second entry. -/
theorem faultyTimings_overflow :
    (∀ key ∈ faultyTimings.keys, key.isPlain = true) ∧
      ∃ fault, ofTimings faultyTimings = .error fault ∧ fault.kind = .overflow := by
  have plain : ∀ key ∈ faultyTimings.keys, key.isPlain = true := by decide
  have isTooLarge : (Sample.integer (-2 ^ 1024)).IsTooLarge := by
    change (2 ^ 1024 - 2 ^ 970 : ℤ) ≤ |-2 ^ 1024|
    decide +kernel
  have large : ∃ sample ∈ [.real Binary64.one, .integer (-2 ^ 1024)],
      Sample.IsTooLarge sample :=
    ⟨_, List.mem_cons_of_mem _ List.mem_cons_self, isTooLarge⟩
  obtain ⟨fails_iff, decides⟩ := first_faulty_entry_decides plain
  obtain ⟨fault, failed⟩ := fails_iff.mpr ⟨_, List.mem_cons_self, .inl large⟩
  obtain ⟨before, entry, after, split, sound, faulty, _⟩ := decides fault failed
  refine ⟨plain, fault, failed, ?_⟩
  cases before with
  | nil =>
      obtain rfl := (List.cons.inj split).1
      exact faulty.unique (.largeSample large)
  | cons first rest =>
      obtain rfl := (List.cons.inj split).1
      exact absurd (.largeSample large) (sound _ List.mem_cons_self .overflow)

end WidthSummary
end Readout
