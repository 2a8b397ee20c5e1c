import Readout.Proofs.Benchmark.Verdict

/-!
# What a successful benchmark has read

A round trip succeeds only for a width that leaves the sign bit of a word clear, and a
pass only if its report can be written. So a benchmark that succeeds has completed
each of its passes, wherever its widths come from, and its report is the one of the
verdict.
-/

namespace Readout
namespace Benchmark

/-- Bits that can be read leave the sign bit of a word clear. -/
theorem length_le_capacity_of_numberOfBits
    {bits : List Bool}
    {number : Int}
    (read : (Register.numberOfBits (.ofBits bits)).result = .ok number) :
    bits.length ≤ Word.capacity := by
  by_contra long
  have refused : (Register.numberOfBits (.ofBits bits)).RefusesWith .range
      ("`bits` must be less than 64, but was " ++ Decimal.text bits.length) :=
    Register.decode_of_long (Value.length_ofBits bits) (Nat.lt_of_not_le long)
  exact refused.ne_ok number read

/-- A round trip succeeds only where the width is short. -/
theorem exists_size_of_roundTrip
    {setup : Setup}
    {index number : Nat}
    {width : Value}
    {trip : RoundTrip}
    (succeeded : (roundTrip setup index width number).result = .ok trip) :
    ∃ size : Nat, width.IsInteger size ∧ size ≤ Word.capacity := by
  rw [roundTrip] at succeeded
  obtain ⟨bits, written, succeeded⟩ := Session.exists_of_bind_eq_ok succeeded
  obtain ⟨decoded, read, _⟩ := Session.exists_of_bind_eq_ok succeeded
  have isWritten :
      (Conversion.run (.bitsOfNumber (.integer number) width)).result =
        .ok (.ofBits bits) := by
    rw [Conversion.run, map_eq_pure_bind, Session.bind_of_ok _ written]
    rfl
  obtain ⟨integer, size, isNumber, isWidth, nonnegative, short, nonnegativeNumber,
    fits⟩ := (Register.exists_ok_iff _ _).mp ⟨_, isWritten⟩
  cases isNumber
  obtain ⟨length, rfl⟩ := Int.eq_ofNat_of_zero_le nonnegative
  rw [Int.toNat_natCast] at fits
  have fitsWidth : (number : Int) < 2 ^ length :=
    Int.lt_of_lt_of_le fits
      (pow_le_pow_right₀ (by decide) (Nat.min_le_left _ _))
  have fitsWord : (number : Int) < 2 ^ Word.capacity :=
    Int.lt_of_lt_of_le fits
      (pow_le_pow_right₀ (by decide) (Nat.min_le_right _ _))
  have split := Register.bitsOfNumber_of_fits (.proper number) isWidth short
    nonnegative nonnegativeNumber (Word.le_largest_iff.mpr fitsWord) fitsWidth
  rw [split] at written
  cases written
  have bounded := length_le_capacity_of_numberOfBits read
  rw [Word.length_split] at bounded
  exact ⟨length, isWidth, bounded⟩

/-- A pass succeeds only if it draws what can be read, and if its report can be
written. -/
theorem completes_of_pass
    {setup : Setup}
    {index : Nat}
    {following : State}
    (succeeded : (pass setup index (setup.stateBefore index)).result =
      .ok following) :
    Completes setup index := by
  have readable : Readable setup index := by
    rw [pass_eq_draw] at succeeded
    obtain ⟨draw, drawn, succeeded⟩ := Session.exists_of_bind_eq_ok succeeded
    obtain ⟨trip, tripped, _⟩ := Session.exists_of_bind_eq_ok succeeded
    obtain ⟨size, isWidth, short⟩ := exists_size_of_roundTrip tripped
    exact readable_of_drawAt drawn isWidth short
  refine ⟨readable, ?_⟩
  by_contra notPrintable
  rw [pass_of_not_printable readable notPrintable] at succeeded
  cases succeeded

/-- Passes succeed only if each of them completes. -/
theorem completes_of_passes
    {setup : Setup}
    {count : Nat}
    {final : State}
    (succeeded : (passes setup count 0 (State.initial setup)).result =
      .ok final) :
    ∀ index < count, Completes setup index := by
  induction count generalizing final with
  | zero => exact fun index below => absurd below (Nat.not_lt_zero index)
  | succ count inductionHypothesis =>
      rw [passes_succ, Nat.zero_add] at succeeded
      obtain ⟨state, ended, lastSucceeded⟩ :=
        Session.exists_of_bind_eq_ok succeeded
      have earlier := inductionHypothesis ended
      -- The earlier passes complete, so the last one starts from a known state.
      rw [passes_stateBefore earlier] at ended
      cases ended
      have last := completes_of_pass lastSucceeded
      intro index below
      rcases Nat.lt_succ_iff_lt_or_eq.mp below with before | rfl
      · exact earlier index before
      · exact last

/-- A benchmark that succeeds has a number of passes that can be printed, and each
of its passes completes. -/
theorem completes_of_run
    {setup : Setup}
    {report : Report}
    (succeeded : (run setup).result = .ok report) :
    ∃ count label, setup.passes.count = .ok count ∧
      countText setup.passes = .ok label ∧
      ∀ index < count.toNat, Completes setup index := by
  rw [run] at succeeded
  obtain ⟨count, counted, succeeded⟩ := Session.exists_of_bind_eq_ok succeeded
  obtain ⟨final, passed, summarised⟩ := Session.exists_of_bind_eq_ok succeeded
  rw [summarise] at summarised
  obtain ⟨label, labelled, _⟩ := Session.exists_of_bind_eq_ok summarised
  exact ⟨count, label, counted, labelled, completes_of_passes passed⟩

end Benchmark
end Readout
