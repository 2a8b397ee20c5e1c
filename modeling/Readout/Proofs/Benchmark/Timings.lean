import Readout.Proofs.Benchmark.Passes

/-!
# The widths of the timings

A time is entered under the width of its pass. The widths of the timings are
those of the passes, each once, in the order in which they first came up.
-/

namespace Readout
namespace Benchmark

/-- Entering a time adds a width that has not come up before. -/
theorem keys_enter
    (size : Nat)
    (time : Binary64)
    (timings : Timings) :
    (enter size time timings).keys =
      if size ∈ timings.keys then timings.keys else timings.keys ++ [size] := by
  have known : (timings.keys.any (· == size) = true) = (size ∈ timings.keys) := by
    rw [List.any_beq', List.contains_iff_mem]
  rw [enter, Ledger.keys_update]
  simp only [known]

/-- A new last element adds itself to the distinct elements of a list. -/
theorem eraseDups_append_singleton
    (items : List Nat)
    (item : Nat) :
    (items ++ [item]).eraseDups =
      if item ∈ items then items.eraseDups else items.eraseDups ++ [item] := by
  rw [List.eraseDups_append, List.cons_removeAll, List.nil_removeAll]
  by_cases known : item ∈ items
  · simp [known]
  · simp [known, List.eraseDups_cons]

/-- The widths of the timings are the distinct widths of the passes. -/
theorem keys_timings (setup : Setup) (count : Nat) :
    (setup.timings count).keys =
      ((List.range count).map setup.size).eraseDups := by
  induction count with
  | zero => rfl
  | succ count inductionHypothesis =>
      rw [Setup.timings, keys_enter, inductionHypothesis, List.range_succ,
        List.map_append, List.map_singleton, eraseDups_append_singleton]
      simp only [List.mem_eraseDups]

end Benchmark
end Readout
