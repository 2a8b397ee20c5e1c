import Readout.Benchmark.Pass

/-!
# Running a benchmark

The passes are run one after the other. A benchmark that gets through all of
them prints how many there were, over how many widths, and how many mismatches
it has counted, if any.
-/

namespace Readout
namespace Benchmark

/-- What a benchmark has found. -/
structure Report where
  /-- The times of the passes of each width, in seconds. -/
  timings : Timings
  /-- The number of passes, as it was given. -/
  passes : Value
  /-- How many passes did not reproduce their number. -/
  mismatches : Nat

/-- A count as it is printed. -/
def countText (value : Value) : Except Fault String :=
  match value with
  | .flag true => .ok "True"
  | .flag false => .ok "False"
  | value => do
      let number ← value.count
      match Decimal.text? number with
      | some text => .ok text
      | none => .error .tooLongToWrite

/-- Print what a benchmark has found. -/
def summarise (setup : Setup) (state : State) : Session Report := do
  let count ← Session.ofExcept (countText setup.passes)
  Session.print (count ++ " round trips over " ++
    Decimal.text state.timings.keys.length ++ " widths.")
  if 0 < state.mismatches then
    Session.print (Decimal.text state.mismatches ++ " MISMATCHES!!!")
  return ⟨state.timings, setup.passes, state.mismatches⟩

/-- Run a benchmark. -/
def run (setup : Setup) : Session Report := do
  let count ← Session.ofExcept setup.passes.count
  let final ← passes setup count.toNat 0 (State.initial setup)
  summarise setup final

end Benchmark
end Readout
