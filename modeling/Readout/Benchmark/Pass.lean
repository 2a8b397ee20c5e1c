import Readout.Benchmark.Setup
import Readout.Binary64.Arithmetic
import Readout.Elementwise
import Readout.Ledger
import Readout.Register.Decode
import Readout.Register.Encode
import Readout.TwosComplement

/-!
# A pass of a benchmark

A pass draws a number of a given width, writes it as a register, and reads it
back twice: from the bits, and from the outcomes that the bits stand for. The
time between two clock readings is entered under the width. A pass in which one
of the two numbers differs from the drawn one is a mismatch; the first few
mismatches are reported.
-/

namespace Readout
namespace Benchmark

/-- Times in seconds under widths, in order of first use. -/
abbrev Timings : Type :=
  Ledger (fun left right : Nat => left == right) (List Binary64)

/-- What a benchmark keeps from pass to pass. -/
structure State where
  /-- The random source. -/
  generator : Generator
  /-- How many more mismatches are reported. -/
  patience : Nat
  /-- How many passes did not reproduce their number. -/
  mismatches : Nat
  /-- The times of the passes of each width. -/
  timings : Timings

/-- How many mismatches are reported at most. -/
def maxReports : Nat := 3

/-- The state before the first pass. -/
def State.initial (setup : Setup) : State :=
  ⟨Generator.ofSeed setup.seed, maxReports, 0, Ledger.empty⟩

/-- A number of as many bits as a width counts; zero for a width that is not
positive. -/
def drawNumber (width : Value) (generator : Generator) :
    Except Fault (Nat × Generator) := do
  let positive ← width.isPositive
  if positive then
    let count ← width.count
    return generator.bits count.toNat
  else return (0, generator)

/-- The number of bits of a register, which has to be its width. -/
def registerSize (width : Value) (bits : List Bool) : Except Fault Nat :=
  if width.integer? = some (bits.length : Int) then .ok bits.length
  else .error .malformedBits

/-- What came back from a register. -/
structure RoundTrip where
  /-- The number of bits. -/
  size : Nat
  /-- The number that was written. -/
  number : Nat
  /-- The number read from the bits. -/
  decoded : Int
  /-- The number read from the outcomes. -/
  measured : Int
  deriving DecidableEq, Repr

namespace RoundTrip

/-- Whether a number came back changed. -/
def isMismatch (trip : RoundTrip) : Bool :=
  trip.decoded != trip.number || trip.measured != trip.number

/-- The report of a mismatch; nothing if a number in it has too many digits. -/
def report? (trip : RoundTrip) : Option String := do
  let size ← Decimal.text? trip.size
  let number ← Decimal.text? trip.number
  let decoded ← Decimal.text? trip.decoded
  let measured ← Decimal.text? trip.measured
  return "Round-trip mismatch at width " ++ size ++ ": expected " ++ number ++
    ", got " ++ decoded ++ " (bits) / " ++ measured ++ " (results)"

end RoundTrip

/-- Write a number as a register and read it back in both ways. -/
def roundTrip (setup : Setup) (index : Nat) (width : Value) (number : Nat) :
    Session RoundTrip := do
  let bits ← Register.bitsOfNumber (.integer number) width
  let decoded ← Register.numberOfBits (.ofBits bits)
  let outcomes ← Session.ofExcept (Elementwise.outcomes (.ofBits bits))
  let measured ← Register.numberOfOutcomes (.ofOutcomes outcomes)
  let size ← Session.ofExcept (registerSize width bits)
  return {
    size
    number
    decoded := TwosComplement.xor decoded (setup.bitFault index)
    measured := TwosComplement.xor measured (setup.outcomeFault index) }

/-- The time that a pass takes. -/
def elapsed (setup : Setup) (index : Nat) : Binary64 :=
  setup.reading (2 * index + 1) - setup.reading (2 * index)

/-- Enter a time under a width. -/
def enter (size : Nat) (time : Binary64) (timings : Timings) : Timings :=
  timings.update size fun times => times.getD [] ++ [time]

/-- Count a round trip, and report it if it is one of the first mismatches. Nothing is
printed of a report that cannot be written in full. -/
def record
    (trip : RoundTrip)
    (time : Binary64)
    (generator : Generator)
    (state : State) :
    Session State := do
  let timings := enter trip.size time state.timings
  if !trip.isMismatch then
    return { state with generator, timings }
  else if state.patience = 0 then
    return { state with generator, timings, mismatches := state.mismatches + 1 }
  else
    match trip.report? with
    | none => Session.fail .tooLongToWrite
    | some report =>
        Session.print report
        return {
          generator
          timings
          patience := state.patience - 1
          mismatches := state.mismatches + 1 }

/-- Run the pass with a given index. -/
def pass (setup : Setup) (index : Nat) (state : State) : Session State := do
  let width ← Session.ofExcept (setup.widths.width state.generator index)
  let number ← Session.ofExcept (drawNumber width.1 width.2)
  let trip ← roundTrip setup index width.1 number.1
  record trip (elapsed setup index) number.2 state

/-- Run a number of passes from a given index on. -/
def passes (setup : Setup) : Nat → Nat → State → Session State
  | 0, _, state => pure state
  | remaining + 1, index, state => do
      let following ← pass setup index state
      passes setup remaining (index + 1) following

end Benchmark
end Readout
