import Readout.Generator
import Readout.Value.Number

/-!
# Setting up a benchmark

A benchmark runs a number of passes. Each pass takes a width from a source,
reads a clock twice, and may have a fault injected into what is read back. Given
widths, clock readings and faults are taken in turn, over and over.
-/

namespace Readout

/-- The item at an index of a list that repeats without end. -/
def cyclic (fallback : α) (items : List α) (index : Nat) : α :=
  items.getD (index % items.length) fallback

/-- Where the widths of the passes come from. -/
inductive WidthSource
  /-- Given widths, in turn. -/
  | given (widths : List Value)
  /-- Random widths from zero to a largest one. -/
  | drawn (largest : Value)

namespace WidthSource

/-- The width of the pass with a given index, and the random source after it. -/
def width (generator : Generator) (index : Nat) :
    WidthSource → Except Fault (Value × Generator)
  | .given widths => .ok (cyclic .nothing widths index, generator)
  | .drawn largest => do
      let bound ← largest.successor
      if bound ≤ 0 then .error (.noNumberBelow bound)
      else
        match generator.below? bound.toNat with
        | some choice => .ok (.integer choice.1, choice.2)
        | none => .error (.endlessDraw bound.toNat)

end WidthSource

namespace Benchmark

/-- What a benchmark depends on. -/
structure Setup where
  /-- The number of passes. -/
  passes : Value := .integer 1000
  /-- The widths of the passes. -/
  widths : WidthSource := .drawn (.integer 63)
  /-- The seed of the random source. -/
  seed : Int := 0
  /-- The readings of the clock, in seconds. -/
  clock : List Binary64
  /-- Masks that change the numbers read from bits. -/
  bitFaults : List Int := []
  /-- Masks that change the numbers read from outcomes. -/
  outcomeFaults : List Int := []

namespace Setup

/-- The clock reading with a given index. -/
def reading (setup : Setup) (index : Nat) : Binary64 :=
  cyclic ⟨0⟩ setup.clock index

/-- The mask that changes the number read from bits in a pass. -/
def bitFault (setup : Setup) (index : Nat) : Int :=
  cyclic 0 setup.bitFaults index

/-- The mask that changes the number read from outcomes in a pass. -/
def outcomeFault (setup : Setup) (index : Nat) : Int :=
  cyclic 0 setup.outcomeFaults index

end Setup
end Benchmark
end Readout
