import Readout.Bits

/-!
# The random source

A linear congruential generator modulo `2 ^ 64`. Each step yields the high half
of the new state; a number of more than thirty-two bits is put together from
several steps, lowest word first. A number below a bound is drawn by trying
numbers of the bound's length until one is below it.
-/

namespace Readout

/-- The state of the random source. -/
structure Generator where
  /-- A number modulo `2 ^ 64`. -/
  state : UInt64
  deriving DecidableEq, Repr

namespace Generator

/-- The source that starts from a seed, of which the low 64 bits count. -/
def ofSeed (seed : Int) : Generator :=
  ⟨UInt64.ofNat (seed % Nat.pow 2 64).toNat⟩

/-- The next state. -/
def next (generator : Generator) : Generator :=
  ⟨generator.state * 6364136223846793005 + 1442695040888963407⟩

/-- The thirty-two bits that a state yields. -/
def word (generator : Generator) : Nat :=
  generator.state.toNat / Nat.pow 2 32

/-- The number that the next states yield, lowest word first. -/
def words : Nat → Generator → Nat × Generator
  | 0, generator => (0, generator)
  | count + 1, generator =>
      let rest := words count generator.next
      (generator.next.word + Nat.pow 2 32 * rest.1, rest.2)

/-- A number of at most `width` bits. -/
def bits (width : Nat) (generator : Generator) : Nat × Generator :=
  let drawn := words ((width + 31) / 32) generator
  (drawn.1 % Nat.pow 2 width, drawn.2)

/-- Draw numbers of `width` bits until one is below a bound. -/
def seek (bound width : Nat) : Nat → Generator → Option (Nat × Generator)
  | 0, _ => none
  | attempts + 1, generator =>
      let drawn := bits width generator
      if drawn.1 < bound then some drawn
      else seek bound width attempts drawn.2

/-- The number of states, after which a source has yielded all it ever will. -/
def period : Nat := Nat.pow 2 64

/-- A number below a bound; nothing if the source never yields one. -/
def below? (bound : Nat) (generator : Generator) : Option (Nat × Generator) :=
  seek bound (Bits.size bound) period generator

/-- A number that has been found is below the bound. -/
theorem lt_of_seek
    {bound width attempts : Nat}
    {generator : Generator}
    {found : Nat × Generator}
    (sought : seek bound width attempts generator = some found) :
    found.1 < bound := by
  induction attempts generalizing generator with
  | zero => simp [seek] at sought
  | succ attempts inductionHypothesis =>
      rw [seek] at sought
      split at sought
      · next accepted =>
          cases sought
          exact accepted
      · exact inductionHypothesis sought

end Generator
end Readout
