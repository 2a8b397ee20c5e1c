/-!
# Packing bits into 64-bit words

A word is a signed 64-bit integer in two's complement. `pack` sets one bit of an
accumulator per set bit of a mask; `unpack` splits the low bits of a word off by
arithmetic shifts, so that what remains of a negative word is never zero. A mask
of at most `capacity` bits leaves the sign bit clear.
-/

namespace Readout

/-- A 64-bit word, read as a signed integer through `BitVec.toInt`. -/
abbrev Word := BitVec 64

namespace Word

/-- The number of bits below the sign bit. -/
def capacity : Nat := 63

/-- The largest number a word holds. -/
def largest : Int := Nat.pow 2 63 - 1

/-- The smallest number a word holds. -/
def smallest : Int := -Nat.pow 2 63

/-- Set the bit at `index` of an accumulator if `bit` is set. -/
def place (accumulator : Word) (index : Nat) (bit : Bool) : Word :=
  if bit then accumulator ||| (1#64 <<< index) else accumulator

/-- Place the bits of a list at consecutive indices. -/
def placeAll : Word → Nat → List Bool → Word
  | accumulator, _, [] => accumulator
  | accumulator, index, bit :: rest =>
      placeAll (accumulator.place index bit) (index + 1) rest

/-- The word whose bits are those of a mask, lowest bit first. -/
def pack (mask : List Bool) : Word :=
  placeAll 0 0 mask

/-- Split the low `width` bits off a word: the bits, lowest first, and what
remains after as many arithmetic shifts. -/
def unpack : Nat → Word → List Bool × Word
  | 0, word => ([], word)
  | width + 1, word =>
      let split := unpack width (word.sshiftRight 1)
      (word.getLsbD 0 :: split.1, split.2)

/-- The number that a mask packs to. -/
def join (mask : List Bool) : Int :=
  (pack mask).toInt

/-- Split the low `width` bits off a number: the bits, lowest first, and what
remains of the number. -/
def split (number : Int) (width : Nat) : List Bool × Int :=
  let parts := unpack width (BitVec.ofInt 64 number)
  (parts.1, parts.2.toInt)

@[simp] theorem placeAll_nil (accumulator : Word) (index : Nat) :
    placeAll accumulator index [] = accumulator := rfl

@[simp] theorem placeAll_cons
    (accumulator : Word)
    (index : Nat)
    (bit : Bool)
    (rest : List Bool) :
    placeAll accumulator index (bit :: rest) =
      placeAll (accumulator.place index bit) (index + 1) rest := rfl

@[simp] theorem unpack_zero (word : Word) : unpack 0 word = ([], word) := rfl

@[simp] theorem unpack_succ (width : Nat) (word : Word) :
    unpack (width + 1) word =
      (word.getLsbD 0 :: (unpack width (word.sshiftRight 1)).1,
        (unpack width (word.sshiftRight 1)).2) := rfl

/-- Unpacking yields exactly as many bits as asked for. -/
@[simp] theorem length_unpack (width : Nat) (word : Word) :
    (unpack width word).1.length = width := by
  induction width generalizing word with
  | zero => rfl
  | succ width inductionHypothesis => simp [inductionHypothesis]

/-- Splitting yields exactly as many bits as asked for. -/
@[simp] theorem length_split (number : Int) (width : Nat) :
    (split number width).1.length = width :=
  length_unpack width (BitVec.ofInt 64 number)

end Word
end Readout
