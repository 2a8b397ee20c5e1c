/-!
# Pairwise summation

A long list is cut in two, and the sums of the parts are added. A part of at
most 128 numbers is summed in eight lanes: a whole block of eight adds one
number to each lane, the lanes are added as a tree, and the numbers left over
are added in order. Fewer than eight numbers are added in order.
-/

namespace Readout

/-- Eight sums that run side by side. -/
structure Lanes (α : Type u) where
  lane0 : α
  lane1 : α
  lane2 : α
  lane3 : α
  lane4 : α
  lane5 : α
  lane6 : α
  lane7 : α

namespace Lanes

variable [Add α]

/-- Add one number to each lane. -/
def add (lanes block : Lanes α) : Lanes α where
  lane0 := lanes.lane0 + block.lane0
  lane1 := lanes.lane1 + block.lane1
  lane2 := lanes.lane2 + block.lane2
  lane3 := lanes.lane3 + block.lane3
  lane4 := lanes.lane4 + block.lane4
  lane5 := lanes.lane5 + block.lane5
  lane6 := lanes.lane6 + block.lane6
  lane7 := lanes.lane7 + block.lane7

/-- The sum of the lanes, added as a tree. -/
def total (lanes : Lanes α) : α :=
  ((lanes.lane0 + lanes.lane1) + (lanes.lane2 + lanes.lane3)) +
    ((lanes.lane4 + lanes.lane5) + (lanes.lane6 + lanes.lane7))

/-- Add the whole blocks of a list to the lanes, and keep what is left over. -/
def addBlocks (lanes : Lanes α) : List α → Lanes α × List α
  | x0 :: x1 :: x2 :: x3 :: x4 :: x5 :: x6 :: x7 :: rest =>
      addBlocks (lanes.add ⟨x0, x1, x2, x3, x4, x5, x6, x7⟩) rest
  | leftovers => (lanes, leftovers)

end Lanes

variable [Add α]

/-- The sum of a list in eight lanes; in order from `start` if it is short. -/
def laneSum (start : α) : List α → α
  | x0 :: x1 :: x2 :: x3 :: x4 :: x5 :: x6 :: x7 :: rest =>
      let added := Lanes.addBlocks ⟨x0, x1, x2, x3, x4, x5, x6, x7⟩ rest
      added.2.foldl (· + ·) added.1.total
  | samples => samples.foldl (· + ·) start

/-- Where a list is cut in two: at a multiple of eight near the middle. -/
def cutPoint (length : Nat) : Nat :=
  length / 2 - length / 2 % 8

/-- The pairwise sum of a list. -/
def pairwiseSum (start : α) (samples : List α) : α :=
  if samples.length ≤ 128 then laneSum start samples
  else
    pairwiseSum start (samples.take (cutPoint samples.length)) +
      pairwiseSum start (samples.drop (cutPoint samples.length))
termination_by samples.length
decreasing_by
  all_goals
    simp only [List.length_take, List.length_drop, cutPoint]
    omega

end Readout
