import Readout.Statistics.Arithmetic
import Readout.Statistics.PairwiseSum

/-!
# Mean and percentile

The mean divides the pairwise sum by the number of samples. The percentile is
interpolated between the two sorted samples next to its rank, from the nearer of
the two.
-/

namespace Readout
namespace Statistics

variable [Arithmetic α]

/-- The mean of samples. -/
def mean (samples : List α) : α :=
  (Arithmetic.ofNat 0 + pairwiseSum Arithmetic.emptySum samples) /
    Arithmetic.ofNat samples.length

/-- The number that lies a fraction of the way from one number to another. -/
def interpolate (low high fraction : α) : α :=
  let difference := high - low
  if Arithmetic.le Arithmetic.half fraction then
    high - difference * (Arithmetic.ofNat 1 - fraction)
  else
    low + difference * fraction

/-- Samples in ascending order. -/
def ascending (samples : List α) : List α :=
  samples.mergeSort Arithmetic.le

/-- The percentile of sorted samples of which `last` is the largest. -/
def percentileOfSorted (sorted : List α) (last : α) : α :=
  let top : α := Arithmetic.ofNat (sorted.length - 1)
  let position := Arithmetic.rank * top
  if Arithmetic.le top position then
    interpolate last last (position + Arithmetic.ofNat 1)
  else
    let index := Arithmetic.floor position
    interpolate (sorted.getD index last) (sorted.getD (index + 1) last)
      (position - Arithmetic.ofNat index)

/-- The 95th percentile of samples; nothing if there are none. A sample that
compares with no other is itself the percentile. -/
def percentile? (samples : List α) : Option α :=
  match samples.find? Arithmetic.isUnordered with
  | some unordered => some unordered
  | none =>
      let sorted := ascending samples
      sorted.getLast?.map (percentileOfSorted sorted)

/-- Seconds as microseconds. -/
def microseconds (seconds : List α) : List α :=
  seconds.map (· * Arithmetic.ofNat 1000000)

end Statistics
end Readout
