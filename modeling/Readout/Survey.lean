import Readout.Benchmark.Run
import Readout.Chart
import Readout.WidthSummary

/-!
# Surveys

A survey runs a benchmark, summarises its timings by width and shows their
chart.
-/

namespace Readout

namespace Benchmark

/-- The timings of a report as they are summarised. -/
def Report.entries (report : Report) : WidthSummary.Timings :=
  report.timings.rekey (fun width : Nat => .integer width) (List.map .real)
    fun left right different => by
      rw [Value.sameKey_integer, decide_eq_false_iff_not, Int.ofNat_inj]
      exact beq_eq_false_iff_ne.mp different

end Benchmark

namespace Survey

/-- Run a benchmark and show its timings. -/
def run (setup : Benchmark.Setup) : Session Table := do
  let report ← Benchmark.run setup
  let table ← Session.ofExcept (WidthSummary.ofTimings report.entries)
  let _ ← Chart.draw (some table)
  return table

end Survey
end Readout
