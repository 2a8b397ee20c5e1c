import Readout.Outcome
import Readout.Bits
import Readout.Word
import Readout.TwosComplement
import Readout.Binary64.Basic
import Readout.Binary64.Rounding
import Readout.Binary64.Arithmetic
import Readout.Text.Digit
import Readout.Text.Printable
import Readout.Text.Blank
import Readout.Text.Quoted
import Readout.Decimal.Numeral
import Readout.Decimal.Reader
import Readout.ErrorKind
import Readout.Table
import Readout.Figure
import Readout.Fault
import Readout.Session
import Readout.Grid
import Readout.Scalar
import Readout.Value.Basic
import Readout.Ledger
import Readout.Value.View
import Readout.Value.Number
import Readout.Value.Key
import Readout.Conversion
import Readout.Generator
import Readout.Benchmark.Run
import Readout.Statistics.Summary
import Readout.WidthSummary
import Readout.Chart
import Readout.Survey
import Readout.Proofs.Packing
import Readout.Proofs.Accumulation
import Readout.Proofs.Division
import Readout.Proofs.Rounding
import Readout.Proofs.Binary64
import Readout.Proofs.Views
import Readout.Proofs.Endings
import Readout.Proofs.Widening
import Readout.Proofs.Encoding
import Readout.Proofs.Decoding
import Readout.Proofs.Reading
import Readout.Proofs.RoundTrip
import Readout.Proofs.Agreement
import Readout.Proofs.Period
import Readout.Proofs.Rejection
import Readout.Proofs.Benchmark.Draws
import Readout.Proofs.Benchmark.Passes
import Readout.Proofs.Benchmark.Timings
import Readout.Proofs.Benchmark.Verdict
import Readout.Proofs.Benchmark.Success
import Readout.Proofs.Benchmark.Samples
import Readout.Proofs.Benchmark.Failures
import Readout.Proofs.Benchmark.Termination
import Readout.Proofs.Orderly
import Readout.Proofs.Rows
import Readout.Proofs.Summation
import Readout.Proofs.Percentile
import Readout.Proofs.Survey
import Readout.Proofs.Log
import Readout.Proofs.Numerals
import Readout.Proofs.Integers
import Readout.Proofs.Keys
import Readout.Proofs.Entries
import Readout.Proofs.Summary
import Readout.Proofs.TextWidths
import Readout.Proofs.Elementwise
