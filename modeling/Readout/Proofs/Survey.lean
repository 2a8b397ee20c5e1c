import Readout.Proofs.Benchmark.Samples
import Readout.Proofs.Orderly
import Readout.Proofs.Rows
import Readout.Survey

/-!
# What a survey adds to a benchmark

A survey fails as its benchmark does. If the benchmark succeeds, its timings have a
row for each width that was drawn, sorted by width, and these rows count all passes.
The chart of the rows is shown, unless there are none. Clock readings decide what
stands in the rows, not whether there are rows.
-/

namespace Readout

/-! ## The chart of rows -/

namespace Table

theorem unify_integers (column : List Int) :
    unify (column.map .integer) = column.map .integer := by
  have allIntegers : (column.map Datum.integer).all Datum.isInteger = true := by
    simp [Datum.isInteger]
  rw [unify, allIntegers, Bool.true_or, if_pos rfl]

theorem mapM_toReal?_real (column : List Binary64) :
    (column.map Datum.real).mapM Datum.toReal? = some column := by
  induction column with
  | nil => rfl
  | cons value rest inductionHypothesis =>
      rw [List.map_cons, List.mapM_cons, inductionHypothesis]
      rfl

theorem unify_reals (column : List Binary64) :
    unify (column.map .real) = column.map .real := by
  rw [unify, mapM_toReal?_real]
  split <;> rfl

end Table

namespace WidthSummary

/-- A column whose data are of one kind is read off the rows as it stands. -/
theorem column?_eq_map
    {name : String}
    {index : Nat}
    {field : WidthRow → Datum}
    (rows : List WidthRow)
    (found : columns.idxOf? name = some index)
    (stands : ∀ row, (WidthRow.fields row).getD index .missing = field row)
    (unified : Table.unify (rows.map field) = rows.map field) :
    (table rows).column? name = some (rows.map field) := by
  have column : ((rows.map WidthRow.fields).map fun row => row.getD index .missing) =
      rows.map field := by
    rw [List.map_map]
    exact List.map_congr_left fun row _ => stands row
  rw [Table.column?, table, found, Option.map_some, column, unified]

variable (rows : List WidthRow)

theorem column?_width :
    (table rows).column? "width" = some (rows.map fun row => .integer row.width) := by
  have found : columns.idxOf? "width" = some 0 := rfl
  have unified := Table.unify_integers (rows.map WidthRow.width)
  rw [List.map_map] at unified
  exact column?_eq_map rows found (fun _ => rfl) unified

theorem column?_calls :
    (table rows).column? "calls" = some (rows.map fun row => .integer row.calls) := by
  have found : columns.idxOf? "calls" = some 1 := rfl
  have unified := Table.unify_integers (rows.map fun row => (row.calls : Int))
  rw [List.map_map] at unified
  exact column?_eq_map rows found (fun _ => rfl) unified

theorem column?_mean :
    (table rows).column? "mean_us" = some (rows.map fun row => .real row.mean) := by
  have found : columns.idxOf? "mean_us" = some 2 := rfl
  have unified := Table.unify_reals (rows.map WidthRow.mean)
  rw [List.map_map] at unified
  exact column?_eq_map rows found (fun _ => rfl) unified

theorem column?_percentile :
    (table rows).column? "p95_us" =
      some (rows.map fun row => .real row.percentile) := by
  have found : columns.idxOf? "p95_us" = some 3 := rfl
  have unified := Table.unify_reals (rows.map WidthRow.percentile)
  rw [List.map_map] at unified
  exact column?_eq_map rows found (fun _ => rfl) unified

end WidthSummary

namespace Chart

/-- The chart of rows: the mean and the percentile of each width. -/
def ofRows (rows : List WidthRow) : Figure :=
  figure
    (rows.map fun row => .integer row.width)
    (rows.map fun row => .real row.mean)
    (rows.map fun row => .real row.percentile)

/-- Every table of rows has the columns that its chart needs. -/
theorem ofTable_table (rows : List WidthRow) :
    ofTable (WidthSummary.table rows) = .ok (ofRows rows) := by
  unfold ofTable column
  rw [WidthSummary.column?_width, WidthSummary.column?_mean,
    WidthSummary.column?_percentile]
  rfl

/-- Without rows there is nothing to show. -/
theorem draw_empty :
    draw (some (WidthSummary.table [])) =
      ⟨[.line "Nothing to plot."], .ok none⟩ := rfl

/-- The chart of some rows is shown. -/
theorem draw_table {rows : List WidthRow} (nonempty : rows ≠ []) :
    draw (some (WidthSummary.table rows)) =
      ⟨[.figure (ofRows rows)], .ok (some (ofRows rows))⟩ := by
  have hasRows : (WidthSummary.table rows).isEmpty = false := by
    cases rows with
    | nil => exact absurd rfl nonempty
    | cons row rest => rfl
  simp only [draw, Option.filter_some, hasRows, Bool.not_false, if_true,
    ofTable_table]
  rfl

end Chart

/-! ## The rows of a benchmark -/

namespace Benchmark

/-- The rows of the passes below an index, in the order in which their widths first
came up. -/
def Setup.rows (setup : Setup) (count : Nat) : List WidthRow :=
  (setup.distinctSizes count).map fun (size : Nat) =>
    WidthRow.ofSeconds size (setup.samples count size)

/-- Every width of the timings has a row, whatever the clock said. -/
theorem mapM_ofEntry_timings
    {setup : Setup}
    {report : Report}
    {count : Nat}
    (timed : report.timings = setup.timings count) :
    report.entries.toList.mapM WidthRow.ofEntry = .ok (setup.rows count) := by
  have entries : report.entries.toList =
      report.timings.toList.map fun entry =>
        (.integer (entry.1 : Int), entry.2.map .real) := rfl
  rw [entries, timed, timings_eq_samples, List.map_map, mapM_eq_ok_iff,
    List.forall₂_map_left_iff, Setup.rows, List.forall₂_map_right_iff,
    List.forall₂_same]
  intro size known
  exact WidthRow.ofEntry_of_seconds (WidthRow.mapM_toReal_real _) rfl
    (Setup.samples_ne_nil known)

theorem map_width_rows (setup : Setup) (count : Nat) :
    (setup.rows count).map WidthRow.width =
      (setup.distinctSizes count).map fun (size : Nat) => (size : Int) := by
  rw [Setup.rows, List.map_map]
  rfl

/-- The widths of the rows are those of the passes. -/
theorem mem_width_rows_iff (setup : Setup) (count : Nat) (width : Int) :
    width ∈ (setup.rows count).map WidthRow.width ↔
      ∃ index < count, (setup.size index : Int) = width := by
  rw [map_width_rows, List.mem_map]
  constructor
  · rintro ⟨size, known, rfl⟩
    rw [Setup.distinctSizes, List.mem_eraseDups, List.mem_map] at known
    obtain ⟨index, below, rfl⟩ := known
    exact ⟨index, List.mem_range.mp below, rfl⟩
  · rintro ⟨index, below, rfl⟩
    refine ⟨setup.size index, ?_, rfl⟩
    rw [Setup.distinctSizes, List.mem_eraseDups]
    exact List.mem_map_of_mem (List.mem_range.mpr below)

/-- A row counts the passes of its width. -/
theorem calls_ofSeconds (setup : Setup) (count size : Nat) :
    (WidthRow.ofSeconds size (setup.samples count size)).calls =
      ((List.range count).filter fun index =>
        (setup.size index : Int) = (size : Int)).length := by
  change (setup.samples count size).length = _
  rw [Setup.samples, List.length_map]
  simp only [Int.ofNat_inj]

theorem nodup_width_rows (setup : Setup) (count : Nat) :
    ((setup.rows count).map WidthRow.width).Nodup := by
  rw [map_width_rows]
  exact (setup.nodup_distinctSizes count).map fun _ _ => Int.ofNat_inj.mp

theorem sum_calls_rows (setup : Setup) (count : Nat) :
    ((setup.rows count).map WidthRow.calls).sum = count := by
  have counted := sampleCount_timings setup count
  rw [sampleCount, timings_eq_samples, List.map_map] at counted
  rw [Setup.rows, List.map_map]
  exact counted

end Benchmark

namespace Survey

open Benchmark (Setup)

/-- What rows say of the passes below an index. -/
structure Summarises (setup : Setup) (count : Nat) (rows : List WidthRow) : Prop where
  /-- The rows are sorted by width, and no width has two of them. -/
  ascending : (rows.map WidthRow.width).Pairwise (· < ·)
  /-- The widths are those of the passes. -/
  mem_widths_iff : ∀ width, width ∈ rows.map WidthRow.width ↔
    ∃ index < count, (setup.size index : Int) = width
  /-- A row counts the passes of its width, of which there are some. -/
  calls : ∀ row ∈ rows, 1 ≤ row.calls ∧
    row.calls =
      ((List.range count).filter fun index =>
        (setup.size index : Int) = row.width).length
  /-- All passes are counted. -/
  sum_calls : (rows.map WidthRow.calls).sum = count
  /-- Mean and percentile are those of the times of the passes of the width. -/
  times : ∀ row ∈ rows, ∃ size : Nat,
    row = WidthRow.ofSeconds size (setup.samples count size)

/-- Rearranging the rows of the passes does not change what they say. -/
theorem summarises_of_perm
    {setup : Setup}
    {count : Nat}
    {rows : List WidthRow}
    (rearranged : rows.Perm (setup.rows count))
    (ascending : (rows.map WidthRow.width).Pairwise (· < ·)) :
    Summarises setup count rows := by
  have rowOfMember : ∀ row ∈ rows, ∃ size ∈ setup.distinctSizes count,
      row = WidthRow.ofSeconds size (setup.samples count size) := by
    intro row member
    obtain ⟨size, known, rfl⟩ := List.mem_map.mp (rearranged.mem_iff.mp member)
    exact ⟨size, known, rfl⟩
  constructor
  case ascending => exact ascending
  case mem_widths_iff =>
    intro width
    rw [(rearranged.map WidthRow.width).mem_iff, Benchmark.mem_width_rows_iff]
  case calls =>
    intro row member
    obtain ⟨size, known, rfl⟩ := rowOfMember row member
    exact ⟨List.length_pos_iff.mpr (Setup.samples_ne_nil known),
      Benchmark.calls_ofSeconds setup count size⟩
  case sum_calls =>
    rw [(rearranged.map WidthRow.calls).sum_eq, Benchmark.sum_calls_rows]
  case times =>
    intro row member
    obtain ⟨size, _, same⟩ := rowOfMember row member
    exact ⟨size, same⟩

/-- A table shows rows: their fields stand under the names of the columns, in order, so
that the columns can be read off the rows. -/
structure Shows (found : Table) (rows : List WidthRow) : Prop where
  /-- The columns are named. -/
  columns_eq : found.columns = ["width", "calls", "mean_us", "p95_us"]
  /-- Each row is shown, field by field. -/
  rows_eq : found.rows = rows.map fun row =>
    [.integer row.width, .integer row.calls, .real row.mean, .real row.percentile]
  /-- The widths are those of the rows. -/
  width_column : found.column? "width" = some (rows.map fun row => .integer row.width)
  /-- The numbers of samples are those of the rows. -/
  calls_column : found.column? "calls" = some (rows.map fun row => .integer row.calls)

theorem shows_table (rows : List WidthRow) : Shows (WidthSummary.table rows) rows :=
  ⟨rfl, rfl, WidthSummary.column?_width rows, WidthSummary.column?_calls rows⟩

/-- A figure has two traces, which draw the mean and the percentile of a table
against its width, row by row. -/
def Plots (figure : Figure) (table : Table) : Prop :=
  ∃ widths means percentiles,
    table.column? "width" = some widths ∧
    table.column? "mean_us" = some means ∧
    table.column? "p95_us" = some percentiles ∧
    figure.traces.map (fun trace => (trace.name, trace.x, trace.y)) =
      [("mean", widths, means), ("p95", widths, percentiles)]

theorem plots_ofRows (rows : List WidthRow) :
    Plots (Chart.ofRows rows) (WidthSummary.table rows) :=
  ⟨_, _, _, WidthSummary.column?_width rows, WidthSummary.column?_mean rows,
    WidthSummary.column?_percentile rows, rfl⟩

/-- Timings of a benchmark are always summarised. -/
theorem exists_summary
    {setup : Setup}
    {report : Benchmark.Report}
    {count : Nat}
    (timed : report.timings = setup.timings count) :
    ∃ rows, WidthSummary.ofTimings report.entries = .ok (WidthSummary.table rows) ∧
      Summarises setup count rows := by
  obtain ⟨rows, sorted, rearranged, ascending⟩ :=
    WidthSummary.exists_rows (Benchmark.mapM_ofEntry_timings timed)
      (Benchmark.nodup_width_rows setup count)
  refine ⟨rows, ?_, summarises_of_perm rearranged ascending⟩
  rw [WidthSummary.ofTimings, WidthSummary.ofEntries, sorted]
  rfl

/-- The rows of no passes are no rows, and those of some passes are some. -/
theorem Summarises.eq_nil_iff
    {setup : Setup}
    {count : Nat}
    {rows : List WidthRow}
    (summarises : Summarises setup count rows) :
    rows = [] ↔ count = 0 := by
  have counted := summarises.sum_calls
  constructor
  · rintro rfl
    exact counted.symm
  · rintro rfl
    apply List.eq_nil_iff_forall_not_mem.mpr
    intro row member
    have atMost : row.calls ≤ (rows.map WidthRow.calls).sum :=
      List.le_sum_of_mem (List.mem_map_of_mem member)
    have some := (summarises.calls row member).1
    omega

/-- Every benchmark that succeeds has rows, which say what its passes were. -/
theorem exists_rows_of_report
    {setup : Setup}
    {report : Benchmark.Report}
    (succeeded : (Benchmark.run setup).result = .ok report) :
    ∃ (count : Int) (rows : List WidthRow),
      setup.passes.count = .ok count ∧
      (∀ index < count.toNat, Benchmark.Readable setup index) ∧
      WidthSummary.ofTimings report.entries = .ok (WidthSummary.table rows) ∧
      Summarises setup count.toNat rows := by
  obtain ⟨count, label, counted, labelled, completes⟩ :=
    Benchmark.completes_of_run succeeded
  have timed : report.timings = setup.timings count.toNat := by
    rw [Benchmark.run_of_counted counted labelled completes] at succeeded
    rw [← Except.ok.inj succeeded]
  obtain ⟨rows, summarised, summarises⟩ := exists_summary timed
  exact ⟨count, rows, counted, fun index below => (completes index below).readable,
    summarised, summarises⟩

/-! ## Running a survey -/

/-- A survey whose benchmark fails has nothing to add. -/
theorem run_of_failed
    {setup : Setup}
    {fault : Fault}
    (failed : (Benchmark.run setup).result = .error fault) :
    run setup = ⟨(Benchmark.run setup).events, .error fault⟩ :=
  Session.bind_of_error _ failed

section Report

variable {setup : Setup} {report : Benchmark.Report} {rows : List WidthRow}

/-- A survey whose benchmark succeeds goes on as the chart of its rows does. -/
theorem run_of_drawn
    {events : List Event}
    {drawn : Option Figure}
    (succeeded : (Benchmark.run setup).result = .ok report)
    (summarised : WidthSummary.ofTimings report.entries = .ok (WidthSummary.table rows))
    (shown : Chart.draw (some (WidthSummary.table rows)) = ⟨events, .ok drawn⟩) :
    run setup =
      ⟨(Benchmark.run setup).events ++ events, .ok (WidthSummary.table rows)⟩ := by
  rw [run, Session.bind_of_ok _ succeeded, summarised, Session.ofExcept_ok, pure_bind,
    shown, Session.bind_of_ok _ rfl]
  simp

/-- A survey of some rows shows a figure, and prints no more than the benchmark. -/
theorem run_of_rows
    (succeeded : (Benchmark.run setup).result = .ok report)
    (summarised : WidthSummary.ofTimings report.entries = .ok (WidthSummary.table rows))
    (nonempty : rows ≠ []) :
    (run setup).result = .ok (WidthSummary.table rows) ∧
      (run setup).events =
        (Benchmark.run setup).events ++ [.figure (Chart.ofRows rows)] ∧
      (run setup).figures = [Chart.ofRows rows] ∧
      (run setup).output = (Benchmark.run setup).output := by
  rw [run_of_drawn succeeded summarised (Chart.draw_table nonempty)]
  refine ⟨rfl, rfl, ?_, ?_⟩
  · rw [Session.figures_of_append]
    exact congrArg (· ++ [Chart.ofRows rows]) (Benchmark.orderly_run setup).figures_eq
  · rw [Session.output_of_append]
    exact String.append_empty

/-- A survey of no rows shows no figure, and prints a line more. -/
theorem run_of_no_rows
    (succeeded : (Benchmark.run setup).result = .ok report)
    (summarised : WidthSummary.ofTimings report.entries =
      .ok (WidthSummary.table [])) :
    (run setup).result = .ok (WidthSummary.table []) ∧
      (run setup).events =
        (Benchmark.run setup).events ++ [.line "Nothing to plot."] ∧
      (run setup).figures = [] ∧
      (run setup).output = (Benchmark.run setup).output ++ "Nothing to plot.\n" := by
  rw [run_of_drawn succeeded summarised Chart.draw_empty]
  refine ⟨rfl, rfl, ?_, ?_⟩
  · rw [Session.figures_of_append]
    exact congrArg (· ++ []) (Benchmark.orderly_run setup).figures_eq
  · rw [Session.output_of_append]
    exact congrArg ((Benchmark.run setup).output ++ ·) String.empty_append

/-- A survey whose benchmark succeeds has the table of the rows. -/
theorem result_of_report
    (succeeded : (Benchmark.run setup).result = .ok report)
    (summarised : WidthSummary.ofTimings report.entries =
      .ok (WidthSummary.table rows)) :
    (run setup).result = .ok (WidthSummary.table rows) := by
  cases rows with
  | nil => exact (run_of_no_rows succeeded summarised).1
  | cons row rest => exact (run_of_rows succeeded summarised (List.cons_ne_nil _ _)).1

end Report

theorem result_eq_error_iff (setup : Setup) (fault : Fault) :
    (run setup).result = .error fault ↔
      (Benchmark.run setup).result = .error fault := by
  cases ended : (Benchmark.run setup).result with
  | error other => simp [run_of_failed ended]
  | ok report =>
      obtain ⟨_, rows, _, _, summarised, _⟩ := exists_rows_of_report ended
      rw [result_of_report ended summarised]
      exact ⟨nofun, nofun⟩

/-- A survey fails exactly as its benchmark does, and then it shows no figure. If the
benchmark succeeds, its timings are summarised in a table and charted. The table shows
one row for each width that was drawn, in ascending order; it counts the passes of that
width, and all rows together count all passes. A survey of some passes shows one
figure, which draws the columns of the table, and prints no more than the benchmark. A
survey of no passes shows none and says so. -/
theorem survey_extends_benchmark (setup : Setup) :
    (∀ fault, (run setup).result = .error fault ↔
      (Benchmark.run setup).result = .error fault) ∧
    (∀ fault, (Benchmark.run setup).result = .error fault →
      (run setup).events = (Benchmark.run setup).events ∧
      (run setup).figures = []) ∧
    (∀ report, (Benchmark.run setup).result = .ok report →
      ∃ (count : Int) (found : Table) (rows : List WidthRow),
        setup.passes.count = .ok count ∧
        (∀ index < count.toNat, Benchmark.Readable setup index) ∧
        WidthSummary.ofTimings report.entries = .ok found ∧
        (run setup).result = .ok found ∧
        Shows found rows ∧
        Summarises setup count.toNat rows ∧
        (1 ≤ count →
          (Chart.draw (some found)).result = .ok (some (Chart.ofRows rows)) ∧
          Plots (Chart.ofRows rows) found ∧
          (run setup).events =
            (Benchmark.run setup).events ++ [.figure (Chart.ofRows rows)] ∧
          (run setup).figures = [Chart.ofRows rows] ∧
          (run setup).output = (Benchmark.run setup).output) ∧
        (count ≤ 0 →
          (Chart.draw (some found)).result = .ok none ∧
          (run setup).events =
            (Benchmark.run setup).events ++ [.line "Nothing to plot."] ∧
          (run setup).figures = [] ∧
          (run setup).output =
            (Benchmark.run setup).output ++ "Nothing to plot.\n")) := by
  refine ⟨result_eq_error_iff setup, ?_, ?_⟩
  · intro fault failed
    rw [run_of_failed failed]
    exact ⟨rfl, (Benchmark.orderly_run setup).figures_eq⟩
  · intro report succeeded
    obtain ⟨count, rows, counted, readable, summarised, summarises⟩ :=
      exists_rows_of_report succeeded
    refine ⟨count, WidthSummary.table rows, rows, counted, readable, summarised,
      result_of_report succeeded summarised, shows_table rows, summarises, ?_, ?_⟩
    · intro somePasses
      have nonempty : rows ≠ [] := by
        rw [ne_eq, summarises.eq_nil_iff]
        omega
      have drawn := congrArg Session.result (Chart.draw_table nonempty)
      exact ⟨drawn, plots_ofRows rows,
        (run_of_rows succeeded summarised nonempty).2⟩
    · intro noPasses
      obtain rfl := summarises.eq_nil_iff.mpr (by omega)
      have drawn := congrArg Session.result Chart.draw_empty
      exact ⟨drawn, (run_of_no_rows succeeded summarised).2⟩

/-- Four passes over random widths from zero to two. -/
def fourPasses : Setup where
  passes := .integer 4
  widths := .drawn (.integer 2)
  clock := [⟨0⟩, Binary64.one]

theorem survey_fourPasses :
    ∃ report found rows,
      (Benchmark.run fourPasses).result = .ok report ∧
      (run fourPasses).result = .ok found ∧
      found.column? "calls" = some (rows.map fun row => .integer row.calls) ∧
      0 ∈ rows.map WidthRow.width ∧
      2 ∈ rows.map WidthRow.width ∧
      (rows.map WidthRow.calls).sum = 4 ∧
      (run fourPasses).figures = [Chart.ofRows rows] := by
  have announces : Benchmark.Announces fourPasses.passes 4 (Decimal.text 4) :=
    Benchmark.announces_word (by decide) (by decide)
  have short : Benchmark.ShortWidths fourPasses.widths := ⟨2, rfl, by decide⟩
  have wordFaults : Benchmark.HasWordFaults fourPasses := by decide
  have succeeded := congrArg Session.result
    (Benchmark.run_of_completes announces fun index _ =>
      (short.readable index).completes wordFaults)
  obtain ⟨count, found, rows, counted, _, _, result, showsRows, summarises, drawn, _⟩ :=
    (survey_extends_benchmark fourPasses).2.2 _ succeeded
  cases counted
  obtain ⟨_, _, _, figures, _⟩ := drawn (by decide)
  have firstSize : fourPasses.size 0 = 2 := by decide +kernel
  have lastSize : fourPasses.size 3 = 0 := by decide +kernel
  refine ⟨_, found, rows, succeeded, result, showsRows.calls_column, ?_, ?_,
    summarises.sum_calls, figures⟩
  · rw [summarises.mem_widths_iff]
    exact ⟨3, by decide, congrArg Nat.cast lastSize⟩
  · rw [summarises.mem_widths_iff]
    exact ⟨0, by decide, congrArg Nat.cast firstSize⟩

end Survey
end Readout
