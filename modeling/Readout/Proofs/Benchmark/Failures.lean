import Readout.Proofs.Benchmark.Success

/-!
# How a benchmark over given widths fails

A pass over a width that cannot be read fails: the width is not ordered, no count
or no integer, it is negative, or its register is too long for a word. What a long
register fails with depends on the number drawn, since a number that does not fit
into a word is refused before the register is read. A pass whose report has too many
digits fails, too. A benchmark over given widths ends in the failure of its first such
pass, after the lines of the passes before.
-/

namespace Readout
namespace Benchmark

/-- A width that can be read: an integer from zero to the capacity of a word. -/
def ShortWidth (width : Value) : Prop :=
  ∃ size : Nat, width.IsInteger size ∧ size ≤ 63

/-- The widths considered: nothing, texts, reals, truth values, and integers up to
twenty thousand. -/
inductive Sampled : Value → Prop
  | nothing : Sampled .nothing
  | text (content : String) : Sampled (.text content)
  | real (value : Binary64) : Sampled (.real value)
  | flag (value : Bool) : Sampled (.flag value)
  | integer
      {width : Value}
      {size : Int}
      (isWidth : width.IsInteger size)
      (moderate : size ≤ 20000) :
      Sampled width

/-- The error of a pass over a width that cannot be read, given the random source
that its number is drawn from, and whether a notice announces the error. -/
inductive PassFailure (generator : Generator) : Value → Bool → Notice → Prop
  | nothing :
      PassFailure generator .nothing false
        ⟨.type, "'>' not supported between instances of 'NoneType' and 'int'"⟩
  | text (content : String) :
      PassFailure generator (.text content) false
        ⟨.type, "'>' not supported between instances of 'str' and 'int'"⟩
  | positiveReal (value : Binary64) (positive : value.isPositive = true) :
      PassFailure generator (.real value) false
        ⟨.type, "'float' object cannot be interpreted as an integer"⟩
  | otherReal (value : Binary64) (notPositive : value.isPositive = false) :
      PassFailure generator (.real value) false
        ⟨.type, "`bits` must be an int, got float"⟩
  | flag (value : Bool) :
      PassFailure generator (.flag value) false
        ⟨.type, "`bits` must be an int, got bool"⟩
  | unspeakableWidth
      {width : Value}
      {size : Int}
      (isWidth : width.IsInteger size)
      (negative : size < 0)
      (long : 10 ^ Decimal.maxDigits ≤ size.natAbs) :
      PassFailure generator width false ⟨.value, Fault.tooLongToWrite.message⟩
  | negativeWidth
      {width : Value}
      {size : Int}
      (isWidth : width.IsInteger size)
      (negative : size < 0)
      (short : size.natAbs < 10 ^ Decimal.maxDigits) :
      PassFailure generator width true
        ⟨.invalidArgument,
          "`bits` must be non-negative, but was " ++ Decimal.text size⟩
  | longRegister
      {width : Value}
      {size : Nat}
      (isWidth : width.IsInteger size)
      (wide : 64 ≤ size)
      (small : (generator.bits size).1 < 2 ^ 63) :
      PassFailure generator width true
        ⟨.range, "`bits` must be less than 64, but was " ++ Decimal.text size⟩
  | largeNumber
      {width : Value}
      {size : Nat}
      (isWidth : width.IsInteger size)
      (wide : 64 ≤ size)
      (large : 2 ^ 63 ≤ (generator.bits size).1)
      (short : (generator.bits size).1 < 10 ^ Decimal.maxDigits) :
      PassFailure generator width true
        ⟨.invalidArgument, "`number` must fit into a 64-bit integer, but was " ++
          Decimal.text (generator.bits size).1⟩
  | unspeakableNumber
      {width : Value}
      {size : Nat}
      (isWidth : width.IsInteger size)
      (wide : 64 ≤ size)
      (long : 10 ^ Decimal.maxDigits ≤ (generator.bits size).1) :
      PassFailure generator width false ⟨.value, Fault.tooLongToWrite.message⟩

/-- A pass never fails because a number needs too many bits, nor because a register
has the wrong number of bits. -/
theorem PassFailure.kind_mem
    {generator : Generator}
    {width : Value}
    {announced : Bool}
    {error : Notice}
    (failure : PassFailure generator width announced error) :
    error.kind ∈ [ErrorKind.type, .value, .invalidArgument, .range] := by
  cases failure <;> simp

/-- A session ends in an error, which a notice may announce. -/
def FailsAs (session : Session α) (announced : Bool) (error : Notice) : Prop :=
  session.EndsWith ((if announced then [error] else []).map .notice) error.kind
    error.message

/-! ## One pass -/

section Pass

variable {setup : Setup} {index : Nat} {state : State} {width : Value}

/-- A pass fails if no number is drawn for its width. -/
theorem pass_of_no_number
    {generator : Generator}
    {fault : Fault}
    (taken : setup.widths.width state.generator index = .ok (width, generator))
    (undrawn : drawNumber width generator = .error fault) :
    FailsAs (pass setup index state) false ⟨fault.kind, fault.message⟩ := by
  rw [pass, taken, Session.ofExcept_ok, pure_bind, undrawn]
  exact (Session.fail_failsWith fault).bind _

/-- A pass fails as its round trip does. -/
theorem pass_of_roundTrip
    {generator : Generator}
    {drawn : Nat × Generator}
    {announced : Bool}
    {error : Notice}
    (taken : setup.widths.width state.generator index = .ok (width, generator))
    (number : drawNumber width generator = .ok drawn)
    (fails : FailsAs (roundTrip setup index width drawn.1) announced error) :
    FailsAs (pass setup index state) announced error := by
  rw [pass, taken, Session.ofExcept_ok, pure_bind, number, Session.ofExcept_ok,
    pure_bind]
  exact fails.bind _

end Pass

/-- A round trip fails as writing the number does. -/
theorem roundTrip_of_unwritten
    {width : Value}
    {number : Nat}
    {announced : Bool}
    {error : Notice}
    (setup : Setup)
    (index : Nat)
    (fails : FailsAs (Register.bitsOfNumber (.integer number) width) announced
      error) :
    FailsAs (roundTrip setup index width number) announced error := by
  rw [roundTrip]
  exact fails.bind _

/-- A number that is written in too many bits for a word is refused when it is
read. -/
theorem roundTrip_of_wide
    {width : Value}
    {size number : Nat}
    (setup : Setup)
    (index : Nat)
    (isWidth : width.IsInteger size)
    (speakable : Decimal.isSpeakable size = true)
    (wide : 64 ≤ size)
    (small : number < 2 ^ 63) :
    FailsAs (roundTrip setup index width number) true
      ⟨.range, "`bits` must be less than 64, but was " ++ Decimal.text size⟩ := by
  have smallNumber : (number : Int) ≤ Word.largest :=
    Word.cast_le_largest (Nat.le_refl _) small
  have fits : number < 2 ^ size :=
    Nat.lt_of_lt_of_le small (Nat.pow_le_pow_right (by decide) (by omega))
  have written := Register.bitsOfNumber_of_fits (.proper number) isWidth
    (Decimal.isSpeakable_iff.mp speakable) (Int.natCast_nonneg size)
    (Int.natCast_nonneg number) smallNumber (by exact_mod_cast fits)
  have sized : (Word.split (number : Int) size).1.length = size :=
    Word.length_split _ _
  have refused : (Register.numberOfBits
      (.ofBits (Word.split (number : Int) size).1)).RefusesWith .range
        ("`bits` must be less than 64, but was " ++ Decimal.text size) :=
    Register.decode_of_long (by rw [Value.length_ofBits, sized]) wide
  rw [roundTrip, written, pure_bind]
  exact refused.bind _

/-! ## The width of a pass -/

/-- No number is drawn for a width that is not positive. -/
theorem drawNumber_of_not_positive
    {width : Value}
    (notPositive : width.isPositive = .ok false)
    (generator : Generator) :
    drawNumber width generator = .ok (0, generator) := by
  rw [drawNumber, notPositive]
  rfl

/-- No number is drawn for a positive width that does not count anything. -/
theorem drawNumber_of_no_count
    {width : Value}
    {fault : Fault}
    (positive : width.isPositive = .ok true)
    (uncounted : width.count = .error fault)
    (generator : Generator) :
    drawNumber width generator = .error fault := by
  rw [drawNumber, positive]
  change width.count >>= _ = _
  rw [uncounted]
  rfl

section Width

variable {setup : Setup} {index : Nat} {state : State} {width : Value}

/-- A pass over a negative width fails when zero is written. -/
theorem exists_passFailure_of_negative
    {size : Int}
    (isWidth : width.IsInteger size)
    (negative : size < 0)
    (taken : setup.widths.width state.generator index =
      .ok (width, state.generator)) :
    ∃ announced error, PassFailure state.generator width announced error ∧
      FailsAs (pass setup index state) announced error := by
  have notPositive : width.isPositive = .ok false := by
    rw [isWidth.isPositive_eq, decide_eq_false (by omega)]
  have drawn := drawNumber_of_not_positive notPositive state.generator
  have written := Register.bitsOfNumber_eq_encode (.proper (0 : Nat)) isWidth
  cases speakable : Decimal.isSpeakable size with
  | false =>
      have long := Decimal.isSpeakable_eq_false_iff.mp speakable
      refine ⟨_, _, .unspeakableWidth isWidth negative long,
        pass_of_roundTrip taken drawn (roundTrip_of_unwritten setup index ?_)⟩
      rw [written]
      exact Register.encode_of_long_width _ speakable
  | true =>
      have short := Decimal.isSpeakable_iff.mp speakable
      refine ⟨_, _, .negativeWidth isWidth negative short,
        pass_of_roundTrip taken drawn (roundTrip_of_unwritten setup index ?_)⟩
      rw [written]
      exact Register.encode_of_negative_width _ speakable negative

/-- A pass over a width beyond the capacity of a word fails, and the number drawn
decides how. -/
theorem exists_passFailure_of_wide
    {size : Nat}
    (isWidth : width.IsInteger size)
    (speakable : Decimal.isSpeakable size = true)
    (wide : 64 ≤ size)
    (taken : setup.widths.width state.generator index =
      .ok (width, state.generator)) :
    ∃ announced error, PassFailure state.generator width announced error ∧
      FailsAs (pass setup index state) announced error := by
  have drawn := drawNumber_of_isInteger isWidth state.generator
  have nonnegative : (0 : Int) ≤ size := Int.natCast_nonneg size
  have written := Register.bitsOfNumber_eq_encode
    (.proper (state.generator.bits size).1) isWidth
  rcases Nat.lt_or_ge (state.generator.bits size).1 (2 ^ 63) with small | large
  · exact ⟨_, _, .longRegister isWidth wide small, pass_of_roundTrip taken drawn
      (roundTrip_of_wide setup index isWidth speakable wide small)⟩
  cases numberSpeakable :
      Decimal.isSpeakable (state.generator.bits size).1 with
  | false =>
      have long := Decimal.isSpeakable_eq_false_iff.mp numberSpeakable
      rw [Int.natAbs_natCast] at long
      refine ⟨_, _, .unspeakableNumber isWidth wide long,
        pass_of_roundTrip taken drawn (roundTrip_of_unwritten setup index ?_)⟩
      rw [written]
      exact Register.encode_of_long_number speakable nonnegative numberSpeakable
  | true =>
      have short := Decimal.isSpeakable_iff.mp numberSpeakable
      rw [Int.natAbs_natCast] at short
      have beyond : Word.largest < ((state.generator.bits size).1 : Int) := by
        rw [← Int.not_le, Word.le_largest_iff, Word.capacity]
        exact_mod_cast Nat.not_lt.mpr large
      refine ⟨_, _, .largeNumber isWidth wide large short,
        pass_of_roundTrip taken drawn (roundTrip_of_unwritten setup index ?_)⟩
      rw [written]
      exact Register.encode_of_large_number speakable nonnegative numberSpeakable
        beyond

/-- A pass over one of the widths considered fails if the width cannot be read. -/
theorem exists_passFailure
    (sampled : Sampled width)
    (notShort : ¬ShortWidth width)
    (taken : setup.widths.width state.generator index =
      .ok (width, state.generator)) :
    ∃ announced error, PassFailure state.generator width announced error ∧
      FailsAs (pass setup index state) announced error := by
  cases sampled with
  | nothing => exact ⟨_, _, .nothing, pass_of_no_number taken rfl⟩
  | text content => exact ⟨_, _, .text content, pass_of_no_number taken rfl⟩
  | real value =>
      cases positive : value.isPositive with
      | true =>
          have isPositive : (Value.real value).isPositive = .ok true :=
            congrArg Except.ok positive
          have undrawn := drawNumber_of_no_count isPositive rfl state.generator
          exact ⟨_, _, .positiveReal value positive,
            pass_of_no_number taken undrawn⟩
      | false =>
          have notPositive : (Value.real value).isPositive = .ok false :=
            congrArg Except.ok positive
          have drawn := drawNumber_of_not_positive notPositive state.generator
          exact ⟨_, _, .otherReal value positive,
            pass_of_roundTrip taken drawn (roundTrip_of_unwritten setup index
              (Register.bitsOfNumber_of_not_width (.proper _) nofun))⟩
  | flag value =>
      have drawn : ∃ drawn, drawNumber (.flag value) state.generator = .ok drawn := by
        cases value <;> exact ⟨_, rfl⟩
      obtain ⟨drawn, number⟩ := drawn
      exact ⟨_, _, .flag value,
        pass_of_roundTrip taken number (roundTrip_of_unwritten setup index
          (Register.bitsOfNumber_of_not_width (.proper _) nofun))⟩
  | @integer _ size isWidth moderate =>
      by_cases negative : size < 0
      · exact exists_passFailure_of_negative isWidth negative taken
      obtain ⟨natural, rfl⟩ := Int.eq_ofNat_of_zero_le (Int.not_lt.mp negative)
      have wide : 64 ≤ natural := by
        by_contra narrow
        exact notShort ⟨natural, isWidth, by omega⟩
      have speakable := Decimal.isSpeakable_of_le_largest
        (Int.natCast_nonneg natural) (Int.le_trans moderate (by decide))
      exact exists_passFailure_of_wide isWidth speakable wide taken

end Width

/-! ## The whole benchmark -/

/-- A benchmark ends in the error of the first pass that fails, after the lines of the
passes before. -/
theorem run_of_failure
    {setup : Setup}
    {count : Int}
    {index : Nat}
    {events : List Event}
    {kind : ErrorKind}
    {message : String}
    (counted : setup.passes.count = .ok count)
    (below : index < count.toNat)
    (completes : ∀ earlier < index, Completes setup earlier)
    (ends : (pass setup index (setup.stateBefore index)).EndsWith events kind
      message) :
    (run setup).EndsWith ((setup.mismatchLines index).map .line ++ events) kind
      message := by
  obtain ⟨left, fault, failed, isKind, isMessage⟩ := ends
  have ended : pass setup index (setup.stateBefore index) = ⟨events, .error fault⟩ := by
    rw [← left, ← failed]
  rw [run_of_failed counted below completes ended]
  exact ⟨rfl, fault, rfl, isKind, isMessage⟩

/-- A number of passes with too many digits is not printed. -/
theorem countText_of_not_isSpeakable
    {number : Int}
    (unspeakable : Decimal.isSpeakable number = false) :
    countText (.integer number) = .error .tooLongToWrite := by
  rw [countText_of_isInteger (.proper number),
    Decimal.text?_of_not_isSpeakable unspeakable]
  rfl

/-! ## Given widths -/

section Given

variable {setup : Setup} {widths : List Value} {count : Nat}

/-- A number of passes given as an integer is that integer. -/
theorem count_of_integer (counted : setup.passes = .integer count) :
    setup.passes.count = .ok (count : Int) := by
  rw [counted]
  rfl

/-- A pass over given widths takes its width and leaves the random source alone. -/
theorem width_of_given
    (given : setup.widths = .given widths)
    (generator : Generator)
    (index : Nat) :
    setup.widths.width generator index =
      .ok (cyclic .nothing widths index, generator) := by
  rw [given]
  rfl

/-- A pass over given widths draws what can be read exactly if its width can be
read. -/
theorem readable_iff_of_given
    (given : setup.widths = .given widths)
    (index : Nat) :
    Readable setup index ↔ ShortWidth (cyclic .nothing widths index) := by
  have taken := width_of_given given (setup.source index) index
  constructor
  · rintro ⟨width, rest, alsoTaken, isWidth, short, _⟩
    rw [taken] at alsoTaken
    cases alsoTaken
    exact ⟨setup.size index, isWidth, short⟩
  · rintro ⟨size, isWidth, short⟩
    exact readable_of_width taken isWidth short

/-- Passes over given widths complete if the widths can be read and the reports can be
written. -/
theorem completes_of_given
    {bound : Nat}
    (given : setup.widths = .given widths)
    (short : ∀ index < bound, ShortWidth (cyclic .nothing widths index))
    (printable : ∀ index < bound, Printable setup index) :
    ∀ index < bound, Completes setup index :=
  fun index below =>
    ⟨(readable_iff_of_given given index).mpr (short index below),
      printable index below⟩

/-- A benchmark over given widths succeeds exactly if the widths of all its passes
can be read and the number of passes and all reports can be printed. -/
theorem exists_report_iff_of_given
    (given : setup.widths = .given widths)
    (counted : setup.passes = .integer count) :
    (∃ report, (run setup).result = .ok report) ↔
      count < 10 ^ Decimal.maxDigits ∧
        (∀ index < count, ShortWidth (cyclic .nothing widths index)) ∧
        ∀ index < count, Printable setup index := by
  have speakable_iff :
      Decimal.isSpeakable count = true ↔ count < 10 ^ Decimal.maxDigits := by
    rw [Decimal.isSpeakable_iff, Int.natAbs_natCast]
  constructor
  · rintro ⟨report, succeeded⟩
    obtain ⟨number, label, sameNumber, labelled, completes⟩ :=
      completes_of_run succeeded
    rw [counted] at sameNumber labelled
    cases sameNumber
    refine ⟨?_, ?_, ?_⟩
    · rw [← speakable_iff]
      by_contra unspeakable
      rw [countText_of_not_isSpeakable (Bool.not_eq_true _ ▸ unspeakable)]
        at labelled
      cases labelled
    · intro index below
      exact (readable_iff_of_given given index).mp (completes index below).readable
    · intro index below
      exact (completes index below).printable
  · rintro ⟨few, short, printable⟩
    have announces : Announces setup.passes count (Decimal.text count) := by
      rw [counted]
      exact .integer count (by rwa [Int.natAbs_natCast])
    rw [run_of_completes announces (completes_of_given given short printable)]
    exact ⟨_, rfl⟩

section First

variable
  {index : Nat}
  (given : setup.widths = .given widths)
  (counted : setup.passes = .integer count)
  (below : index < count)
  (shortBefore : ∀ earlier < index, ShortWidth (cyclic .nothing widths earlier))
  (printableBefore : ∀ earlier < index, Printable setup earlier)

include given counted below shortBefore printableBefore

/-- A benchmark over given widths ends in the failure of the first pass whose width
cannot be read. -/
theorem exists_failure_of_given
    (nonempty : widths ≠ [])
    (sampled : ∀ width ∈ widths, Sampled width)
    (notShort : ¬ShortWidth (cyclic .nothing widths index)) :
    ∃ announced error,
      PassFailure (setup.source index) (cyclic .nothing widths index) announced
        error ∧
      (run setup).EndsWith
        ((setup.mismatchLines index).map .line ++
          (if announced then [error] else []).map .notice)
        error.kind error.message := by
  have taken := width_of_given given (setup.stateBefore index).generator index
  have known := sampled _ (cyclic_mem .nothing nonempty index)
  have failure : ∃ announced error,
      PassFailure (setup.source index) (cyclic .nothing widths index) announced
        error ∧
      FailsAs (pass setup index (setup.stateBefore index)) announced error :=
    exists_passFailure known notShort taken
  obtain ⟨announced, error, failure, ends⟩ := failure
  exact ⟨announced, error, failure, run_of_failure (count_of_integer counted) below
    (completes_of_given given shortBefore printableBefore) ends⟩

/-- A benchmark over given widths ends at the first report that cannot be written. -/
theorem run_of_unwritten
    (short : ShortWidth (cyclic .nothing widths index))
    (notPrintable : ¬Printable setup index) :
    (run setup).EndsWith ((setup.mismatchLines index).map .line) .value
      Fault.tooLongToWrite.message := by
  rw [run_of_not_printable (count_of_integer counted) below
    (completes_of_given given shortBefore printableBefore)
    ((readable_iff_of_given given index).mpr short) notPrintable]
  exact ⟨rfl, .tooLongToWrite, rfl, rfl, rfl⟩

end First

/-- A benchmark whose number of passes cannot be printed fails after all of them. -/
theorem run_of_unspeakable
    (given : setup.widths = .given widths)
    (counted : setup.passes = .integer count)
    (short : ∀ index < count, ShortWidth (cyclic .nothing widths index))
    (printable : ∀ index < count, Printable setup index)
    (long : 10 ^ Decimal.maxDigits ≤ count) :
    (run setup).EndsWith ((setup.mismatchLines count).map .line) .value
      Fault.tooLongToWrite.message := by
  have unspeakable : Decimal.isSpeakable count = false :=
    Decimal.isSpeakable_eq_false_iff.mpr (by rwa [Int.natAbs_natCast])
  have ran := passes_stateBefore (completes_of_given given short printable)
  have summary : (summarise setup (setup.stateBefore count)).FailsWith .value
      Fault.tooLongToWrite.message := by
    rw [summarise, counted, countText_of_not_isSpeakable unspeakable]
    exact (Session.fail_failsWith _).bind _
  have ended : (passes setup count 0 (State.initial setup)).result =
      .ok (setup.stateBefore count) := by
    rw [ran]
  have ends := summary.after ended
  rw [ran, List.append_nil] at ends
  rw [run, count_of_integer counted, Session.ofExcept_ok, pure_bind,
    Int.toNat_natCast, ran]
  exact ends

end Given

/-- A benchmark over given widths succeeds exactly if the widths of all its passes can
be read, as long as the number of passes and the reports can be printed. Otherwise it
ends in the failure of the first pass whose width cannot be read or whose report has too
many digits, and has printed nothing but the lines of the passes before. If there is no
such pass, there is one way left to fail, after the last pass: a number of passes with
too many digits. -/
theorem run_over_given_widths
    {setup : Setup}
    {widths : List Value}
    {count : Nat}
    (given : setup.widths = .given widths)
    (nonempty : widths ≠ [])
    (sampled : ∀ width ∈ widths, Sampled width)
    (counted : setup.passes = .integer count) :
    (∀ index, Readable setup index ↔ ShortWidth (cyclic .nothing widths index)) ∧
    ((∃ report, (run setup).result = .ok report) ↔
      count < 10 ^ Decimal.maxDigits ∧
        (∀ index < count, ShortWidth (cyclic .nothing widths index)) ∧
        ∀ index < count, Printable setup index) ∧
    (∀ index < count,
      (∀ earlier < index, ShortWidth (cyclic .nothing widths earlier)) →
      (∀ earlier < index, Printable setup earlier) →
      (¬ShortWidth (cyclic .nothing widths index) →
        ∃ announced error,
          PassFailure (setup.source index) (cyclic .nothing widths index) announced
            error ∧
          error.kind ∈ [ErrorKind.type, .value, .invalidArgument, .range] ∧
          (run setup).EndsWith
            ((setup.mismatchLines index).map .line ++
              (if announced then [error] else []).map .notice)
            error.kind error.message ∧
          (run setup).output =
            String.join ((setup.mismatchLines index).map (· ++ "\n"))) ∧
      (ShortWidth (cyclic .nothing widths index) → ¬Printable setup index →
        (run setup).EndsWith ((setup.mismatchLines index).map .line) .value
            Fault.tooLongToWrite.message ∧
          (run setup).output =
            String.join ((setup.mismatchLines index).map (· ++ "\n")))) ∧
    ((∀ index < count, ShortWidth (cyclic .nothing widths index)) →
      (∀ index < count, Printable setup index) →
      10 ^ Decimal.maxDigits ≤ count →
      (run setup).EndsWith ((setup.mismatchLines count).map .line) .value
          Fault.tooLongToWrite.message ∧
        (run setup).output =
          String.join ((setup.mismatchLines count).map (· ++ "\n"))) := by
  refine ⟨readable_iff_of_given given, exists_report_iff_of_given given counted,
    ?_, ?_⟩
  · intro index below shortBefore printableBefore
    constructor
    · intro notShort
      obtain ⟨announced, error, failure, ends⟩ := exists_failure_of_given given counted
        below shortBefore printableBefore nonempty sampled notShort
      exact ⟨announced, error, failure, failure.kind_mem, ends,
        output_of_lines_append_notices ends.1⟩
    · intro short notPrintable
      have ends := run_of_unwritten given counted below shortBefore printableBefore
        short notPrintable
      exact ⟨ends, output_of_lines ends.1⟩
  · intro short printable long
    have ends := run_of_unspeakable given counted short printable long
    exact ⟨ends, output_of_lines ends.1⟩

/-- So many passes over a width of one bit that their number cannot be printed. -/
def countlessSetup : Setup where
  passes := .integer (10 ^ Decimal.maxDigits : Nat)
  widths := .given [.integer 1]
  clock := [⟨0⟩]

/-- The one width can be read, yet either benchmark ends in an error: a number that it
reports, or the number of its passes, has a digit more than can be written. -/
theorem longFaultSetup_fails :
    Sampled (.integer 1) ∧ ShortWidth (.integer 1) ∧
      longFaultSetup.widths = .given [.integer 1] ∧
      longFaultSetup.passes = .integer (1 : Nat) ∧
      (¬∃ report, (run longFaultSetup).result = .ok report) ∧
      countlessSetup.widths = .given [.integer 1] ∧
      countlessSetup.passes = .integer (10 ^ Decimal.maxDigits : Nat) ∧
      ¬∃ report, (run countlessSetup).result = .ok report := by
  refine ⟨.integer (.proper 1) (by decide), ⟨1, .proper 1, by decide⟩, rfl, rfl, ?_,
    rfl, rfl, ?_⟩
  · rintro ⟨report, succeeded⟩
    obtain ⟨count, _, counted, _, completes⟩ := completes_of_run succeeded
    cases counted
    exact longFaultSetup_not_printable (completes 0 (by decide)).printable
  · intro answered
    have few := ((exists_report_iff_of_given rfl rfl).mp answered).1
    exact Nat.lt_irrefl _ few

/-- Passes over a width that can be read and one that is too long in turn, with a
fault in what is read back. The number drawn for the second fits into a word. -/
def overlongSetup : Setup where
  passes := .integer 4
  widths := .given [.integer 3, .scalar (.integer ⟨true, 64⟩ 64)]
  seed := 10
  clock := [⟨0⟩]
  bitFaults := [1]

theorem overlongSetup_refused :
    overlongSetup.widths = .given [.integer 3, .scalar (.integer ⟨true, 64⟩ 64)] ∧
      (∀ width ∈ [Value.integer 3, .scalar (.integer ⟨true, 64⟩ 64)],
        Sampled width) ∧
      overlongSetup.passes = .integer (4 : Nat) ∧
      (run overlongSetup).EndsWith
        [ .line (overlongSetup.mismatchLine 0),
          .notice ⟨.range, "`bits` must be less than 64, but was " ++
            Decimal.text 64⟩ ]
        .range ("`bits` must be less than 64, but was " ++ Decimal.text 64) := by
  have given : overlongSetup.widths =
      .given [.integer 3, .scalar (.integer ⟨true, 64⟩ 64)] := rfl
  have counted : overlongSetup.passes = .integer (4 : Nat) := rfl
  have sampled : ∀ width ∈ [Value.integer 3, .scalar (.integer ⟨true, 64⟩ 64)],
      Sampled width := by
    intro width member
    rcases List.mem_cons.mp member with rfl | member
    · exact .integer (.proper 3) (by decide)
    · rw [List.mem_singleton.mp member]
      exact .integer (.fixedSize _ 64) (by decide)
  have isLong {size : Int}
      (isWidth : (Value.scalar (.integer ⟨true, 64⟩ 64)).IsInteger size) :
      size = 64 :=
    isWidth.unique (.fixedSize _ 64)
  have firstShort : ∀ earlier < 1, ShortWidth (cyclic .nothing
      [.integer 3, .scalar (.integer ⟨true, 64⟩ 64)] earlier) := by
    intro earlier before
    rw [Nat.lt_one_iff.mp before]
    exact ⟨3, .proper 3, by decide⟩
  have secondLong : ¬ShortWidth (cyclic .nothing
      [.integer 3, .scalar (.integer ⟨true, 64⟩ 64)] 1) := by
    rintro ⟨size, isWidth, short⟩
    have same := isLong isWidth
    omega
  have firstPrintable : ∀ earlier < 1, Printable overlongSetup earlier := by
    intro earlier before
    have wordFaults : HasWordFaults overlongSetup := by decide
    exact (((readable_iff_of_given given earlier).mpr
      (firstShort earlier before)).completes wordFaults).printable
  obtain ⟨_, _, fails, _⟩ :=
    run_over_given_widths given (List.cons_ne_nil _ _) sampled counted
  obtain ⟨announced, error, failure, _, ends, _⟩ :=
    (fails 1 (by decide) firstShort firstPrintable).1 secondLong
  refine ⟨given, sampled, counted, ?_⟩
  have small : ((overlongSetup.source 1).bits 64).1 < 2 ^ 63 := by decide
  change PassFailure _ (.scalar (.integer ⟨true, 64⟩ 64)) _ _ at failure
  cases failure with
  | unspeakableWidth isWidth negative | negativeWidth isWidth negative =>
      have same := isLong isWidth
      omega
  | longRegister isWidth =>
      have same := Int.ofNat_inj.mp (isLong isWidth)
      subst same
      exact ends
  | largeNumber isWidth _ large =>
      have same := Int.ofNat_inj.mp (isLong isWidth)
      subst same
      exact absurd small (Nat.not_lt.mpr large)
  | unspeakableNumber isWidth _ long =>
      have same := Int.ofNat_inj.mp (isLong isWidth)
      subst same
      have speakable := Decimal.isSpeakable_iff.mp
        (Decimal.isSpeakable_of_le_largest (Int.natCast_nonneg _)
          (Word.cast_le_largest (Nat.le_refl _) small))
      rw [Int.natAbs_natCast] at speakable
      exact absurd speakable (Nat.not_lt.mpr long)

end Benchmark
end Readout
