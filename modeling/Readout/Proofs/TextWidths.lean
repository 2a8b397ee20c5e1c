import Readout.Proofs.Encoding
import Readout.Proofs.Entries
import Readout.Proofs.Keys

/-!
# Widths given as texts

A text of printable ASCII characters that is not too long is a width exactly if it is a
numeral of the space and the digits from `0` to `9`, and then it is as good as the
integer that it writes. Every other such text is a malformed numeral. A summary
therefore stays as it is if integers among the widths are spelled out in decimal, as
long as they stay different widths that can be read: the numeral of an integer may be a
width already, or too long.
-/

namespace Readout

/-! ## Texts that are not too long -/

/-- The characters of a text are all printable ones of ASCII. -/
def Text.IsPrintableAscii (content : String) : Prop :=
  ∀ character ∈ content.toList, 32 ≤ character.toNat ∧ character.toNat ≤ 126

instance (content : String) : Decidable (Text.IsPrintableAscii content) :=
  List.decidableBAll _ content.toList

namespace Decimal

open Alphabet (everyScript ascii)

variable {characters : List Char}

/-- A text in which too many digits are found has too many characters. -/
theorem length_of_tooManyDigits
    {count : Nat}
    (failed : read characters = .error (.tooManyDigits count)) :
    maxDigits < characters.length := by
  obtain ⟨sign, split, _⟩ := exists_sign (characters.dropWhile Text.isBlank)
  unfold read at failed
  -- Blanks and a sign are taken off first, which only makes the text shorter.
  have shorter : (splitSign (characters.dropWhile Text.isBlank)).2.length ≤
      characters.length := by
    have atMost := (List.dropWhile_sublist (l := characters) Text.isBlank).length_le
    rw [split, List.length_append] at atMost
    omega
  generalize splitSign (characters.dropWhile Text.isBlank) = signed at failed shorter
  have runShorter := (List.takeWhile_sublist (l := signed.2) isNumeralCharacter).length_le
  simp only at failed
  split at failed
  · cases failed
  · rename_i digits taken
    split at failed
    · rename_i tooMany
      have fewer := (digits?_eq_some_iff.1.mp taken).length_le
      omega
    · split at failed <;> cases failed

/-- Integers without too many digits have different texts. -/
theorem text_injective
    {left right : Int}
    (shortLeft : left.natAbs < 10 ^ maxDigits)
    (shortRight : right.natAbs < 10 ^ maxDigits)
    (same : text left = text right) :
    left = right := by
  have readLeft := read_characters shortLeft
  rw [String.ofList_injective same, read_characters shortRight] at readLeft
  exact (Except.ok.inj readLeft).symm

/-- A text that is not too long and no numeral is malformed. -/
theorem read_eq_malformed
    (short : characters.length ≤ maxDigits)
    (noNumeral : ¬∃ negative digits, everyScript.Numeral characters negative digits) :
    read characters = .error .malformed := by
  cases result : read characters with
  | ok number =>
      obtain ⟨negative, digits, numeral, _⟩ := read_eq_ok_iff.mp result
      exact absurd ⟨negative, digits, numeral⟩ noNumeral
  | error failure =>
      cases failure with
      | malformed => rfl
      | tooManyDigits count =>
          exact absurd short (Nat.not_le.mpr (length_of_tooManyDigits result))

end Decimal

/-! ## What a text is turned into -/

namespace Value

open Decimal (maxDigits)
open Decimal.Alphabet (ascii)

section Texts

variable
  {content : String}
  (printable : Text.IsPrintableAscii content)
  (short : content.length ≤ maxDigits)

include printable short in
/-- A text that is a numeral is turned into the integer that it writes. -/
theorem toInteger_of_numeral
    {negative : Bool}
    {digits : List Nat}
    (numeral : ascii.Numeral content.toList negative digits) :
    (Value.text content).toInteger =
      .ok (Decimal.Alphabet.integer negative digits) := by
  have few : digits.length ≤ maxDigits := Nat.le_trans numeral.length_le short
  exact (Denotes.text ((Decimal.numeral_iff_of_printable printable).mpr numeral)
    few).toInteger_eq

include printable short in
/-- A text that is no numeral is malformed. -/
theorem toInteger_of_no_numeral
    (noNumeral : ¬∃ negative digits, ascii.Numeral content.toList negative digits) :
    (Value.text content).toInteger =
      .error (.malformedNumeral (Text.Quoted.literal content)) := by
  have malformed : Decimal.read content.toList = .error .malformed := by
    apply Decimal.read_eq_malformed short
    simpa only [Decimal.numeral_iff_of_printable printable] using noNumeral
  rw [toInteger, readNumeral, malformed]

end Texts

theorem IsInteger.toInteger_eq
    {value : Value}
    {number : Int}
    (isInteger : value.IsInteger number) :
    value.toInteger = .ok number := by
  cases isInteger <;> rfl

theorem IsInteger.keyAtom?_eq
    {value : Value}
    {number : Int}
    (isInteger : value.IsInteger number) :
    value.keyAtom? = some (.whole number) := by
  cases isInteger <;> rfl

/-! ## Integers that are spelled out -/

/-- A value as it is spelled out: an integer as its numeral in decimal, every other
value as it is. -/
def spelled (value : Value) : Value :=
  match value.integer? with
  | some number => .text (Decimal.text number)
  | none => value

theorem IsInteger.spelled_eq
    {value : Value}
    {number : Int}
    (isInteger : value.IsInteger number) :
    value.spelled = .text (Decimal.text number) := by
  rw [spelled, integer?_eq_some_iff.mpr isInteger]

theorem spelled_eq_self
    {value : Value}
    (noInteger : ¬∃ number, value.IsInteger number) :
    value.spelled = value := by
  rw [spelled, integer?_eq_none_iff.mpr (not_exists.mp noInteger)]

/-- A value is an integer without too many digits, or no integer. -/
def IsShort (value : Value) : Prop :=
  ∀ number, value.IsInteger number → number.natAbs < 10 ^ maxDigits

/-- A value that is spelled out is turned into the same integer. -/
theorem IsShort.toInteger_spelled
    {value : Value}
    (short : value.IsShort) :
    value.spelled.toInteger = value.toInteger := by
  by_cases integral : ∃ number, value.IsInteger number
  · obtain ⟨number, isInteger⟩ := integral
    rw [isInteger.spelled_eq, isInteger.toInteger_eq, toInteger, readNumeral,
      Decimal.text, String.toList_ofList, Decimal.read_characters (short number isInteger)]
  · rw [spelled_eq_self integral]

/-- A value that is spelled out is turned into an integer only if it is short. -/
theorem isShort_of_spelled
    {value : Value}
    {result : Int}
    (read : value.spelled.toInteger = .ok result) :
    value.IsShort := by
  intro number isInteger
  rw [isInteger.spelled_eq, toInteger, readNumeral, Decimal.text, String.toList_ofList]
    at read
  cases ended : Decimal.read (Decimal.characters number) with
  | ok result => exact Decimal.short_of_read_characters ended
  | error failure =>
      rw [ended] at read
      cases failure <;> cases read

/-- A value is the numeral of an integer that another value is. -/
def Writes (value other : Value) : Prop :=
  ∃ number, other.IsInteger number ∧
    value.sameKey (.text (Decimal.text number)) = true

section Pairs

variable {left right : Value}

/-- Keys that are different stay different if neither is the numeral of the other. -/
theorem sameKey_spelled_eq_false
    (shortLeft : left.IsShort)
    (shortRight : right.IsShort)
    (different : left.sameKey right = false)
    (notLeft : ¬left.Writes right)
    (notRight : ¬right.Writes left) :
    left.spelled.sameKey right.spelled = false := by
  rw [Bool.eq_false_iff] at different ⊢
  intro alike
  by_cases leftIntegral : ∃ number, left.IsInteger number
  · obtain ⟨number, isLeft⟩ := leftIntegral
    rw [isLeft.spelled_eq] at alike
    by_cases rightIntegral : ∃ number, right.IsInteger number
    · obtain ⟨other, isRight⟩ := rightIntegral
      rw [isRight.spelled_eq, sameKey_text, decide_eq_true_iff] at alike
      obtain rfl := Decimal.text_injective (shortLeft _ isLeft) (shortRight _ isRight) alike
      exact different (sameKey_eq_true_iff.mpr
        (.inr ⟨_, isLeft.keyAtom?_eq, isRight.keyAtom?_eq⟩))
    · rw [spelled_eq_self rightIntegral] at alike
      exact notRight ⟨number, isLeft, sameKey_symm _ _ alike⟩
  · rw [spelled_eq_self leftIntegral] at alike
    by_cases rightIntegral : ∃ number, right.IsInteger number
    · obtain ⟨number, isRight⟩ := rightIntegral
      rw [isRight.spelled_eq] at alike
      exact notLeft ⟨number, isRight, alike⟩
    · rw [spelled_eq_self rightIntegral] at alike
      exact different alike

/-- The numeral of an integer is itself no integer. -/
theorem Writes.not_isInteger (writes : left.Writes right) :
    ¬∃ number, left.IsInteger number := by
  rintro ⟨number, isInteger⟩
  obtain ⟨other, _, alike⟩ := writes
  obtain ⟨_, _, _, isTuple, _⟩ | ⟨atom, isLeft, isText⟩ := sameKey_eq_true_iff.mp alike
  · cases isTuple
  · cases isText
    rw [isInteger.keyAtom?_eq] at isLeft
    cases isLeft

/-- An integer and its numeral are the same key once they are spelled out. -/
theorem Writes.sameKey_spelled (writes : left.Writes right) :
    left.spelled.sameKey right.spelled = true := by
  rw [spelled_eq_self writes.not_isInteger]
  obtain ⟨number, isInteger, alike⟩ := writes
  rwa [isInteger.spelled_eq]

end Pairs

end Value

/-! ## Summaries -/

/-- The width of an entry matters only for the integer that it is turned into. -/
theorem WidthRow.ofEntry_congr
    {left right : Value × List Sample}
    (sameWidth : left.1.toInteger = right.1.toInteger)
    (sameSamples : left.2 = right.2) :
    ofEntry left = ofEntry right := by
  rw [ofEntry, ofEntry, sameWidth, sameSamples]

namespace WidthSummary

open WidthRow
open Decimal (maxDigits)
open Decimal.Alphabet (ascii)

section Entries

variable {entries others : List (Value × List Sample)}

/-- Entries that have the same rows have the same summary. -/
theorem ofEntries_congr
    (same : List.Forall₂ (fun entry other => ofEntry entry = ofEntry other)
      entries others) :
    ofEntries entries = ofEntries others := by
  have sameRows : entries.mapM ofEntry = others.mapM ofEntry := by
    induction same with
    | nil => rfl
    | cons head _ inductionHypothesis =>
        rw [List.mapM_cons, List.mapM_cons, head, inductionHypothesis]
  rw [ofEntries, ofEntries, rows, rows, sameRows]

/-- An entry may be replaced by one with the same row. -/
theorem ofEntries_replace
    {entry other : Value × List Sample}
    (same : ofEntry entry = ofEntry other)
    (before after : List (Value × List Sample)) :
    ofEntries (before ++ entry :: after) = ofEntries (before ++ other :: after) :=
  ofEntries_congr (List.rel_append (List.forall₂_refl before)
    (.cons same (List.forall₂_refl after)))

/-- Whether there is a summary depends on each entry on its own. -/
theorem exists_table_insert_iff
    {entry : Value × List Sample}
    {before after : List (Value × List Sample)}
    (others : ∃ found, ofEntries (before ++ after) = .ok found) :
    (∃ found, ofEntries (before ++ entry :: after) = .ok found) ↔
      ∃ row, ofEntry entry = .ok row := by
  rw [exists_table_iff] at others ⊢
  constructor
  · intro answered
    exact answered entry (by simp)
  · intro summarised other member
    rw [List.mem_append, List.mem_cons] at member
    rcases member with member | rfl | member
    · exact others other (List.mem_append_left after member)
    · exact summarised
    · exact others other (List.mem_append_right before member)

/-- A summary has as many rows as there are entries. -/
theorem length_rows
    {found : Table}
    (succeeded : ofEntries entries = .ok found) :
    found.rows.length = entries.length := by
  rw [ofEntries, rows] at succeeded
  cases ended : entries.mapM ofEntry with
  | error fault =>
      rw [ended] at succeeded
      cases succeeded
  | ok unsorted =>
      rw [ended] at succeeded
      obtain rfl := Except.ok.inj succeeded
      rw [table, List.length_map, List.length_mergeSort,
        (mapM_eq_ok_iff.mp ended).length_eq]

end Entries

/-! ## Summaries of widths that are spelled out -/

/-- The same samples under widths that are spelled out. Where two widths become the
same key, the samples of the later one are kept. -/
def spellOut (timings : Timings) : Timings :=
  Ledger.ofEntries Value.sameKey
    (timings.map fun entry => (entry.1.spelled, entry.2))

/-- No width is the numeral of an integer that another width is. -/
def IsSpelledOnce (timings : Timings) : Prop :=
  ∀ key ∈ timings.keys, ∀ other ∈ timings.keys, ¬key.Writes other

section Timings

variable {timings : Timings}

/-- Widths of which none is the numeral of another stay different. -/
theorem IsSpelledOnce.distinct_spelled
    (once : IsSpelledOnce timings)
    (short : ∀ key ∈ timings.keys, key.IsShort) :
    (timings.keys.map Value.spelled).Pairwise fun earlier later =>
      earlier.sameKey later = false := by
  rw [List.pairwise_map]
  refine timings.distinct.imp_of_mem ?_
  intro left right isLeft isRight different
  exact Value.sameKey_spelled_eq_false (short left isLeft) (short right isRight) different
    (once left isLeft right isRight) (once right isRight left isLeft)

/-- Widths stay different only if none is the numeral of another. -/
theorem isSpelledOnce_of_distinct
    (distinct : (timings.keys.map Value.spelled).Pairwise fun earlier later =>
      earlier.sameKey later = false) :
    IsSpelledOnce timings := by
  intro key member other otherMember writes
  rw [List.pairwise_map] at distinct
  have notSame : key ≠ other := by
    rintro rfl
    obtain ⟨number, isInteger, _⟩ := id writes
    exact writes.not_isInteger ⟨number, isInteger⟩
  have goesBothWays : Std.Symm fun left right : Value =>
      left.spelled.sameKey right.spelled = false :=
    ⟨fun left right apart => (Value.sameKey_comm _ _).trans apart⟩
  have different := distinct.forall member otherMember notSame
  rw [writes.sameKey_spelled] at different
  cases different

theorem map_fst_spelled :
    (timings.map fun entry => (entry.1.spelled, entry.2)).map Prod.fst =
      timings.keys.map Value.spelled := by
  rw [Ledger.map, Ledger.keys, Ledger.map, List.map_map, List.map_map]
  rfl

/-- Integers that are spelled out leave a summary as it is if they stay different
widths. -/
theorem IsSpelledOnce.ofTimings_spellOut
    (once : IsSpelledOnce timings)
    (short : ∀ key ∈ timings.keys, key.IsShort) :
    ofTimings (spellOut timings) = ofTimings timings := by
  have distinct := once.distinct_spelled short
  rw [← map_fst_spelled] at distinct
  rw [ofTimings, ofTimings, spellOut, Ledger.toList_ofEntries_of_distinct distinct,
    Ledger.map]
  apply ofEntries_congr
  rw [List.forall₂_map_left_iff, List.forall₂_same]
  intro entry member
  exact ofEntry_congr (short entry.1 (List.mem_map_of_mem member)).toInteger_spelled rfl

/-- A summary stays as it is only if no width is lost and no integer is too long. -/
theorem short_and_once_of_ofTimings_spellOut
    {found : Table}
    (succeeded : ofTimings timings = .ok found)
    (same : ofTimings (spellOut timings) = .ok found) :
    (∀ key ∈ timings.keys, key.IsShort) ∧ IsSpelledOnce timings := by
  have sameLength := (length_rows same).symm.trans (length_rows succeeded)
  -- As many rows as before means that the spelled out widths are all different.
  have distinct : ((timings.map fun entry => (entry.1.spelled, entry.2)).map
      Prod.fst).Pairwise fun earlier later => earlier.sameKey later = false := by
    rw [← Ledger.length_ofEntries_eq_iff, Ledger.map, List.length_map]
    exact sameLength
  constructor
  · have answered := exists_table_iff.mp ⟨found, same⟩
    rw [spellOut, Ledger.toList_ofEntries_of_distinct distinct] at answered
    intro key member
    obtain ⟨entry, inTimings, rfl⟩ := List.mem_map.mp member
    obtain ⟨row, summarised⟩ := answered _ (List.mem_map_of_mem inTimings)
    have read := (ofEntry_eq_ok_iff.mp summarised).width.toInteger_eq
    exact Value.isShort_of_spelled read
  · rw [map_fst_spelled] at distinct
    exact isSpelledOnce_of_distinct distinct

end Timings

/-- A printable text of at most 4300 characters is a width exactly if it is a numeral:
blanks, a sign or none, digits of which two may have an underscore between them, and
blanks. Its row is that of the integer that it writes, which may stand in its place.
Every other such text is refused, whatever comes after it. Integers that are spelled out
leave a summary as it is if none has too many digits and no width is already the numeral
of one of them, and only then. -/
theorem text_widths_mean_integers
    {content : String}
    {samples : List Sample}
    (printable : Text.IsPrintableAscii content)
    (short : content.length ≤ 4300)
    (convertible : ¬∃ sample ∈ samples, sample.IsTooLarge)
    (nonempty : samples ≠ []) :
    (∀ (timings others : Timings) (before after : List (Value × List Sample)),
      timings.toList = before ++ (.text content, samples) :: after →
      others.toList = before ++ after → (∃ found, ofTimings others = .ok found) →
      ((∃ found, ofTimings timings = .ok found) ↔
        ∃ negative digits, ascii.Numeral content.toList negative digits)) ∧
    (∀ negative digits, ascii.Numeral content.toList negative digits →
      let width := Decimal.Alphabet.integer negative digits
      (∃ row, ofEntry (.text content, samples) = .ok row ∧
        ofEntry (.integer width, samples) = .ok row) ∧
      ∀ (timings others : Timings) (before after : List (Value × List Sample)),
        timings.toList = before ++ (.text content, samples) :: after →
        others.toList = before ++ (.integer width, samples) :: after →
        ofTimings timings = ofTimings others) ∧
    ((¬∃ negative digits, ascii.Numeral content.toList negative digits) →
      ∀ (timings earlier : Timings) (after : List (Value × List Sample)),
        timings.toList = earlier.toList ++ (.text content, samples) :: after →
        (∃ found, ofTimings earlier = .ok found) →
        ∃ fault, ofTimings timings = .error fault ∧ fault.kind = .value ∧
          fault.message = "invalid literal for int() with base 10: " ++
            Text.Quoted.clip Fault.shownLength (Text.Quoted.literal content)) ∧
    ∀ timings : Timings,
      ((∀ key ∈ timings.keys, key.IsShort) → IsSpelledOnce timings →
        ofTimings (spellOut timings) = ofTimings timings) ∧
      ∀ found, ofTimings timings = .ok found →
        ofTimings (spellOut timings) = .ok found →
        (∀ key ∈ timings.keys, key.IsShort) ∧ IsSpelledOnce timings := by
  have refused
      (noNumeral : ¬∃ negative digits, ascii.Numeral content.toList negative digits) :
      ofEntry (.text content, samples) =
        .error (.malformedNumeral (Text.Quoted.literal content)) :=
    ofEntry_of_refused convertible
      (Value.toInteger_of_no_numeral printable short noNumeral)
  refine ⟨?_, ?_, ?_, ?_⟩
  · intro timings others before after split without succeeded
    rw [ofTimings, without] at succeeded
    rw [ofTimings, split, exists_table_insert_iff succeeded]
    constructor
    · rintro ⟨row, summarised⟩
      by_contra noNumeral
      rw [refused noNumeral] at summarised
      cases summarised
    · rintro ⟨negative, digits, numeral⟩
      exact exists_row convertible
        (Value.toInteger_of_numeral printable short numeral) nonempty
  · intro negative digits numeral
    have read := Value.toInteger_of_numeral printable short numeral
    have hasRow : ∃ row, ofEntry (.text content, samples) = .ok row :=
      exists_row convertible read nonempty
    obtain ⟨row, summarised⟩ := hasRow
    have same : ofEntry (.text content, samples) =
        ofEntry (.integer (Decimal.Alphabet.integer negative digits), samples) :=
      ofEntry_congr read rfl
    refine ⟨⟨row, summarised, same ▸ summarised⟩, ?_⟩
    intro timings others before after split replaced
    rw [ofTimings, ofTimings, split, replaced]
    exact ofEntries_replace same before after
  · intro noNumeral timings earlier after split succeeded
    refine ⟨.malformedNumeral (Text.Quoted.literal content), ?_, rfl, rfl⟩
    rw [ofTimings, split]
    exact ofEntries_of_first_fault (exists_table_iff.mp succeeded) (refused noNumeral) after
  · intro timings
    exact ⟨fun shortIntegers once => once.ofTimings_spellOut shortIntegers,
      fun _ => short_and_once_of_ofTimings_spellOut⟩

/-- Two widths of which one is the numeral of the other. -/
def repeatedTimings : Timings where
  toList := [(.integer 1, [.real Binary64.one]), (.text "1", [.real Binary64.one])]
  distinct := by decide

/-- An integer whose numeral has too many digits as the only width. -/
def longTimings : Timings where
  toList := [(.integer (10 ^ maxDigits : Nat), [.real Binary64.one])]
  distinct := List.pairwise_singleton _ _

/-- The two widths are the same key once they are spelled out, and one row is lost. The
numeral of the long integer cannot be read. -/
theorem spellOut_changes_summary :
    (∃ found fewer,
      ofTimings repeatedTimings = .ok found ∧ found.rows.length = 2 ∧
      ofTimings (spellOut repeatedTimings) = .ok fewer ∧ fewer.rows.length = 1) ∧
    ∃ found,
      ofTimings longTimings = .ok found ∧ ofTimings (spellOut longTimings) ≠ .ok found := by
  have convertible : ¬∃ sample ∈ [.real Binary64.one], Sample.IsTooLarge sample := by
    rintro ⟨sample, member, large⟩
    rw [List.mem_singleton.mp member] at large
    exact large
  have ofInteger (number : Int) :
      ∃ row, ofEntry (.integer number, [.real Binary64.one]) = .ok row :=
    exists_row convertible rfl nofun
  constructor
  · have means : (Value.text "1").toInteger = .ok 1 := by decide +kernel
    have ofText : ∃ row, ofEntry (.text "1", [.real Binary64.one]) = .ok row :=
      exists_row convertible means nofun
    have spelled : (spellOut repeatedTimings).toList =
        [(.text "1", [.real Binary64.one])] := rfl
    obtain ⟨found, shown⟩ := exists_table_iff.mpr
      (List.forall_mem_cons.mpr ⟨ofInteger 1, List.forall_mem_singleton.mpr ofText⟩)
    obtain ⟨fewer, fewerShown⟩ :=
      exists_table_iff.mpr (List.forall_mem_singleton.mpr ofText)
    refine ⟨found, fewer, shown, length_rows shown, ?_, length_rows fewerShown⟩
    rw [ofTimings, spelled, fewerShown]
  · have answered : ∃ found, ofTimings longTimings = .ok found :=
      exists_table_iff.mpr (List.forall_mem_singleton.mpr (ofInteger _))
    obtain ⟨found, shown⟩ := answered
    refine ⟨found, shown, fun same => ?_⟩
    obtain ⟨short, _⟩ := short_and_once_of_ofTimings_spellOut shown same
    have less := short _ List.mem_cons_self _ (.proper _)
    rw [Int.natAbs_natCast] at less
    exact Nat.lt_irrefl _ less

/-- A negative integer as a width, and the numeral of another one. -/
def mixedTimings : Timings where
  toList := [(.integer (-42), [.missing]), (.text "7", [.flag true])]
  distinct := by decide

/-- A negative numeral with blanks, a leading zero and an underscore means the integer. -/
theorem blankNumeral_means_integer :
    Text.IsPrintableAscii " -0_42 " ∧
      (∃ row, ofEntry (.text " -0_42 ", [.missing, .flag true]) = .ok row ∧
        ofEntry (.integer (-42), [.missing, .flag true]) = .ok row) ∧
      (∃ found, ofTimings
        (Ledger.ofEntries Value.sameKey [(.text " -0_42 ", [.missing, .flag true])]) =
          .ok found) ∧
      (∀ key ∈ mixedTimings.keys, key.IsShort) ∧ IsSpelledOnce mixedTimings ∧
      ofTimings (spellOut mixedTimings) = ofTimings mixedTimings := by
  have printable : Text.IsPrintableAscii " -0_42 " := by decide +kernel
  have convertible : ¬∃ sample ∈ [.missing, .flag true], Sample.IsTooLarge sample := by
    rintro ⟨sample, member, large⟩
    have small : sample = .missing ∨ sample = .flag true := by simpa using member
    rcases small with rfl | rfl <;> exact large
  have blank : ∀ character ∈ [' '], ascii.isBlank character = true :=
    List.forall_mem_singleton.mpr rfl
  have numeral : ascii.Numeral ([' '] ++ (['-'] ++ (['0', '_', '4', '2'] ++ [' ']))) true
      [0, 4, 2] :=
    .between blank .minus (.divided rfl (.next rfl (.last rfl))) blank
  have shortIntegers : ∀ key ∈ mixedTimings.keys, key.IsShort := by
    refine List.forall_mem_cons.mpr ⟨?_, List.forall_mem_singleton.mpr ?_⟩
    · rintro _ ⟨⟩
      decide +kernel
    · rintro _ ⟨⟩
  have once : IsSpelledOnce mixedTimings := by
    intro key member other otherMember ⟨number, isInteger, alike⟩
    rcases List.mem_pair.mp otherMember with rfl | rfl
    · cases isInteger
      rcases List.mem_pair.mp member with rfl | rfl
      · cases alike
      · rw [Value.sameKey_text] at alike
        exact absurd alike (by decide +kernel)
    · cases isInteger
  obtain ⟨accepted, means, _, spelledOut⟩ :=
    text_widths_mean_integers printable (by decide) convertible nofun
  exact ⟨printable, (means _ _ numeral).1,
    (accepted _ Ledger.empty [] [] rfl rfl ⟨_, rfl⟩).mpr ⟨_, _, numeral⟩,
    shortIntegers, once, (spelledOut mixedTimings).1 shortIntegers once⟩

end WidthSummary
end Readout
