import Mathlib.Data.Nat.Digits.Defs
import Readout.Decimal.Reader

/-!
# Numerals and the numbers they write

A numeral is a run of digits between blanks. A sign may stand in front of the digits,
and single underscores between them. The texts that are read as integers are exactly
the numerals of at most `maxDigits` digits, each as the number of its sign and its
digits. The text of an integer is one of its numerals. Among the printable characters
of ASCII only the space is blank, and only `0` to `9` are digits.
-/

namespace Readout
namespace Decimal

/-! ## Numerals -/

/-- Which characters are blank and which are digits. -/
structure Alphabet where
  /-- Whether a character is blank. -/
  isBlank : Char → Bool
  /-- What a digit is worth; nothing for other characters. -/
  digit? : Char → Option Nat

namespace Alphabet

/-- The blanks and the digits of every script. -/
def everyScript : Alphabet where
  isBlank := Text.isBlank
  digit? := Text.digitValue?

/-- The space and the digits from `0` to `9`. -/
def ascii : Alphabet where
  isBlank character := character = ' '
  digit? character :=
    if character.isDigit then some (character.toNat - '0'.toNat) else none

section Grammar

variable (alphabet : Alphabet)

/-- One or more digits, two of which may have an underscore between them. -/
inductive Grouped : List Char → List Nat → Prop
  | last
      {character : Char}
      {digit : Nat}
      (worth : alphabet.digit? character = some digit) :
      Grouped [character] [digit]
  | next
      {character : Char}
      {digit : Nat}
      {rest : List Char}
      {digits : List Nat}
      (worth : alphabet.digit? character = some digit)
      (following : Grouped rest digits) :
      Grouped (character :: rest) (digit :: digits)
  | divided
      {character : Char}
      {digit : Nat}
      {rest : List Char}
      {digits : List Nat}
      (worth : alphabet.digit? character = some digit)
      (following : Grouped rest digits) :
      Grouped (character :: '_' :: rest) (digit :: digits)

/-- What may stand in front of the digits, and whether it is a minus. -/
inductive Sign : List Char → Bool → Prop
  | absent : Sign [] false
  | plus : Sign ['+'] false
  | minus : Sign ['-'] true

/-- A text is a numeral with a sign and with these digits, highest first. -/
inductive Numeral : List Char → Bool → List Nat → Prop
  | between
      {before sign body after : List Char}
      {negative : Bool}
      {digits : List Nat}
      (blankBefore : ∀ character ∈ before, alphabet.isBlank character = true)
      (signed : Sign sign negative)
      (grouped : Grouped alphabet body digits)
      (blankAfter : ∀ character ∈ after, alphabet.isBlank character = true) :
      Numeral (before ++ (sign ++ (body ++ after))) negative digits

end Grammar

/-- The integer of a sign and of digits, highest first. -/
def integer (negative : Bool) (digits : List Nat) : Int :=
  if negative then -(Nat.ofDigits 10 digits.reverse : Nat)
  else (Nat.ofDigits 10 digits.reverse : Nat)

variable {left right alphabet : Alphabet} {characters : List Char} {digits : List Nat}

/-! ## Alphabets that agree on a text -/

theorem Grouped.congr
    (same : ∀ character ∈ characters, left.digit? character = right.digit? character)
    (grouped : left.Grouped characters digits) :
    right.Grouped characters digits := by
  induction grouped with
  | last worth =>
      rw [same _ List.mem_cons_self] at worth
      exact .last worth
  | next worth _ inductionHypothesis =>
      rw [same _ List.mem_cons_self] at worth
      exact .next worth (inductionHypothesis fun other member =>
        same other (List.mem_cons_of_mem _ member))
  | divided worth _ inductionHypothesis =>
      rw [same _ List.mem_cons_self] at worth
      exact .divided worth (inductionHypothesis fun other member =>
        same other (List.mem_cons_of_mem _ (List.mem_cons_of_mem _ member)))

/-- A text is a numeral in every alphabet that treats its characters alike. -/
theorem Numeral.congr
    {negative : Bool}
    (sameBlank : ∀ character ∈ characters,
      left.isBlank character = right.isBlank character)
    (sameDigit : ∀ character ∈ characters,
      left.digit? character = right.digit? character)
    (numeral : left.Numeral characters negative digits) :
    right.Numeral characters negative digits := by
  cases numeral with
  | between blankBefore signed grouped blankAfter =>
      simp only [List.mem_append] at sameBlank sameDigit
      refine .between ?_ signed (grouped.congr ?_) ?_
      · intro character member
        rw [← sameBlank character (by simp [member])]
        exact blankBefore character member
      · intro character member
        exact sameDigit character (by simp [member])
      · intro character member
        rw [← sameBlank character (by simp [member])]
        exact blankAfter character member

/-- There are no more digits than characters. -/
theorem Grouped.length_le (grouped : alphabet.Grouped characters digits) :
    digits.length ≤ characters.length := by
  induction grouped with
  | last => exact Nat.le_refl 1
  | next _ _ inductionHypothesis => exact Nat.succ_le_succ inductionHypothesis
  | divided _ _ inductionHypothesis =>
      simp only [List.length_cons]
      omega

theorem Numeral.length_le
    {negative : Bool}
    (numeral : alphabet.Numeral characters negative digits) :
    digits.length ≤ characters.length := by
  cases numeral with
  | between _ _ grouped _ =>
      have atMost := grouped.length_le
      simp only [List.length_append]
      omega

end Alphabet

/-! ## Classes of characters -/

/-- The digits of every script lie apart from the blanks. -/
theorem isBlank_eq_false_of_digit
    {character : Char}
    {digit : Nat}
    (worth : Text.digitValue? character = some digit) :
    Text.isBlank character = false := by
  have apart : ∀ first ∈ Text.zeroDigits, ∀ range ∈ Text.blankRanges,
      first + 9 < range.1 ∨ range.2 < first := by
    decide +kernel
  obtain ⟨first, found, _⟩ := Option.map_eq_some_iff.mp worth
  have inside := List.find?_some found
  rw [decide_eq_true_eq] at inside
  rw [Text.isBlank, Bool.eq_false_iff, ne_eq, Text.inRanges_iff Text.follow_blankRanges]
  rintro ⟨range, member, low, high⟩
  have := apart first (List.mem_of_find?_eq_some found) range member
  omega

/-- A digit is none of the characters that are no digits. -/
theorem ne_of_digit
    {character other : Char}
    {digit : Nat}
    (worth : Text.digitValue? character = some digit)
    (worthless : Text.digitValue? other = none) :
    character ≠ other := by
  rintro rfl
  rw [worthless] at worth
  cases worth

/-- A printable character of ASCII is blank only if it is the space. -/
theorem isBlank_of_printable
    {character : Char}
    (low : 32 ≤ character.toNat)
    (high : character.toNat ≤ 126) :
    Alphabet.everyScript.isBlank character = Alphabet.ascii.isBlank character := by
  have table : ∀ code < 127, 32 ≤ code →
      Text.inRanges code Text.blankRanges = decide (code = 32) := by
    decide +kernel
  have isSpace : character = ' ' ↔ character.toNat = 32 := Char.toNat_inj.symm
  change Text.inRanges character.toNat Text.blankRanges = decide (character = ' ')
  rw [table _ (by omega) low]
  simp only [isSpace]

/-- A printable character of ASCII is a digit only if it is one of `0` to `9`. -/
theorem digit?_of_printable
    {character : Char}
    (high : character.toNat ≤ 126) :
    Alphabet.everyScript.digit? character = Alphabet.ascii.digit? character := by
  have table : ∀ code < 127,
      (Text.zeroDigits.find? fun first =>
        decide (first ≤ code ∧ code < first + 10)).map (code - ·) =
          if 48 ≤ code ∧ code ≤ 57 then some (code - 48) else none := by
    decide +kernel
  have isDigit : character.isDigit = true ↔ 48 ≤ character.toNat ∧ character.toNat ≤ 57 := by
    simp only [Char.isDigit, Bool.and_eq_true, decide_eq_true_eq, ge_iff_le, UInt32.le_iff_toNat_le]
    rfl
  change Text.digitValue? character =
    if character.isDigit then some (character.toNat - '0'.toNat) else none
  rw [Text.digitValue?, table _ (by omega)]
  simp only [isDigit]
  rfl

/-! ## Reading digits -/

open Alphabet

section Digits

variable {run : List Char} {digits : List Nat}

/-- What may follow a digit: nothing, further digits, or an underscore and further
digits. -/
def Continued (run : List Char) (digits : List Nat) : Prop :=
  (run = [] ∧ digits = []) ∨ everyScript.Grouped run digits ∨
    ∃ rest, run = '_' :: rest ∧ everyScript.Grouped rest digits

theorem grouped_cons_iff {character : Char} :
    everyScript.Grouped (character :: run) digits ↔
      ∃ digit following, Text.digitValue? character = some digit ∧
        Continued run following ∧ digit :: following = digits := by
  constructor
  · rintro (worth | ⟨worth, following⟩ | ⟨worth, following⟩)
    · exact ⟨_, [], worth, .inl ⟨rfl, rfl⟩, rfl⟩
    · exact ⟨_, _, worth, .inr (.inl following), rfl⟩
    · exact ⟨_, _, worth, .inr (.inr ⟨_, rfl, following⟩), rfl⟩
  · rintro ⟨digit, following, worth, ⟨rfl, rfl⟩ | grouped | ⟨rest, rfl, grouped⟩, rfl⟩
    · exact .last worth
    · exact .next worth grouped
    · exact .divided worth grouped

theorem digits?_cons_of_digit
    {character : Char}
    {digit : Nat}
    (afterDigit : Bool)
    (worth : Text.digitValue? character = some digit) :
    digits? afterDigit (character :: run) = some digits ↔
      ∃ following, digits? true run = some following ∧ digit :: following = digits := by
  simp only [digits?, worth, Option.map_eq_some_iff]

theorem digits?_cons_of_other
    {character : Char}
    (afterDigit : Bool)
    (worthless : Text.digitValue? character = none) :
    digits? afterDigit (character :: run) = some digits ↔
      character = '_' ∧ afterDigit = true ∧ digits? false run = some digits := by
  simp only [digits?, worthless, Option.ite_none_right_eq_some, Bool.and_eq_true,
    decide_eq_true_eq, and_assoc]

/-- Digits are read exactly where they are grouped. Behind a digit the text may also
be at its end, or go on with an underscore. -/
theorem digits?_eq_some_iff :
    (digits? false run = some digits ↔ everyScript.Grouped run digits) ∧
      (digits? true run = some digits ↔ Continued run digits) := by
  -- A digit leads to the second statement and an underscore back to the first one, so
  -- neither can be shown without the other.
  induction run generalizing digits with
  | nil =>
      refine ⟨⟨nofun, nofun⟩, ?_⟩
      constructor
      · rintro ⟨⟩
        exact .inl ⟨rfl, rfl⟩
      · rintro (⟨_, rfl⟩ | grouped | ⟨_, underscore, _⟩)
        · rfl
        · cases grouped
        · cases underscore
  | cons character rest inductionHypothesis =>
      rw [Continued, grouped_cons_iff]
      cases worth : Text.digitValue? character with
      | some digit =>
          have notUnderscore : character ≠ '_' := ne_of_digit worth (by decide +kernel)
          rw [digits?_cons_of_digit false worth, digits?_cons_of_digit true worth]
          simp [inductionHypothesis.2, notUnderscore]
      | none =>
          rw [digits?_cons_of_other false worth, digits?_cons_of_other true worth]
          simp [inductionHypothesis.1]

end Digits

/-! ## Reading numerals -/

/-- The value of digits, highest first, is that of the reversed digits, lowest
first. -/
theorem ofDigits_eq (digits : List Nat) :
    ofDigits digits = Nat.ofDigits 10 digits.reverse := by
  rw [ofDigits, Nat.ofDigits_eq_foldr, List.foldr_reverse]
  simp only [Nat.cast_id, Nat.add_comm]

/-- What is taken off as a sign is one. -/
theorem exists_sign (characters : List Char) :
    ∃ sign, characters = sign ++ (splitSign characters).2 ∧
      Sign sign (splitSign characters).1 := by
  unfold splitSign
  split
  · exact ⟨['+'], rfl, .plus⟩
  · exact ⟨['-'], rfl, .minus⟩
  · exact ⟨[], rfl, .absent⟩

section Reading

variable {characters : List Char} {number : Int} {negative : Bool} {digits : List Nat}

/-- A text is read where its run of digits is, if these are not too many and only
blanks are behind them. -/
theorem read_eq_ok_iff_run :
    read characters = .ok number ↔
      ∃ digits,
        digits? false ((splitSign (characters.dropWhile Text.isBlank)).2.takeWhile
          isNumeralCharacter) = some digits ∧
        digits.length ≤ maxDigits ∧
        (∀ character ∈
          (splitSign (characters.dropWhile Text.isBlank)).2.dropWhile isNumeralCharacter,
          Text.isBlank character = true) ∧
        integer (splitSign (characters.dropWhile Text.isBlank)).1 digits = number := by
  unfold read
  simp only [integer, ← ofDigits_eq]
  generalize splitSign (characters.dropWhile Text.isBlank) = signed
  cases digits? false (signed.2.takeWhile isNumeralCharacter) with
  | none => simp
  | some digits =>
      simp only [Option.some.injEq, exists_eq_left', ← List.all_eq_true]
      by_cases few : digits.length ≤ maxDigits
      · rw [if_neg (Nat.not_lt.mpr few)]
        by_cases blank : (signed.2.dropWhile isNumeralCharacter).all Text.isBlank = true
        · simp only [blank, few, if_true, true_and, Except.ok.injEq]
        · simp [blank]
      · rw [if_pos (Nat.not_le.mp few)]
        simp [few]

/-- What is read as an integer is a numeral of it. -/
theorem exists_numeral_of_read (succeeded : read characters = .ok number) :
    ∃ negative digits, everyScript.Numeral characters negative digits ∧
      digits.length ≤ maxDigits ∧ integer negative digits = number := by
  obtain ⟨digits, taken, few, blankAfter, same⟩ := read_eq_ok_iff_run.mp succeeded
  obtain ⟨sign, split, signed⟩ := exists_sign (characters.dropWhile Text.isBlank)
  have blankBefore : ∀ character ∈ characters.takeWhile Text.isBlank,
      Text.isBlank character = true :=
    List.all_eq_true.mp List.all_takeWhile
  have numeral : everyScript.Numeral _ _ digits :=
    .between blankBefore signed (digits?_eq_some_iff.1.mp taken) blankAfter
  rw [List.takeWhile_append_dropWhile, ← split, List.takeWhile_append_dropWhile]
    at numeral
  exact ⟨_, digits, numeral, few, same⟩

/-- The first character of grouped digits is a digit, and all of them may stand in a
numeral. -/
theorem exists_first_of_grouped (grouped : everyScript.Grouped characters digits) :
    ∃ first rest digit, characters = first :: rest ∧
      Text.digitValue? first = some digit ∧
      ∀ character ∈ characters, isNumeralCharacter character = true := by
  have ofDigit {character : Char} {digit : Nat}
      (worth : everyScript.digit? character = some digit) :
      isNumeralCharacter character = true := by
    change Text.digitValue? character = some digit at worth
    simp [isNumeralCharacter, worth]
  induction grouped with
  | last worth =>
      refine ⟨_, _, _, rfl, worth, ?_⟩
      simpa using ofDigit worth
  | next worth _ inductionHypothesis =>
      obtain ⟨_, _, _, _, _, others⟩ := inductionHypothesis
      exact ⟨_, _, _, rfl, worth, List.forall_mem_cons.mpr ⟨ofDigit worth, others⟩⟩
  | divided worth _ inductionHypothesis =>
      obtain ⟨_, _, _, _, _, others⟩ := inductionHypothesis
      have underscore : isNumeralCharacter '_' = true := rfl
      exact ⟨_, _, _, rfl, worth, List.forall_mem_cons.mpr
        ⟨ofDigit worth, List.forall_mem_cons.mpr ⟨underscore, others⟩⟩⟩

/-- A blank does not belong to the digits. -/
theorem isNumeralCharacter_of_blank
    {character : Char}
    (blank : Text.isBlank character = true) :
    isNumeralCharacter character = false := by
  have notUnderscore : character ≠ '_' := by
    rintro rfl
    exact absurd blank (by decide +kernel)
  have noDigit : Text.digitValue? character = none := by
    cases worth : Text.digitValue? character with
    | none => rfl
    | some digit =>
        rw [isBlank_eq_false_of_digit worth] at blank
        cases blank
  simp [isNumeralCharacter, notUnderscore, noDigit]

/-- The run of digits ends where the blanks begin. -/
theorem takeWhile_append_blanks
    {body after : List Char}
    (inside : ∀ character ∈ body, isNumeralCharacter character = true)
    (blankAfter : ∀ character ∈ after, Text.isBlank character = true) :
    (body ++ after).takeWhile isNumeralCharacter = body ∧
      (body ++ after).dropWhile isNumeralCharacter = after := by
  rw [List.takeWhile_append_of_pos inside, List.dropWhile_append_of_pos inside]
  cases after with
  | nil => exact ⟨List.append_nil body, rfl⟩
  | cons first rest =>
      have outside : ¬isNumeralCharacter first = true := by
        rw [isNumeralCharacter_of_blank (blankAfter first List.mem_cons_self)]
        exact Bool.false_ne_true
      rw [List.takeWhile_cons_of_neg outside, List.dropWhile_cons_of_neg outside,
        List.append_nil]
      exact ⟨rfl, rfl⟩

/-- A sign in front of a digit is not blank and is taken off. -/
theorem splitSign_append
    {sign : List Char}
    {first : Char}
    {digit : Nat}
    (body : List Char)
    (signed : Sign sign negative)
    (worth : Text.digitValue? first = some digit) :
    (sign ++ first :: body).dropWhile Text.isBlank = sign ++ first :: body ∧
      splitSign (sign ++ first :: body) = (negative, first :: body) := by
  cases signed with
  | plus => exact ⟨rfl, rfl⟩
  | minus => exact ⟨rfl, rfl⟩
  | absent =>
      have notPlus : first ≠ '+' := ne_of_digit worth (by decide +kernel)
      have notMinus : first ≠ '-' := ne_of_digit worth (by decide +kernel)
      have notBlank : ¬Text.isBlank first = true := by
        rw [isBlank_eq_false_of_digit worth]
        exact Bool.false_ne_true
      refine ⟨List.dropWhile_cons_of_neg notBlank, ?_⟩
      unfold splitSign
      split
      · rename_i same
        exact absurd (List.cons.inj same).1 notPlus
      · rename_i same
        exact absurd (List.cons.inj same).1 notMinus
      · rfl

/-- The run of digits in a numeral is that of its digits, behind its sign and in front
of blanks. -/
theorem run_of_numeral (numeral : everyScript.Numeral characters negative digits) :
    digits? false ((splitSign (characters.dropWhile Text.isBlank)).2.takeWhile
        isNumeralCharacter) = some digits ∧
      (∀ character ∈
        (splitSign (characters.dropWhile Text.isBlank)).2.dropWhile isNumeralCharacter,
        Text.isBlank character = true) ∧
      (splitSign (characters.dropWhile Text.isBlank)).1 = negative := by
  cases numeral with
  | @between before sign body after _ _ blankBefore signed grouped blankAfter =>
      obtain ⟨first, rest, digit, rfl, worth, inside⟩ := exists_first_of_grouped grouped
      obtain ⟨notBlank, split⟩ := splitSign_append (rest ++ after) signed worth
      obtain ⟨taken, left⟩ := takeWhile_append_blanks inside blankAfter
      have skipped : (before ++ (sign ++ (first :: rest ++ after))).dropWhile Text.isBlank =
          sign ++ (first :: rest ++ after) :=
        (List.dropWhile_append_of_pos blankBefore).trans notBlank
      rw [skipped, List.cons_append, split, ← List.cons_append, taken, left]
      exact ⟨digits?_eq_some_iff.1.mpr grouped, blankAfter, rfl⟩

/-- A numeral without too many digits is read as the integer that it writes. -/
theorem read_of_numeral
    (numeral : everyScript.Numeral characters negative digits)
    (few : digits.length ≤ maxDigits) :
    read characters = .ok (integer negative digits) := by
  obtain ⟨taken, blankAfter, sign⟩ := run_of_numeral numeral
  exact read_eq_ok_iff_run.mpr ⟨digits, taken, few, blankAfter, by rw [sign]⟩

/-- A numeral that is read does not have too many digits. -/
theorem length_le_of_read
    (numeral : everyScript.Numeral characters negative digits)
    (succeeded : read characters = .ok number) :
    digits.length ≤ maxDigits := by
  obtain ⟨taken, _, _⟩ := run_of_numeral numeral
  obtain ⟨run, sameRun, few, _⟩ := read_eq_ok_iff_run.mp succeeded
  obtain rfl := Option.some.inj (taken.symm.trans sameRun)
  exact few

/-- A text is read as an integer exactly if it is a numeral of it that does not have
too many digits. -/
theorem read_eq_ok_iff :
    read characters = .ok number ↔
      ∃ negative digits, everyScript.Numeral characters negative digits ∧
        digits.length ≤ maxDigits ∧ integer negative digits = number := by
  constructor
  · exact exists_numeral_of_read
  · rintro ⟨negative, digits, numeral, few, rfl⟩
    exact read_of_numeral numeral few

end Reading

/-! ## Texts of printable ASCII characters -/

/-- A text of printable ASCII characters is a numeral exactly if it is one of the space
and the digits from `0` to `9`. -/
theorem numeral_iff_of_printable
    {characters : List Char}
    {negative : Bool}
    {digits : List Nat}
    (printable : ∀ character ∈ characters,
      32 ≤ character.toNat ∧ character.toNat ≤ 126) :
    everyScript.Numeral characters negative digits ↔
      ascii.Numeral characters negative digits := by
  have sameBlank : ∀ character ∈ characters,
      everyScript.isBlank character = ascii.isBlank character :=
    fun character member =>
      isBlank_of_printable (printable character member).1 (printable character member).2
  have sameDigit : ∀ character ∈ characters,
      everyScript.digit? character = ascii.digit? character :=
    fun character member => digit?_of_printable (printable character member).2
  constructor
  · exact Numeral.congr sameBlank sameDigit
  · exact Numeral.congr (fun character member => (sameBlank character member).symm)
      (fun character member => (sameDigit character member).symm)

/-! ## The numeral of an integer -/

theorem grouped_of_isDigit
    {characters : List Char}
    (nonempty : characters ≠ [])
    (areDigits : ∀ character ∈ characters, character.isDigit = true) :
    ascii.Grouped characters
      (characters.map fun character => character.toNat - '0'.toNat) := by
  induction characters with
  | nil => exact absurd rfl nonempty
  | cons first rest inductionHypothesis =>
      obtain ⟨isDigit, others⟩ := List.forall_mem_cons.mp areDigits
      have worth : ascii.digit? first = some (first.toNat - '0'.toNat) := if_pos isDigit
      rw [List.map_cons]
      by_cases alone : rest = []
      · rw [alone]
        exact .last worth
      · exact .next worth (inductionHypothesis alone others)

/-- The digits written for a natural number have it as their value. -/
theorem exists_grouped_toDigits (natural : Nat) :
    ∃ digits, ascii.Grouped (Nat.toDigits 10 natural) digits ∧
      digits.length = (Nat.toDigits 10 natural).length ∧
      Nat.ofDigits 10 digits.reverse = natural := by
  refine ⟨_, grouped_of_isDigit Nat.toDigits_ne_nil fun character member =>
    Nat.isDigit_of_mem_toDigits (by decide) (by decide) member, List.length_map _, ?_⟩
  rw [← ofDigits_eq, ofDigits, List.foldl_map, ← Nat.ofDigitChars_eq_foldl,
    Nat.ofDigitChars_ten_toDigits]

/-- The text of an integer is a numeral of it without blanks. -/
theorem exists_numeral_characters (number : Int) :
    ∃ negative digits, ascii.Numeral (characters number) negative digits ∧
      digits.length = (Nat.toDigits 10 number.natAbs).length ∧
      integer negative digits = number := by
  have noBlank : ∀ character ∈ ([] : List Char), ascii.isBlank character = true := nofun
  cases number with
  | ofNat natural =>
      obtain ⟨digits, grouped, counted, value⟩ := exists_grouped_toDigits natural
      have numeral : ascii.Numeral _ false digits := .between noBlank .absent grouped noBlank
      rw [List.append_nil] at numeral
      exact ⟨false, digits, numeral, counted, congrArg Int.ofNat value⟩
  | negSucc predecessor =>
      obtain ⟨digits, grouped, counted, value⟩ := exists_grouped_toDigits (predecessor + 1)
      have numeral : ascii.Numeral _ true digits := .between noBlank .minus grouped noBlank
      rw [List.append_nil] at numeral
      refine ⟨true, digits, numeral, counted, ?_⟩
      rw [integer, if_pos rfl, value]
      rfl

theorem printable_characters (number : Int) :
    ∀ character ∈ characters number, 32 ≤ character.toNat ∧ character.toNat ≤ 126 := by
  have ofDigit {natural : Nat} {character : Char}
      (member : character ∈ Nat.toDigits 10 natural) :
      32 ≤ character.toNat ∧ character.toNat ≤ 126 := by
    have isDigit := Nat.isDigit_of_mem_toDigits (by decide) (by decide) member
    simp only [Char.isDigit, Bool.and_eq_true, decide_eq_true_eq, ge_iff_le,
      UInt32.le_iff_toNat_le] at isDigit
    obtain ⟨low, high⟩ := isDigit
    exact ⟨Nat.le_trans (by decide) low, Nat.le_trans high (by decide)⟩
  cases number with
  | ofNat natural => exact fun character member => ofDigit member
  | negSucc predecessor =>
      exact List.forall_mem_cons.mpr ⟨by decide, fun character member => ofDigit member⟩

/-- The text of an integer is one that every reader takes as a numeral of it. -/
theorem exists_numeral_of_integer (number : Int) :
    ∃ negative digits, everyScript.Numeral (characters number) negative digits ∧
      (digits.length ≤ maxDigits ↔ number.natAbs < 10 ^ maxDigits) ∧
      integer negative digits = number := by
  obtain ⟨negative, digits, numeral, counted, value⟩ := exists_numeral_characters number
  refine ⟨negative, digits, ?_, ?_, value⟩
  · exact (numeral_iff_of_printable (printable_characters number)).mpr numeral
  · rw [counted]
    exact Nat.length_toDigits_le_iff (by decide) (by decide)

/-- The text of an integer without too many digits is read as the integer. -/
theorem read_characters
    {number : Int}
    (short : number.natAbs < 10 ^ maxDigits) :
    read (characters number) = .ok number := by
  obtain ⟨negative, digits, numeral, few_iff, value⟩ := exists_numeral_of_integer number
  exact read_eq_ok_iff.mpr ⟨negative, digits, numeral, few_iff.mpr short, value⟩

/-- The text of an integer is read only if it does not have too many digits. -/
theorem short_of_read_characters
    {number result : Int}
    (succeeded : read (characters number) = .ok result) :
    number.natAbs < 10 ^ maxDigits := by
  obtain ⟨negative, digits, numeral, few_iff, _⟩ := exists_numeral_of_integer number
  exact few_iff.mp (length_le_of_read numeral succeeded)

end Decimal
end Readout
