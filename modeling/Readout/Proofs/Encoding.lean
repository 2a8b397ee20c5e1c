import Readout.Conversion
import Readout.Proofs.Endings
import Readout.Proofs.Packing
import Readout.Proofs.Views

/-!
# What writing a register can end in

The arguments are examined in a fixed order: both kinds, then the width, then the
number. Each demand is worded before it is tested, so that a number with too many
digits fails at the first demand that mentions it. Whether a number fits is read
off what remains of it; `Encoding` says the same by comparison with a power of
two.
-/

namespace Readout

namespace Decimal

/-- A number that can be written is written as its numeral. -/
theorem text?_of_isSpeakable
    {number : Int}
    (speakable : isSpeakable number = true) :
    text? number = some (text number) :=
  if_pos speakable

/-- A number with too many digits is not written. -/
theorem text?_of_not_isSpeakable
    {number : Int}
    (unspeakable : isSpeakable number = false) :
    text? number = none := by
  rw [text?, unspeakable, if_neg Bool.false_ne_true]

/-- A number is speakable if it is below the power of ten that has too many
digits. -/
theorem isSpeakable_iff {number : Int} :
    isSpeakable number = true ↔ number.natAbs < 10 ^ maxDigits := by
  rw [isSpeakable, decide_eq_true_iff, Nat.pow_eq]

/-- A number is not speakable if it reaches that power. -/
theorem isSpeakable_eq_false_iff {number : Int} :
    isSpeakable number = false ↔ 10 ^ maxDigits ≤ number.natAbs := by
  rw [← Bool.not_eq_true, isSpeakable_iff, Nat.not_lt]

/-- The numbers of a word have fewer digits than can be written. -/
theorem two_pow_capacity_lt : 2 ^ Word.capacity < 10 ^ maxDigits := by
  have twentyDigits : 10 ^ 20 ≤ 10 ^ maxDigits :=
    Nat.pow_le_pow_right (by decide) (by decide)
  rw [Word.capacity]
  omega

/-- Every number that fits into a word is speakable. -/
theorem isSpeakable_of_le_largest
    {number : Int}
    (nonnegative : 0 ≤ number)
    (high : number ≤ Word.largest) :
    isSpeakable number = true := by
  have bound := Word.le_largest_iff.mp high
  have fewer := two_pow_capacity_lt
  rw [Word.capacity] at bound fewer
  exact isSpeakable_iff.mpr (Nat.lt_of_le_of_lt (by omega) fewer)

/-- The width of a register that leaves the sign bit clear is speakable. -/
theorem isSpeakable_of_le_capacity
    {width : Nat}
    (short : width ≤ Word.capacity) :
    isSpeakable width = true :=
  isSpeakable_of_le_largest (Int.natCast_nonneg width)
    (Int.le_trans (Int.ofNat_le.mpr short) (by decide))

end Decimal

namespace Register

/-- The bits of an integer in a register of a given width. -/
def encode (number width : Int) : Session (List Bool) := do
  Session.require (0 ≤ width) (.nonnegativeWidth width)
  Session.require (0 ≤ number) (.nonnegativeNumber number)
  Session.require (number ≤ Word.largest) (.wordNumber number)
  let parts := Word.split number width.toNat
  Session.require (parts.2 = 0) (.fittingNumber number width)
  return parts.1

/-- What writing a register ends in, by the first demand that is not met. The
last case is the one in which there is a register. -/
inductive Encoding (number width : Value) (session : Session Value) : Prop
  | notNumber
      (noInteger : ∀ integer, ¬number.IsInteger integer)
      (ends : session.FailsWith .type
        ("`number` must be an int, got " ++ number.kind))
  | notWidth
      (integer : Int)
      (isNumber : number.IsInteger integer)
      (noInteger : ∀ size, ¬width.IsInteger size)
      (ends : session.FailsWith .type
        ("`bits` must be an int, got " ++ width.kind))
  | longWidth
      (integer size : Int)
      (isNumber : number.IsInteger integer)
      (isWidth : width.IsInteger size)
      (long : 10 ^ Decimal.maxDigits ≤ size.natAbs)
      (ends : session.FailsWith .value Fault.tooLongToWrite.message)
  | negativeWidth
      (integer size : Int)
      (isNumber : number.IsInteger integer)
      (isWidth : width.IsInteger size)
      (short : size.natAbs < 10 ^ Decimal.maxDigits)
      (negative : size < 0)
      (ends : session.RefusesWith .invalidArgument
        ("`bits` must be non-negative, but was " ++ Decimal.text size))
  | longNumber
      (integer size : Int)
      (isNumber : number.IsInteger integer)
      (isWidth : width.IsInteger size)
      (short : size.natAbs < 10 ^ Decimal.maxDigits)
      (nonnegative : 0 ≤ size)
      (long : 10 ^ Decimal.maxDigits ≤ integer.natAbs)
      (ends : session.FailsWith .value Fault.tooLongToWrite.message)
  | negativeNumber
      (integer size : Int)
      (isNumber : number.IsInteger integer)
      (isWidth : width.IsInteger size)
      (short : size.natAbs < 10 ^ Decimal.maxDigits)
      (nonnegative : 0 ≤ size)
      (shortNumber : integer.natAbs < 10 ^ Decimal.maxDigits)
      (negative : integer < 0)
      (ends : session.RefusesWith .invalidArgument
        ("`number` must be non-negative, but was " ++ Decimal.text integer))
  | largeNumber
      (integer size : Int)
      (isNumber : number.IsInteger integer)
      (isWidth : width.IsInteger size)
      (short : size.natAbs < 10 ^ Decimal.maxDigits)
      (nonnegative : 0 ≤ size)
      (shortNumber : integer.natAbs < 10 ^ Decimal.maxDigits)
      (large : 2 ^ 63 - 1 < integer)
      (ends : session.RefusesWith .invalidArgument
        ("`number` must fit into a 64-bit integer, but was " ++
          Decimal.text integer))
  | overflow
      (integer size : Int)
      (isNumber : number.IsInteger integer)
      (isWidth : width.IsInteger size)
      (short : size.natAbs < 10 ^ Decimal.maxDigits)
      (nonnegative : 0 ≤ size)
      (nonnegativeNumber : 0 ≤ integer)
      (small : integer ≤ 2 ^ 63 - 1)
      (overflows : 2 ^ size.toNat ≤ integer)
      (ends : session.RefusesWith .bitOverflow
        ("`number` (" ++ Decimal.text integer ++ ") is too large to fit into " ++
          Decimal.text size ++ " bits"))
  | written
      (integer size : Int)
      (isNumber : number.IsInteger integer)
      (isWidth : width.IsInteger size)
      (short : size.natAbs < 10 ^ Decimal.maxDigits)
      (nonnegative : 0 ≤ size)
      (nonnegativeNumber : 0 ≤ integer)
      (small : integer ≤ 2 ^ 63 - 1)
      (fits : integer < 2 ^ size.toNat)
      (bits : List Bool)
      (ends : session = pure (.ofBits bits))
      (sized : bits.length = size.toNat)
      (entries : ∀ index (inside : index < bits.length),
        bits[index] = integer.toNat.testBit index)
      (padding : ∀ index (inside : index < bits.length),
        63 ≤ index → bits[index] = false)

theorem bitsOfNumber_eq_encode
    {number width : Value}
    {integer size : Int}
    (isNumber : number.IsInteger integer)
    (isWidth : width.IsInteger size) :
    bitsOfNumber number width = encode integer size := by
  have numberRead := Value.integer?_eq_some_iff.mpr isNumber
  have widthRead := Value.integer?_eq_some_iff.mpr isWidth
  unfold bitsOfNumber Argument.integer encode
  simp only [numberRead, widthRead, pure_bind]

/-- An integer is not written with a width that is none. -/
theorem bitsOfNumber_of_not_width
    {number width : Value}
    {integer : Int}
    (isNumber : number.IsInteger integer)
    (noInteger : ∀ size, ¬width.IsInteger size) :
    (bitsOfNumber number width).FailsWith .type
      ("`bits` must be an int, got " ++ width.kind) := by
  have numberRead := Value.integer?_eq_some_iff.mpr isNumber
  have widthRead := Value.integer?_eq_none_iff.mpr noInteger
  rw [bitsOfNumber, Argument.integer, Argument.integer, numberRead, widthRead]
  exact Session.fail_failsWith (.notInteger "bits" width.kind)

/-! ## The demands one by one -/

theorem encode_of_long_width
    (number : Int)
    {width : Int}
    (unspeakable : Decimal.isSpeakable width = false) :
    (encode number width).FailsWith .value Fault.tooLongToWrite.message := by
  unfold encode
  apply Session.require_bind_failsWith
  rw [Demand.wording?, Decimal.text?_of_not_isSpeakable unspeakable]
  rfl

theorem encode_of_negative_width
    (number : Int)
    {width : Int}
    (speakable : Decimal.isSpeakable width = true)
    (negative : width < 0) :
    (encode number width).RefusesWith .invalidArgument
      ("`bits` must be non-negative, but was " ++ Decimal.text width) := by
  unfold encode
  apply Session.require_bind_refusesWith
  · rw [Demand.wording?, Decimal.text?_of_isSpeakable speakable]
    rfl
  · exact decide_eq_false (by omega)

/-- Past the first demand, the width is no longer looked at until the end. -/
theorem encode_of_width
    (number : Int)
    {width : Int}
    (speakable : Decimal.isSpeakable width = true)
    (nonnegative : 0 ≤ width) :
    encode number width = (do
      Session.require (0 ≤ number) (.nonnegativeNumber number)
      Session.require (number ≤ Word.largest) (.wordNumber number)
      let parts := Word.split number width.toNat
      Session.require (parts.2 = 0) (.fittingNumber number width)
      return parts.1) := by
  unfold encode
  apply Session.require_bind_of_met
  · rw [Demand.wording?, Decimal.text?_of_isSpeakable speakable]
    rfl
  · exact decide_eq_true nonnegative

theorem encode_of_long_number
    {number width : Int}
    (speakable : Decimal.isSpeakable width = true)
    (nonnegative : 0 ≤ width)
    (unspeakable : Decimal.isSpeakable number = false) :
    (encode number width).FailsWith .value Fault.tooLongToWrite.message := by
  rw [encode_of_width number speakable nonnegative]
  apply Session.require_bind_failsWith
  rw [Demand.wording?, Decimal.text?_of_not_isSpeakable unspeakable]
  rfl

theorem encode_of_negative_number
    {number width : Int}
    (speakable : Decimal.isSpeakable width = true)
    (nonnegative : 0 ≤ width)
    (numberSpeakable : Decimal.isSpeakable number = true)
    (negative : number < 0) :
    (encode number width).RefusesWith .invalidArgument
      ("`number` must be non-negative, but was " ++ Decimal.text number) := by
  rw [encode_of_width number speakable nonnegative]
  apply Session.require_bind_refusesWith
  · rw [Demand.wording?, Decimal.text?_of_isSpeakable numberSpeakable]
    rfl
  · exact decide_eq_false (by omega)

/-- A number that is not negative is next compared with the largest word. -/
theorem encode_of_number
    {number width : Int}
    (speakable : Decimal.isSpeakable width = true)
    (nonnegative : 0 ≤ width)
    (numberSpeakable : Decimal.isSpeakable number = true)
    (nonnegativeNumber : 0 ≤ number) :
    encode number width = (do
      Session.require (number ≤ Word.largest) (.wordNumber number)
      let parts := Word.split number width.toNat
      Session.require (parts.2 = 0) (.fittingNumber number width)
      return parts.1) := by
  rw [encode_of_width number speakable nonnegative]
  apply Session.require_bind_of_met
  · rw [Demand.wording?, Decimal.text?_of_isSpeakable numberSpeakable]
    rfl
  · exact decide_eq_true nonnegativeNumber

theorem encode_of_large_number
    {number width : Int}
    (speakable : Decimal.isSpeakable width = true)
    (nonnegative : 0 ≤ width)
    (numberSpeakable : Decimal.isSpeakable number = true)
    (large : Word.largest < number) :
    (encode number width).RefusesWith .invalidArgument
      ("`number` must fit into a 64-bit integer, but was " ++
        Decimal.text number) := by
  have nonnegativeNumber : 0 ≤ number :=
    Int.le_trans (by decide) (Int.le_of_lt large)
  rw [encode_of_number speakable nonnegative numberSpeakable nonnegativeNumber]
  apply Session.require_bind_refusesWith
  · rw [Demand.wording?, Decimal.text?_of_isSpeakable numberSpeakable]
    rfl
  · exact decide_eq_false (Int.not_le.mpr large)

/-- A number that fits into a word is split, and what remains decides. -/
theorem encode_of_word
    {number width : Int}
    (speakable : Decimal.isSpeakable width = true)
    (nonnegative : 0 ≤ width)
    (nonnegativeNumber : 0 ≤ number)
    (small : number ≤ Word.largest) :
    encode number width = (do
      let parts := Word.split number width.toNat
      Session.require (parts.2 = 0) (.fittingNumber number width)
      return parts.1) := by
  have numberSpeakable :=
    Decimal.isSpeakable_of_le_largest nonnegativeNumber small
  rw [encode_of_number speakable nonnegative numberSpeakable nonnegativeNumber]
  apply Session.require_bind_of_met
  · rw [Demand.wording?, Decimal.text?_of_isSpeakable numberSpeakable]
    rfl
  · exact decide_eq_true small

theorem fittingNumber_wording
    {number width : Int}
    (numberSpeakable : Decimal.isSpeakable number = true)
    (speakable : Decimal.isSpeakable width = true) :
    (Demand.fittingNumber number width).wording? =
      some ("`number` (" ++ Decimal.text number ++
        ") is too large to fit into " ++ Decimal.text width ++ " bits") := by
  rw [Demand.wording?, Decimal.text?_of_isSpeakable numberSpeakable,
    Decimal.text?_of_isSpeakable speakable]
  rfl

theorem encode_of_overflow
    {number width : Int}
    (speakable : Decimal.isSpeakable width = true)
    (nonnegative : 0 ≤ width)
    (nonnegativeNumber : 0 ≤ number)
    (small : number ≤ Word.largest)
    (overflows : 2 ^ width.toNat ≤ number) :
    (encode number width).RefusesWith .bitOverflow
      ("`number` (" ++ Decimal.text number ++ ") is too large to fit into " ++
        Decimal.text width ++ " bits") := by
  have numberSpeakable :=
    Decimal.isSpeakable_of_le_largest nonnegativeNumber small
  rw [encode_of_word speakable nonnegative nonnegativeNumber small]
  apply Session.require_bind_refusesWith
  · exact fittingNumber_wording numberSpeakable speakable
  · rw [decide_eq_false_iff_not,
      Word.split_snd_eq_zero_iff nonnegativeNumber small]
    exact Int.not_lt.mpr overflows

/-- A number that fits into the width is written as its bits. -/
theorem encode_of_fits
    {number width : Int}
    (speakable : Decimal.isSpeakable width = true)
    (nonnegative : 0 ≤ width)
    (nonnegativeNumber : 0 ≤ number)
    (small : number ≤ Word.largest)
    (fits : number < 2 ^ width.toNat) :
    encode number width = pure (Word.split number width.toNat).1 := by
  have numberSpeakable :=
    Decimal.isSpeakable_of_le_largest nonnegativeNumber small
  rw [encode_of_word speakable nonnegative nonnegativeNumber small]
  apply Session.require_bind_of_met
  · exact fittingNumber_wording numberSpeakable speakable
  · rw [decide_eq_true_iff, Word.split_snd_eq_zero_iff nonnegativeNumber small]
    exact fits

/-! ## Registers that are written -/

/-- A number that fits both into the width and into a word is written. -/
theorem bitsOfNumber_of_fits
    {number width : Value}
    {integer size : Int}
    (isNumber : number.IsInteger integer)
    (isWidth : width.IsInteger size)
    (short : size.natAbs < 10 ^ Decimal.maxDigits)
    (nonnegative : 0 ≤ size)
    (nonnegativeNumber : 0 ≤ integer)
    (small : integer ≤ Word.largest)
    (fits : integer < 2 ^ size.toNat) :
    bitsOfNumber number width = pure (Word.split integer size.toNat).1 := by
  rw [bitsOfNumber_eq_encode isNumber isWidth]
  exact encode_of_fits (Decimal.isSpeakable_iff.mpr short) nonnegative
    nonnegativeNumber small fits

/-- A number that fits into a width short of the sign bit is written. -/
theorem bitsOfNumber_of_short
    {number width : Value}
    {natural size : Nat}
    (isNumber : number.IsInteger natural)
    (isWidth : width.IsInteger size)
    (short : size ≤ Word.capacity)
    (fits : natural < 2 ^ size) :
    bitsOfNumber number width = pure (Word.split natural size).1 := by
  have speakable := Decimal.isSpeakable_of_le_capacity short
  exact bitsOfNumber_of_fits isNumber isWidth
    (Decimal.isSpeakable_iff.mp speakable) (Int.natCast_nonneg size)
    (Int.natCast_nonneg natural) (Word.cast_le_largest short fits)
    (by exact_mod_cast fits)

/-- The entries of a split number are the bits of the number. -/
theorem getElem_split
    {number : Int}
    {width : Nat}
    (nonnegative : 0 ≤ number)
    (small : number ≤ Word.largest)
    (fits : number < 2 ^ width)
    (index : Nat)
    (inside : index < (Word.split number width).1.length) :
    (Word.split number width).1[index] = number.toNat.testBit index := by
  obtain ⟨natural, rfl⟩ := Int.eq_ofNat_of_zero_le nonnegative
  have standsFor := Word.value_split small (by exact_mod_cast fits)
  have tested := Bits.testBit_value (Word.split natural width).1 index
  rw [standsFor, List.getD_eq_getElem?_getD, List.getElem?_eq_getElem inside,
    Option.getD_some] at tested
  exact tested.symm

theorem getElem_split_of_ge
    {number : Int}
    {width : Nat}
    (nonnegative : 0 ≤ number)
    (small : number ≤ Word.largest)
    (fits : number < 2 ^ width)
    (index : Nat)
    (inside : index < (Word.split number width).1.length)
    (high : 63 ≤ index) :
    (Word.split number width).1[index] = false := by
  have bound := Word.le_largest_iff.mp small
  rw [Word.capacity] at bound
  have below : number.toNat < 2 ^ index := by
    have powers : 2 ^ 63 ≤ 2 ^ index := Nat.pow_le_pow_right (by decide) high
    omega
  rw [getElem_split nonnegative small fits index inside]
  exact Nat.testBit_lt_two_pow below

/-! ## The whole outcome -/

/-- Two integers are written as their demands say. -/
theorem encoding_of_integers
    {number width : Value}
    {integer size : Int}
    (isNumber : number.IsInteger integer)
    (isWidth : width.IsInteger size) :
    Encoding number width (Value.ofBits <$> encode integer size) := by
  cases speakable : Decimal.isSpeakable size with
  | false =>
      have long := Decimal.isSpeakable_eq_false_iff.mp speakable
      exact .longWidth integer size isNumber isWidth long
        ((encode_of_long_width integer speakable).map _)
  | true =>
      have short := Decimal.isSpeakable_iff.mp speakable
      by_cases negative : size < 0
      · exact .negativeWidth integer size isNumber isWidth short negative
          ((encode_of_negative_width integer speakable negative).map _)
      have nonnegative : 0 ≤ size := by omega
      cases numberSpeakable : Decimal.isSpeakable integer with
      | false =>
          have long := Decimal.isSpeakable_eq_false_iff.mp numberSpeakable
          exact .longNumber integer size isNumber isWidth short nonnegative long
            ((encode_of_long_number speakable nonnegative numberSpeakable).map _)
      | true =>
          have shortNumber := Decimal.isSpeakable_iff.mp numberSpeakable
          by_cases negativeNumber : integer < 0
          · exact .negativeNumber integer size isNumber isWidth short nonnegative
              shortNumber negativeNumber
              ((encode_of_negative_number speakable nonnegative numberSpeakable
                negativeNumber).map _)
          have nonnegativeNumber : 0 ≤ integer := by omega
          by_cases small : integer ≤ Word.largest
          · by_cases fits : integer < 2 ^ size.toNat
            · refine .written integer size isNumber isWidth short nonnegative
                nonnegativeNumber small fits (Word.split integer size.toNat).1 ?_
                (Word.length_split _ _)
                (getElem_split nonnegativeNumber small fits)
                (getElem_split_of_ge nonnegativeNumber small fits)
              rw [encode_of_fits speakable nonnegative nonnegativeNumber small
                fits, map_pure]
            · have overflows := Int.not_lt.mp fits
              exact .overflow integer size isNumber isWidth short nonnegative
                nonnegativeNumber small overflows
                ((encode_of_overflow speakable nonnegative nonnegativeNumber small
                  overflows).map _)
          · have large := Int.not_le.mp small
            exact .largeNumber integer size isNumber isWidth short nonnegative
              shortNumber large
              ((encode_of_large_number speakable nonnegative numberSpeakable
                large).map _)

/-- Writing a register ends as the first demand says that is not met. -/
theorem encoding_run (number width : Value) :
    Encoding number width (Conversion.run (.bitsOfNumber number width)) := by
  cases numberRead : number.integer? with
  | none =>
      have noInteger := Value.integer?_eq_none_iff.mp numberRead
      refine .notNumber noInteger ?_
      rw [Conversion.run, bitsOfNumber, Argument.integer, numberRead]
      exact (Session.fail_failsWith (.notInteger "number" number.kind)).map _
  | some integer =>
      have isNumber := Value.integer?_eq_some_iff.mp numberRead
      cases widthRead : width.integer? with
      | none =>
          have noInteger := Value.integer?_eq_none_iff.mp widthRead
          exact .notWidth integer isNumber noInteger
            ((bitsOfNumber_of_not_width isNumber noInteger).map _)
      | some size =>
          have isWidth := Value.integer?_eq_some_iff.mp widthRead
          rw [Conversion.run, bitsOfNumber_eq_encode isNumber isWidth]
          exact encoding_of_integers isNumber isWidth

/-- There is a register exactly for the integers that fit both into the width
and below the sign bit of a word. -/
theorem exists_ok_iff (number width : Value) :
    (∃ bits, (Conversion.run (.bitsOfNumber number width)).result = .ok bits) ↔
      ∃ integer size, number.IsInteger integer ∧ width.IsInteger size ∧
        0 ≤ size ∧ size.natAbs < 10 ^ Decimal.maxDigits ∧
        0 ≤ integer ∧ integer < 2 ^ min size.toNat 63 := by
  constructor
  · rintro ⟨answer, succeeded⟩
    cases encoding_run number width with
    | written integer size isNumber isWidth short nonnegative nonnegativeNumber
        small fits =>
        refine ⟨integer, size, isNumber, isWidth, nonnegative, short,
          nonnegativeNumber, ?_⟩
        rcases Nat.le_total size.toNat 63 with narrow | wide
        · rwa [Nat.min_eq_left narrow]
        · rw [Nat.min_eq_right wide]
          omega
    | notNumber noInteger ends => exact absurd succeeded (ends.ne_ok answer)
    | notWidth integer isNumber noInteger ends =>
        exact absurd succeeded (ends.ne_ok answer)
    | longWidth | negativeWidth | longNumber | negativeNumber | largeNumber
    | overflow =>
        next ends => exact absurd succeeded (ends.ne_ok answer)
  · rintro ⟨integer, size, isNumber, isWidth, nonnegative, short,
      nonnegativeNumber, fits⟩
    have fitsWidth : integer < 2 ^ size.toNat :=
      Int.lt_of_lt_of_le fits
        (pow_le_pow_right₀ (by decide) (Nat.min_le_left _ _))
    have fitsWord : integer < 2 ^ 63 :=
      Int.lt_of_lt_of_le fits
        (pow_le_pow_right₀ (by decide) (Nat.min_le_right _ _))
    have small : integer ≤ Word.largest := Word.le_largest_iff.mpr fitsWord
    rw [Conversion.run, bitsOfNumber_of_fits isNumber isWidth short nonnegative
      nonnegativeNumber small fitsWidth, map_pure]
    exact ⟨_, rfl⟩

/-- Writing a register ends as the first demand says that is not met, and there
is a register exactly for the integers that fit. -/
theorem writing_outcome (number width : Value) :
    Encoding number width (Conversion.run (.bitsOfNumber number width)) ∧
    ((∃ bits,
        (Conversion.run (.bitsOfNumber number width)).result = .ok bits) ↔
      ∃ integer size, number.IsInteger integer ∧ width.IsInteger size ∧
        0 ≤ size ∧ size.natAbs < 10 ^ Decimal.maxDigits ∧
        0 ≤ integer ∧ integer < 2 ^ min size.toNat 63) :=
  ⟨encoding_run number width, exists_ok_iff number width⟩

end Register

end Readout
