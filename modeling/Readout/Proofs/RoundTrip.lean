import Readout.Proofs.Decoding
import Readout.Proofs.Encoding

/-!
# Round trips

A number that has been written as a register is read back in two ways, from the
bits and from the outcomes that the bits stand for. Both give the number exactly
if the width leaves the sign bit of a word clear and the number fits. The other
way round, what a short sequence is read as is always written back, bit by bit.
-/

namespace Readout
namespace Conversion

/-- Write a number as a register and read it from the bits. -/
def rereadBits (number width : Value) : Session Value := do
  let bits ← run (.bitsOfNumber number width)
  run (.numberOfBits bits)

/-- Write a number as a register and read it from the outcomes. -/
def rereadOutcomes (number width : Value) : Session Value := do
  let bits ← run (.bitsOfNumber number width)
  let outcomes ← run (.outcomes bits)
  run (.numberOfOutcomes outcomes)

/-- A width keeps a number if it is short of the sign bit and the number fits. -/
def Keeps (number width : Int) : Prop :=
  0 ≤ width ∧ width ≤ 63 ∧ 0 ≤ number ∧ number < 2 ^ width.toNat

/-- A width takes a number but is too long to be read: the number fits into a
word, and the register is longer than a word. -/
def Outgrows (number width : Int) : Prop :=
  63 < width ∧ width.natAbs < 10 ^ Decimal.maxDigits ∧ 0 ≤ number ∧
    number ≤ 2 ^ 63 - 1

/-! ## Reading what has been written -/

theorem run_outcomes_ofBits (bits : List Bool) :
    run (.outcomes (.ofBits bits)) =
      pure (.ofOutcomes (bits.map Outcome.ofBool)) := by
  rw [run, Elementwise.outcomes_ofBits, Session.ofExcept_ok, map_pure]

theorem rereadOutcomes_of_written
    {number width : Value}
    {bits : List Bool}
    (written : run (.bitsOfNumber number width) = pure (.ofBits bits)) :
    rereadOutcomes number width =
      run (.numberOfOutcomes (.ofOutcomes (bits.map Outcome.ofBool))) := by
  rw [rereadOutcomes, written, pure_bind, run_outcomes_ofBits, pure_bind]

/-- A short register is read back as the value of its bits in both ways. -/
theorem reread_of_short
    {number width : Value}
    {bits : List Bool}
    (written : run (.bitsOfNumber number width) = pure (.ofBits bits))
    (short : bits.length ≤ Word.capacity) :
    rereadBits number width = pure (.integer (Bits.value bits)) ∧
      rereadOutcomes number width = pure (.integer (Bits.value bits)) := by
  constructor
  · rw [rereadBits, written, pure_bind, run,
      Register.numberOfBits_ofBits short, map_pure]
  · rw [rereadOutcomes_of_written written, run,
      Register.numberOfOutcomes_ofOutcomes short, map_pure]

/-- A register that is too long is refused in both ways. -/
theorem reread_of_long
    {number width : Value}
    {bits : List Bool}
    (written : run (.bitsOfNumber number width) = pure (.ofBits bits))
    (long : Word.capacity < bits.length) :
    (rereadBits number width).RefusesWith .range
        ("`bits` must be less than 64, but was " ++ Decimal.text bits.length) ∧
      (rereadOutcomes number width).RefusesWith .range
        ("`bits` must be less than 64, but was " ++
          Decimal.text bits.length) := by
  constructor
  · rw [rereadBits, written, pure_bind, run]
    apply Session.EndsWith.map
    exact Register.decode_of_long (Value.length_ofBits bits) long
  · rw [rereadOutcomes_of_written written, run]
    apply Session.EndsWith.map
    refine Register.decode_of_long ?_ long
    rw [Value.length_ofOutcomes, List.length_map]

/-- What cannot be written is not read back either. -/
theorem reread_of_error
    {number width : Value}
    {fault : Fault}
    (failed : (run (.bitsOfNumber number width)).result = .error fault) :
    (rereadBits number width).result = .error fault ∧
      (rereadOutcomes number width).result = .error fault := by
  constructor
  · rw [rereadBits, Session.bind_of_error _ failed]
  · rw [rereadOutcomes, Session.bind_of_error _ failed]

/-! ## The exact domain -/

theorem written_of_short
    {number width : Value}
    {natural size : Nat}
    (isNumber : number.IsInteger natural)
    (isWidth : width.IsInteger size)
    (short : size ≤ Word.capacity)
    (fits : natural < 2 ^ size) :
    run (.bitsOfNumber number width) =
      pure (.ofBits (Word.split natural size).1) := by
  rw [run, Register.bitsOfNumber_of_short isNumber isWidth short fits, map_pure]

/-- A number that is kept comes back in both ways. -/
theorem reread_of_keeps
    {number width : Value}
    {integer size : Int}
    (isNumber : number.IsInteger integer)
    (isWidth : width.IsInteger size)
    (keeps : Keeps integer size) :
    ∃ bits, run (.bitsOfNumber number width) = pure (.ofBits bits) ∧
      bits.length = size.toNat ∧
      rereadBits number width = pure (.integer integer) ∧
      rereadOutcomes number width = pure (.integer integer) := by
  obtain ⟨nonnegative, narrow, nonnegativeNumber, fits⟩ := keeps
  obtain ⟨natural, rfl⟩ := Int.eq_ofNat_of_zero_le nonnegativeNumber
  obtain ⟨length, rfl⟩ := Int.eq_ofNat_of_zero_le nonnegative
  have short : length ≤ Word.capacity := Int.ofNat_le.mp narrow
  have fitsLength : natural < 2 ^ length := by exact_mod_cast fits
  have written := written_of_short isNumber isWidth short fitsLength
  have sized := Word.length_split (natural : Int) length
  have reread := reread_of_short written (sized.trans_le short)
  rw [Word.value_split (Word.cast_le_largest short fitsLength) fitsLength]
    at reread
  exact ⟨_, written, sized, reread⟩

/-- A number whose register is too long is written, and refused when read. -/
theorem reread_of_outgrows
    {number width : Value}
    {integer size : Int}
    (isNumber : number.IsInteger integer)
    (isWidth : width.IsInteger size)
    (outgrows : Outgrows integer size) :
    ∃ bits, run (.bitsOfNumber number width) = pure (.ofBits bits) ∧
      bits.length = size.toNat ∧
      (rereadBits number width).RefusesWith .range
        ("`bits` must be less than 64, but was " ++ Decimal.text size) ∧
      (rereadOutcomes number width).RefusesWith .range
        ("`bits` must be less than 64, but was " ++ Decimal.text size) := by
  obtain ⟨wide, short, nonnegativeNumber, small⟩ := outgrows
  have fits : integer < 2 ^ size.toNat := by
    have powers : (2 : Int) ^ 63 ≤ 2 ^ size.toNat :=
      pow_le_pow_right₀ (by decide) (by omega)
    omega
  have written : run (.bitsOfNumber number width) =
      pure (.ofBits (Word.split integer size.toNat).1) := by
    rw [run, Register.bitsOfNumber_of_fits isNumber isWidth short (by omega)
      nonnegativeNumber small fits, map_pure]
  have sized := Word.length_split integer size.toNat
  have refused := reread_of_long written (by
    rw [sized, Word.capacity]
    omega)
  have sameSize : (size.toNat : Int) = size := Int.toNat_of_nonneg (by omega)
  rw [sized, sameSize] at refused
  exact ⟨_, written, sized, refused⟩

/-- There is a register only for numbers that are kept or whose register is too
long. -/
theorem keeps_or_outgrows
    {number width bits : Value}
    {integer size : Int}
    (isNumber : number.IsInteger integer)
    (isWidth : width.IsInteger size)
    (succeeded : (run (.bitsOfNumber number width)).result = .ok bits) :
    Keeps integer size ∨ Outgrows integer size := by
  obtain ⟨other, otherSize, isOther, isOtherSize, nonnegative, short,
    nonnegativeNumber, fits⟩ :=
      (Register.exists_ok_iff number width).mp ⟨bits, succeeded⟩
  cases isNumber.unique isOther
  cases isWidth.unique isOtherSize
  by_cases wide : 63 < size
  · rw [Nat.min_eq_right (by omega)] at fits
    exact .inr ⟨wide, short, nonnegativeNumber, by omega⟩
  · rw [Nat.min_eq_left (by omega)] at fits
    exact .inl ⟨nonnegative, Int.not_lt.mp wide, nonnegativeNumber, fits⟩

/-- A number is read back exactly where the width keeps it. Elsewhere either it
is not written, or its register is refused in both ways. -/
theorem reread_outcome
    {number width : Value}
    {integer size : Int}
    (isNumber : number.IsInteger integer)
    (isWidth : width.IsInteger size) :
    (Keeps integer size →
      ∃ bits, run (.bitsOfNumber number width) = pure (.ofBits bits) ∧
        bits.length = size.toNat ∧
        rereadBits number width = pure (.integer integer) ∧
        rereadOutcomes number width = pure (.integer integer)) ∧
    (Outgrows integer size →
      ∃ bits, run (.bitsOfNumber number width) = pure (.ofBits bits) ∧
        bits.length = size.toNat ∧
        (rereadBits number width).RefusesWith .range
          ("`bits` must be less than 64, but was " ++ Decimal.text size) ∧
        (rereadOutcomes number width).RefusesWith .range
          ("`bits` must be less than 64, but was " ++ Decimal.text size)) ∧
    (¬Keeps integer size → ¬Outgrows integer size →
      ∃ fault, (run (.bitsOfNumber number width)).result = .error fault ∧
        (rereadBits number width).result = .error fault ∧
        (rereadOutcomes number width).result = .error fault) := by
  refine ⟨reread_of_keeps isNumber isWidth,
    reread_of_outgrows isNumber isWidth, ?_⟩
  intro notKept notOutgrown
  cases ended : (run (.bitsOfNumber number width)).result with
  | error fault => exact ⟨fault, rfl, reread_of_error ended⟩
  | ok bits =>
      rcases keeps_or_outgrows isNumber isWidth ended with keeps | outgrows
      · exact absurd keeps notKept
      · exact absurd outgrows notOutgrown

/-- Five written in six bits, a width of fixed size, is read back as five. -/
theorem reread_five :
    (Value.integer 5).IsInteger 5 ∧
      (Value.scalar (.integer ⟨false, 8⟩ 6)).IsInteger 6 ∧
      rereadOutcomes (.integer 5) (.scalar (.integer ⟨false, 8⟩ 6)) =
        pure (.integer 5) := by
  have isNumber : (Value.integer 5).IsInteger 5 := .proper 5
  have isWidth : (Value.scalar (.integer ⟨false, 8⟩ 6)).IsInteger 6 :=
    .fixedSize _ 6
  have keeps : Keeps 5 6 := ⟨by decide, by decide, by decide, by decide⟩
  obtain ⟨_, _, _, _, reread⟩ := (reread_outcome isNumber isWidth).1 keeps
  exact ⟨isNumber, isWidth, reread⟩

/-! ## Writing what has been read -/

/-- Read the bits of a sequence and write the number with a given width. -/
def rewriteBits (sequence : Value) (width : Nat) : Session Value := do
  let number ← run (.numberOfBits sequence)
  run (.bitsOfNumber number (.integer width))

/-- Read the outcomes of a sequence and write the number with a given width. -/
def rewriteOutcomes (sequence : Value) (width : Nat) : Session Value := do
  let number ← run (.numberOfOutcomes sequence)
  run (.bitsOfNumber number (.integer width))

/-- The value of a short list of bits is written as the list. -/
theorem run_bitsOfNumber_value
    {bits : List Bool}
    (short : bits.length ≤ Word.capacity) :
    run (.bitsOfNumber (.integer (Bits.value bits)) (.integer bits.length)) =
      pure (.ofBits bits) := by
  rw [written_of_short (.proper _) (.proper _) short (Bits.value_lt bits),
    Word.split_value short]

/-- A short sequence whose elements answer a test is read and written back as
its answers. -/
theorem rewrite_of_answers
    {isSet : Value → Except Fault Bool}
    {sequence : Value}
    {elements : List Value}
    {bits : List Bool}
    (sized : sequence.length = .ok elements.length)
    (viewed : sequence.elements = .ok elements)
    (short : elements.length ≤ Word.capacity)
    (answered : elements.mapM isSet = .ok bits) :
    (do
      let number ← Value.integer <$> Register.decode isSet sequence
      run (.bitsOfNumber number (.integer elements.length))) =
        pure (.ofBits bits) := by
  have sameLength : elements.length = bits.length :=
    (mapM_eq_ok_iff.mp answered).length_eq
  rw [Register.decode_of_answers sized viewed short answered, map_pure,
    pure_bind, sameLength]
  exact run_bitsOfNumber_value (by omega)

/-- What a short sequence has been read as is written with its length. -/
theorem exists_written_of_decoded
    {isSet : Value → Except Fault Bool}
    {sequence number : Value}
    {elements : List Value}
    (sized : sequence.length = .ok elements.length)
    (viewed : sequence.elements = .ok elements)
    (short : elements.length ≤ Word.capacity)
    (decoded : (Value.integer <$> Register.decode isSet sequence).result =
      .ok number) :
    ∃ bits, run (.bitsOfNumber number (.integer elements.length)) =
        pure (.ofBits bits) ∧
      bits.length = elements.length := by
  obtain ⟨value, read, rfl⟩ := Session.exists_of_map_eq_ok decoded
  obtain ⟨bits, answered, rfl⟩ :=
    Register.exists_answers_of_decode sized viewed short read
  have sameLength : elements.length = bits.length :=
    (mapM_eq_ok_iff.mp answered).length_eq
  refine ⟨bits, ?_, sameLength.symm⟩
  rw [sameLength]
  exact run_bitsOfNumber_value (by omega)

theorem run_flags
    {sequence : Value}
    {elements : List Value}
    (viewed : sequence.elements = .ok elements)
    (noCells : ∀ element ∈ elements, element.hasCells = false) :
    run (.flags sequence) =
      pure (.ofBits (elements.map Value.isOutcomeOne)) := by
  rw [run, Elementwise.flags_eq_vector viewed noCells, Session.ofExcept_ok,
    map_pure]
  rfl

/-- The flags of a table add the axes of its fields to that of the sequence. -/
theorem run_flags_twoFields :
    run (.flags (.list [.twoFields])) =
      pure (valueOfFlags ⟨[1, 2, 1], [false, false], rfl⟩) := rfl

theorem run_numberOfOutcomes_twoFields :
    run (.numberOfOutcomes (.list [.twoFields])) = Session.fail .manyAnswers := rfl

/-- A sequence of at most sixty-three elements, whatever holds them, is read and
written back with its own length as the truth values of its elements, and, without
grids and tables among these, as its flags. Whatever it has been read as is written. -/
theorem rewrite_sequence
    {sequence : Value}
    {length : Nat}
    (notTable : sequence.isTable = false)
    (sized : sequence.length = .ok length)
    (short : length ≤ 63) :
    ∃ elements, sequence.elements = .ok elements ∧ elements.length = length ∧
      ((∀ element ∈ elements, ∃ answer, element.truth = .ok answer) →
        ∃ bits,
          List.Forall₂ (fun element bit => element.truth = .ok bit)
            elements bits ∧
          rewriteBits sequence length = pure (.ofBits bits)) ∧
      ((∀ element ∈ elements, element.hasCells = false) →
        ∃ bits,
          run (.flags sequence) = pure (.ofBits bits) ∧
          rewriteOutcomes sequence length = pure (.ofBits bits)) ∧
      (∀ number,
        (run (.numberOfBits sequence)).result = .ok number ∨
          (run (.numberOfOutcomes sequence)).result = .ok number →
        ∃ bits,
          run (.bitsOfNumber number (.integer length)) = pure (.ofBits bits) ∧
          bits.length = length) := by
  obtain ⟨elements, viewed, rfl⟩ := Value.exists_elements notTable sized
  refine ⟨elements, viewed, rfl, ?_, ?_, ?_⟩
  · intro answered
    obtain ⟨bits, truths⟩ := exists_mapM_eq_ok answered
    exact ⟨bits, mapM_eq_ok_iff.mp truths,
      rewrite_of_answers sized viewed short truths⟩
  · intro noCells
    exact ⟨_, run_flags viewed noCells,
      rewrite_of_answers sized viewed short
        (Register.mapM_measuredOne noCells)⟩
  · rintro number (decoded | decoded)
    · exact exists_written_of_decoded sized viewed short decoded
    · exact exists_written_of_decoded sized viewed short decoded

/-- A sequence of a table, which is no grid, is not read, so that nothing is written
back, and its flags have more axes than a register. -/
theorem tableElement_not_rewritten :
    (Value.list [.twoFields]).isTable = false ∧
      (Value.list [.twoFields]).length = .ok 1 ∧
      (Value.list [.twoFields]).elements = .ok [.twoFields] ∧
      Value.twoFields.isArray = false ∧
      (rewriteOutcomes (.list [.twoFields]) 1).FailsWith .value
        "setting an array element with a sequence." ∧
      ∃ answers : Grid Bool, run (.flags (.list [.twoFields])) =
        pure (valueOfFlags answers) ∧ answers.shape = [1, 2, 1] := by
  refine ⟨rfl, rfl, rfl, rfl, ?_, _, run_flags_twoFields, rfl⟩
  rw [rewriteOutcomes, run_numberOfOutcomes_twoFields, Session.fail_bind]
  exact Session.fail_failsWith .manyAnswers

/-- Three bytes, of which the middle one is zero, are written back as the bits
that say which are not zero. -/
theorem rewrite_bytes :
    (Value.octets [7, 0, 255]).isTable = false ∧
      (Value.octets [7, 0, 255]).length = .ok 3 ∧
      rewriteBits (.octets [7, 0, 255]) 3 =
        pure (.ofBits [true, false, true]) := by
  have notTable : (Value.octets [7, 0, 255]).isTable = false := rfl
  have sized : (Value.octets [7, 0, 255]).length = .ok 3 := rfl
  refine ⟨notTable, sized, ?_⟩
  obtain ⟨elements, viewed, _, rewritten, _, _⟩ :=
    rewrite_sequence notTable sized (by decide)
  cases viewed
  obtain ⟨bits, truths, written⟩ := rewritten (by
    intro element member
    obtain ⟨octet, _, rfl⟩ := List.mem_map.mp member
    exact ⟨_, rfl⟩)
  have known := mapM_eq_ok_iff.mpr truths
  cases known
  exact written

end Conversion
end Readout
