import Mathlib.Algebra.Order.Ring.Abs
import Mathlib.Tactic.Linarith
import Mathlib.Tactic.Ring
import Readout.Binary64.Rounding
import Readout.Proofs.Packing

/-!
# Rounding to nearest

Rounding a number of units to a format drops as many of its low bits as the format
cannot keep. What results is the nearest number that the format holds, for a format
holds no number between neighbouring multiples of the bit that is kept last. If two
are equally near, that bit is clear in the result. A number is rounded beyond the
limit of the format from halfway between the largest number and the limit on.
-/

namespace Readout

/-! ## Multiples of a power of two -/

section Multiples

variable (number shift : Nat)

/-- A rounded multiple is off by at most half a step. If it is off by half a step,
its factor is even. -/
theorem exists_shiftRounded_error :
    ∃ error : Nat,
      |(shiftRounded number shift * 2 ^ shift : ℤ) - number| = error ∧
      2 * error ≤ 2 ^ shift ∧
      (2 * error = 2 ^ shift → shiftRounded number shift % 2 = 0) := by
  let quotient := number / 2 ^ shift
  let remainder := number % 2 ^ shift
  have number_eq : number = quotient * 2 ^ shift + remainder :=
    (Nat.div_add_mod' _ _).symm
  have below : remainder < 2 ^ shift := Nat.mod_lt _ (Nat.two_pow_pos shift)
  by_cases down :
      2 * remainder < 2 ^ shift ∨ (2 * remainder = 2 ^ shift ∧ quotient % 2 = 0)
  · have rounded : shiftRounded number shift = quotient := if_pos down
    refine ⟨remainder, ?_, by omega, by omega⟩
    have signed :
        (shiftRounded number shift * 2 ^ shift : ℤ) - number = -remainder := by
      rw [rounded, number_eq]
      push_cast
      ring
    rw [signed, abs_neg, Nat.abs_cast]
  · have rounded : shiftRounded number shift = quotient + 1 := if_neg down
    refine ⟨2 ^ shift - remainder, ?_, by omega, by omega⟩
    have signed :
        (shiftRounded number shift * 2 ^ shift : ℤ) - number =
          (2 ^ shift - remainder : Nat) := by
      rw [rounded, number_eq]
      push_cast [below.le]
      ring
    rw [signed, Nat.abs_cast]

variable {number shift}

/-- Two multiples of a step are a step apart. -/
theorem step_le_add_shiftRounded_error
    {multiple : Nat}
    (other : multiple ≠ shiftRounded number shift) :
    (2 ^ shift : ℤ) ≤ |(multiple * 2 ^ shift : ℤ) - number| +
      |(shiftRounded number shift * 2 ^ shift : ℤ) - number| := by
  have apart : 1 ≤ |(multiple : ℤ) - shiftRounded number shift| :=
    Int.one_le_abs (sub_ne_zero.mpr (Nat.cast_injective.ne other))
  calc
    (2 ^ shift : ℤ) ≤ |(multiple : ℤ) - shiftRounded number shift| * 2 ^ shift :=
      le_mul_of_one_le_left (by positivity) apart
    _ = |((multiple * 2 ^ shift : ℤ) - number) -
          ((shiftRounded number shift * 2 ^ shift : ℤ) - number)| := by
      rw [sub_sub_sub_cancel_right, ← sub_mul, abs_mul,
        abs_of_nonneg (by positivity : (0 : ℤ) ≤ 2 ^ shift)]
    _ ≤ _ := abs_sub _ _

/-- No multiple is nearer than the rounded one. -/
theorem shiftRounded_nearest (multiple : Nat) :
    |(shiftRounded number shift * 2 ^ shift : ℤ) - number| ≤
      |(multiple * 2 ^ shift : ℤ) - number| := by
  by_cases same : multiple = shiftRounded number shift
  · rw [same]
  · obtain ⟨error, error_eq, half, _⟩ := exists_shiftRounded_error number shift
    have apart := step_le_add_shiftRounded_error same
    have halfStep : (2 * error : ℤ) ≤ 2 ^ shift := by exact_mod_cast half
    linarith

/-- If another multiple is as near, the rounded one has an even factor. -/
theorem shiftRounded_even
    {multiple : Nat}
    (other : multiple ≠ shiftRounded number shift)
    (tied : |(multiple * 2 ^ shift : ℤ) - number| =
      |(shiftRounded number shift * 2 ^ shift : ℤ) - number|) :
    shiftRounded number shift % 2 = 0 := by
  obtain ⟨error, error_eq, half, even⟩ := exists_shiftRounded_error number shift
  have apart := step_le_add_shiftRounded_error other
  rw [tied, error_eq] at apart
  have halfway : 2 ^ shift ≤ error + error := by exact_mod_cast apart
  exact even (by omega)

end Multiples

namespace Precision

/-- A number of units is held by a format, its limit left aside: it is a significand
of few enough digits times a power of two that is not below the grain. -/
def Holds (precision : Precision) (units : Nat) : Prop :=
  ∃ significand exponent : Nat,
    significand < 2 ^ precision.digits ∧
    precision.grain ≤ exponent ∧
    units = significand * 2 ^ exponent

/-- The bits that a format keeps of a number of units. -/
def significand (precision : Precision) (units : Nat) : Nat :=
  units / 2 ^ precision.dropped units

variable {precision : Precision} {units : Nat}

theorem grain_le_dropped (precision : Precision) (units : Nat) :
    precision.grain ≤ precision.dropped units :=
  Nat.le_max_left _ _

/-- What is kept has at most the digits of the format. -/
theorem significand_lt (precision : Precision) (units : Nat) :
    precision.significand units < 2 ^ precision.digits := by
  rw [significand, Nat.div_lt_iff_lt_mul (Nat.two_pow_pos _), ← Nat.pow_add]
  apply (Bits.size_le_iff _ _).mp
  rw [dropped]
  omega

/-- All digits are used if more than the grain is dropped. -/
theorem two_pow_le_of_grain_lt
    (several : 1 < precision.digits)
    (dropsMore : precision.grain < precision.dropped units) :
    2 ^ (precision.digits - 1 + precision.dropped units) ≤ units := by
  by_contra small
  have sizeSmall := (Bits.size_le_iff _ _).mpr (Nat.lt_of_not_le small)
  rw [dropped] at sizeSmall dropsMore
  omega

theorem le_significand_of_grain_lt
    (several : 1 < precision.digits)
    (dropsMore : precision.grain < precision.dropped units) :
    2 ^ (precision.digits - 1) ≤ precision.significand units := by
  rw [significand, Nat.le_div_iff_mul_le (Nat.two_pow_pos _), ← Nat.pow_add]
  exact two_pow_le_of_grain_lt several dropsMore

theorem round_eq (precision : Precision) (units : Nat) :
    precision.round units =
      shiftRounded units (precision.dropped units) * 2 ^ precision.dropped units :=
  rfl

/-- A number that a format holds is a multiple of what is dropped, or some multiple
is nearer. -/
theorem exists_multiple
    {other : Nat}
    (several : 1 < precision.digits)
    (held : precision.Holds other)
    (units : Nat) :
    ∃ multiple : Nat,
      other = multiple * 2 ^ precision.dropped units ∨
      |(multiple * 2 ^ precision.dropped units : ℤ) - units| < |(other : ℤ) - units| := by
  obtain ⟨significand, exponent, short, grainy, rfl⟩ := held
  rcases Nat.lt_or_ge exponent (precision.dropped units) with fine | coarse
  · -- With a finer exponent it lies below the highest bit of `units`, a multiple.
    refine ⟨2 ^ (precision.digits - 1), .inr ?_⟩
    have reached := two_pow_le_of_grain_lt several (Nat.lt_of_le_of_lt grainy fine)
    have below : significand * 2 ^ exponent <
        2 ^ (precision.digits - 1 + precision.dropped units) := by
      calc
        significand * 2 ^ exponent < 2 ^ precision.digits * 2 ^ exponent :=
          Nat.mul_lt_mul_of_pos_right short (Nat.two_pow_pos exponent)
        _ = 2 ^ (precision.digits + exponent) := (Nat.pow_add _ _ _).symm
        _ ≤ _ := Nat.pow_le_pow_right Nat.two_pos (by omega)
    rw [Nat.pow_add] at reached below
    have reachedInt : (2 ^ (precision.digits - 1) * 2 ^ precision.dropped units : ℤ) ≤
        units := by exact_mod_cast reached
    have belowInt : ((significand * 2 ^ exponent : Nat) : ℤ) <
        2 ^ (precision.digits - 1) * 2 ^ precision.dropped units := by
      exact_mod_cast below
    push_cast at belowInt ⊢
    rw [abs_of_nonpos (by linarith), abs_of_nonpos (by linarith)]
    linarith
  · refine ⟨significand * 2 ^ (exponent - precision.dropped units), .inl ?_⟩
    rw [Nat.mul_assoc, ← Nat.pow_add, Nat.sub_add_cancel coarse]

/-- Nothing of a number that a format holds is lost. -/
theorem significand_mul
    (several : 1 < precision.digits)
    (held : precision.Holds units) :
    precision.significand units * 2 ^ precision.dropped units = units := by
  apply Nat.div_mul_cancel
  obtain ⟨multiple, same | nearer⟩ := exists_multiple several held units
  · exact ⟨multiple, same.trans (Nat.mul_comm _ _)⟩
  · rw [sub_self, abs_zero] at nearer
    exact absurd nearer (not_lt.mpr (abs_nonneg _))

/-- No number that a format holds is nearer than the rounded one. -/
theorem round_nearest
    {other : Nat}
    (several : 1 < precision.digits)
    (held : precision.Holds other)
    (units : Nat) :
    |(precision.round units : ℤ) - units| ≤ |(other : ℤ) - units| := by
  obtain ⟨multiple, held⟩ := exists_multiple several held units
  have near : |(precision.round units : ℤ) - units| ≤
      |(multiple * 2 ^ precision.dropped units : ℤ) - units| := by
    rw [round_eq]
    exact_mod_cast shiftRounded_nearest multiple
  rcases held with same | nearer
  · rw [same]
    exact_mod_cast near
  · exact near.trans nearer.le

/-- If a format holds another number that is as near, the last bit that rounding
kept is clear. -/
theorem shiftRounded_even_of_tied
    {other : Nat}
    (several : 1 < precision.digits)
    (held : precision.Holds other)
    (distinct : other ≠ precision.round units)
    (tied : |(other : ℤ) - units| = |(precision.round units : ℤ) - units|) :
    shiftRounded units (precision.dropped units) % 2 = 0 := by
  rw [round_eq] at distinct tied
  push_cast at tied
  obtain ⟨multiple, same | nearer⟩ := exists_multiple several held units
  · rw [same] at distinct tied
    push_cast at tied
    exact shiftRounded_even (fun equal => distinct (by rw [equal])) tied
  · rw [tied] at nearer
    exact absurd (shiftRounded_nearest multiple) (not_le.mpr nearer)

/-- Rounding up may carry into one more digit, but not beyond. -/
theorem shiftRounded_le (precision : Precision) (units : Nat) :
    shiftRounded units (precision.dropped units) ≤ 2 ^ precision.digits := by
  have short := significand_lt precision units
  rw [significand] at short
  simp only [shiftRounded, Nat.pow_eq]
  split <;> omega

/-- A format holds what is rounded to it. -/
theorem holds_round (several : 1 < precision.digits) (units : Nat) :
    precision.Holds (precision.round units) := by
  have grainy := grain_le_dropped precision units
  rcases Nat.lt_or_eq_of_le (shiftRounded_le precision units) with short | carried
  · exact ⟨_, _, short, grainy, rfl⟩
  · refine ⟨1, precision.digits + precision.dropped units,
      Nat.one_lt_two_pow (by omega), by omega, ?_⟩
    rw [round_eq, carried, Nat.pow_add, Nat.one_mul]

/-- Rounding leaves exactly those numbers alone that the format holds. -/
theorem round_eq_self_iff (several : 1 < precision.digits) (units : Nat) :
    precision.round units = units ↔ precision.Holds units := by
  constructor
  · intro same
    rw [← same]
    exact holds_round several units
  · intro held
    have near := round_nearest several held units
    rw [sub_self, abs_zero] at near
    exact_mod_cast sub_eq_zero.mp (abs_nonpos_iff.mp near)

theorem round_zero (several : 1 < precision.digits) : precision.round 0 = 0 :=
  (round_eq_self_iff several 0).mpr
    ⟨0, precision.grain, Nat.two_pow_pos _, le_rfl, (Nat.zero_mul _).symm⟩

theorem div_two_pow_even
    {number shift : Nat}
    (divides : 2 ^ (shift + 1) ∣ number) :
    number / 2 ^ shift % 2 = 0 := by
  obtain ⟨factor, rfl⟩ := divides
  rw [Nat.pow_succ, Nat.mul_assoc, Nat.mul_div_cancel_left _ (Nat.two_pow_pos shift),
    Nat.mul_mod_right]

/-- Rounding drops more of its result than of the number only by carrying into one
more digit, which leaves a power of two. -/
theorem round_eq_two_pow_of_carried
    (several : 1 < precision.digits)
    (carried : precision.dropped units < precision.dropped (precision.round units)) :
    precision.round units = 2 ^ (precision.digits + precision.dropped units) := by
  have grainy := grain_le_dropped precision units
  have reached := two_pow_le_of_grain_lt several (Nat.lt_of_le_of_lt grainy carried)
  apply Nat.le_antisymm
  · rw [round_eq, Nat.pow_add]
    exact Nat.mul_le_mul_right _ (shiftRounded_le precision units)
  · exact (Nat.pow_le_pow_right Nat.two_pos (by omega)).trans reached

/-- The significand of a rounded number is even if the last bit that rounding kept
is clear. -/
theorem significand_round_even
    (several : 1 < precision.digits)
    (even : shiftRounded units (precision.dropped units) % 2 = 0) :
    precision.significand (precision.round units) % 2 = 0 := by
  apply div_two_pow_even
  rcases Nat.lt_or_ge (precision.dropped units)
    (precision.dropped (precision.round units)) with carried | kept
  · have rounded := round_eq_two_pow_of_carried several carried
    have grainy := grain_le_dropped precision units
    have size : Bits.size (precision.round units) ≤
        precision.digits + precision.dropped units + 1 := by
      rw [Bits.size_le_iff, rounded]
      exact Nat.pow_lt_pow_right (by omega) (Nat.lt_succ_self _)
    have fits : precision.dropped (precision.round units) + 1 ≤
        precision.digits + precision.dropped units := by
      have dropped_eq : precision.dropped (precision.round units) =
          max precision.grain (Bits.size (precision.round units) - precision.digits) :=
        rfl
      omega
    exact (Nat.pow_dvd_pow 2 fits).trans (dvd_of_eq rounded.symm)
  · have evenMultiple : 2 ^ (precision.dropped units + 1) ∣ precision.round units := by
      rw [round_eq, Nat.pow_succ, Nat.mul_comm]
      exact Nat.mul_dvd_mul_right (Nat.dvd_of_mod_eq_zero even) _
    exact (Nat.pow_dvd_pow 2 (Nat.succ_le_succ kept)).trans evenMultiple

theorem round?_eq_some_iff {rounded : Nat} :
    precision.round? units = some rounded ↔
      precision.round units = rounded ∧ rounded < 2 ^ precision.limit := by
  simp only [round?, Nat.pow_eq]
  split
  · rename_i below
    rw [Option.some.injEq]
    exact ⟨fun same => ⟨same, same ▸ below⟩, And.left⟩
  · rename_i beyond
    exact iff_of_false nofun fun ⟨same, below⟩ => beyond (same ▸ below)

/-! ## The largest number -/

/-- The largest number of a format, all of whose bits are set. -/
def largest (precision : Precision) : Nat :=
  (2 ^ precision.digits - 1) * 2 ^ (precision.limit - precision.digits)

/-- Half the distance from the largest number of a format to its limit. -/
def halfGap (precision : Precision) : Nat :=
  2 ^ (precision.limit - precision.digits - 1)

section Limit

variable
  (several : 1 < precision.digits)
  (roomy : precision.digits + precision.grain < precision.limit)

include roomy in
/-- The limit of a format is where its next number would be. -/
theorem two_pow_limit_eq :
    2 ^ precision.limit =
      2 ^ precision.digits * 2 ^ (precision.limit - precision.digits) := by
  rw [Nat.mul_comm, Nat.pow_sub_mul_pow]
  omega

include roomy in
theorem largest_add_halfGap :
    precision.largest + 2 * precision.halfGap = 2 ^ precision.limit := by
  have step : 2 * precision.halfGap = 2 ^ (precision.limit - precision.digits) := by
    rw [halfGap, Nat.mul_comm]
    exact Nat.two_pow_pred_mul_two (by omega)
  rw [step, largest, ← Nat.succ_mul, Nat.succ_eq_add_one,
    Nat.sub_add_cancel (Nat.two_pow_pos _), ← two_pow_limit_eq roomy]

include several roomy in
/-- Below halfway from the largest number of a format to the limit, numbers are
rounded to numbers below the limit. -/
theorem round_lt_limit (short : units + precision.halfGap < 2 ^ precision.limit) :
    precision.round units < 2 ^ precision.limit := by
  have held : precision.Holds precision.largest :=
    ⟨_, _, Nat.sub_one_lt (Nat.two_pow_pos _).ne', by omega, rfl⟩
  have near := round_nearest several held units
  have gap := largest_add_halfGap roomy
  have gapPositive : 0 < precision.halfGap := Nat.two_pow_pos _
  rw [abs_le] at near
  rcases abs_cases ((precision.largest : ℤ) - units) with ⟨distance, _⟩ | ⟨distance, _⟩
  · omega
  · omega

include several roomy in
/-- The limit is a number of the format but for its size. -/
theorem holds_limit : precision.Holds (2 ^ precision.limit) :=
  ⟨1, precision.limit, Nat.one_lt_two_pow (by omega), by omega, (Nat.one_mul _).symm⟩

include several roomy in
/-- Rounding does not bring a number below the limit. -/
theorem lt_limit_of_round_lt (below : precision.round units < 2 ^ precision.limit) :
    units < 2 ^ precision.limit := by
  have near := round_nearest several (holds_limit several roomy) units
  rw [abs_le] at near
  rcases abs_cases (((2 ^ precision.limit : Nat) : ℤ) - units) with
    ⟨distance, _⟩ | ⟨distance, _⟩
  · omega
  · omega

include several roomy in
/-- Just below the limit the most significant digits are kept. -/
theorem dropped_of_near_limit
    (long : 2 ^ precision.limit ≤ units + precision.halfGap)
    (inside : units < 2 ^ precision.limit) :
    precision.dropped units = precision.limit - precision.digits := by
  have halved : 2 ^ (precision.limit - 1) * 2 = 2 ^ precision.limit :=
    Nat.two_pow_pred_mul_two (by omega)
  have gapSmall : precision.halfGap ≤ 2 ^ (precision.limit - 1) :=
    Nat.pow_le_pow_right Nat.two_pos (by omega)
  have sizeLow := (Bits.size_le_iff _ _).mpr inside
  have sizeHigh := mt (Bits.size_le_iff units (precision.limit - 1)).mp (by omega)
  rw [dropped]
  omega

include several roomy in
/-- What is kept of a number just below the limit that is rounded to a number below
the limit, too. -/
theorem exists_quotient
    (long : 2 ^ precision.limit ≤ units + precision.halfGap)
    (below : precision.round units < 2 ^ precision.limit) :
    ∃ quotient,
      shiftRounded units (precision.dropped units) = quotient ∧
      precision.round units = quotient * 2 ^ (precision.limit - precision.digits) ∧
      quotient ≤ 2 ^ precision.digits - 1 := by
  have inside := lt_limit_of_round_lt several roomy below
  have round_eq_mul := round_eq precision units
  rw [dropped_of_near_limit several roomy long inside] at round_eq_mul ⊢
  refine ⟨_, rfl, round_eq_mul, Nat.le_sub_one_of_lt ?_⟩
  rw [round_eq_mul, two_pow_limit_eq roomy] at below
  exact Nat.lt_of_mul_lt_mul_right below

include several in
/-- The significand of the largest number of a format is odd. -/
theorem two_pow_digits_sub_one_odd : (2 ^ precision.digits - 1) % 2 = 1 := by
  have twice : 2 ^ (precision.digits - 1) * 2 = 2 ^ precision.digits :=
    Nat.two_pow_pred_mul_two (by omega)
  have positive := Nat.two_pow_pos (precision.digits - 1)
  omega

include several roomy in
/-- From halfway on, numbers are rounded to the limit or beyond: the largest number
loses the tie. -/
theorem limit_le_round (long : 2 ^ precision.limit ≤ units + precision.halfGap) :
    2 ^ precision.limit ≤ precision.round units := by
  by_contra small
  have below := Nat.lt_of_not_le small
  have inside := lt_limit_of_round_lt several roomy below
  have held := holds_limit several roomy
  have near := round_nearest several held units
  have tiedEven := shiftRounded_even_of_tied several held (Nat.ne_of_gt below)
  have gap := largest_add_halfGap roomy
  obtain ⟨quotient, quotient_eq, round_eq_mul, short⟩ :=
    exists_quotient several roomy long below
  have atMost : precision.round units ≤ precision.largest := by
    rw [round_eq_mul]
    exact Nat.mul_le_mul_right _ short
  have distance : |((2 ^ precision.limit : Nat) : ℤ) - units| =
      (2 ^ precision.limit : Nat) - units := abs_of_nonneg (by omega)
  have error : |(precision.round units : ℤ) - units| = units - precision.round units := by
    rw [abs_sub_comm]
    exact abs_of_nonneg (by omega)
  rw [distance, error] at near tiedEven
  have even := tiedEven (by omega)
  have last : quotient = 2 ^ precision.digits - 1 := by
    refine Nat.eq_of_mul_eq_mul_right (Nat.two_pow_pos _) (?_ : _ = precision.largest)
    rw [← round_eq_mul]
    omega
  have odd := two_pow_digits_sub_one_odd several
  omega

include several roomy in
/-- Rounding to a format has no result from halfway between the largest number of
the format and its limit on. -/
theorem round?_eq_none_iff :
    precision.round? units = none ↔ 2 ^ precision.limit ≤ units + precision.halfGap := by
  have beyond : precision.round? units = none ↔
      2 ^ precision.limit ≤ precision.round units := by
    simp only [round?, Nat.pow_eq, ite_eq_right_iff, reduceCtorEq, imp_false, not_lt]
  rw [beyond]
  constructor
  · intro reached
    by_contra short
    exact absurd (round_lt_limit several roomy (Nat.lt_of_not_le short))
      (Nat.not_lt.mpr reached)
  · exact limit_le_round several roomy

end Limit

end Precision
end Readout
