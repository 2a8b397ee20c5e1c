import Mathlib.Data.Int.ModEq
import Mathlib.Tactic.Ring
import Readout.Generator
import Readout.Proofs.Packing

/-!
# The period of the random source

A power of two of steps of the generator multiplies the state by one more than a
multiple of four times that power, and adds an odd multiple of the power. So it
changes the bit of that weight and none below, and every state is reached from
every other. A draw that some state would satisfy is therefore found.
-/

namespace Readout
namespace Generator

/-- The number of a state. -/
def number (generator : Generator) : Nat :=
  generator.state.toNat

theorem number_lt (generator : Generator) : generator.number < 2 ^ 64 :=
  generator.state.toNat_lt

theorem eq_of_number_eq
    {left right : Generator}
    (same : left.number = right.number) :
    left = right := by
  cases left
  cases right
  exact congrArg Generator.mk (UInt64.toNat_inj.mp same)

theorem number_next (generator : Generator) :
    generator.next.number ≡
      generator.number * 6364136223846793005 + 1442695040888963407
        [MOD 2 ^ 64] := by
  rw [number, next, UInt64.toNat_add, UInt64.toNat_mul]
  apply (Nat.mod_modEq _ _).trans
  exact (Nat.mod_modEq _ _).add_right _

/-! ## Powers of two of steps -/

/-- The map that multiplies by one more than a multiple of `2 ^ (power + 2)` and
adds an odd multiple of `2 ^ power`, modulo `2 ^ 64`. -/
def ActsBy (power : Nat) (step : Generator → Generator) : Prop :=
  ∃ factor half : Nat, ∀ generator,
    (step generator).number ≡
      generator.number * (1 + 2 ^ (power + 2) * factor) +
        2 ^ power * (2 * half + 1) [MOD 2 ^ 64]

theorem next_actsBy : ActsBy 0 next := by
  refine ⟨1591034055961698251, 721347520444481703, ?_⟩
  intro generator
  exact number_next generator

/-- Twice a map of this form is of the form for twice the power of two. -/
theorem ActsBy.twice
    {power : Nat}
    {step : Generator → Generator}
    (acts : ActsBy power step) :
    ActsBy (power + 1) (step ∘ step) := by
  obtain ⟨factor, half, acts⟩ := acts
  refine ⟨factor + 2 ^ (power + 1) * factor * factor,
    half + 2 ^ power * factor * (2 * half + 1), ?_⟩
  intro generator
  have first := acts generator
  calc (step (step generator)).number
      ≡ (step generator).number * (1 + 2 ^ (power + 2) * factor) +
          2 ^ power * (2 * half + 1) [MOD 2 ^ 64] := acts (step generator)
    _ ≡ (generator.number * (1 + 2 ^ (power + 2) * factor) +
            2 ^ power * (2 * half + 1)) * (1 + 2 ^ (power + 2) * factor) +
          2 ^ power * (2 * half + 1) [MOD 2 ^ 64] :=
        (first.mul_right _).add_right _
    _ = generator.number *
            (1 + 2 ^ (power + 1 + 2) *
              (factor + 2 ^ (power + 1) * factor * factor)) +
          2 ^ (power + 1) *
            (2 * (half + 2 ^ power * factor * (2 * half + 1)) + 1) := by
        ring

theorem iterate_two_pow_actsBy (power : Nat) :
    ActsBy power next^[2 ^ power] := by
  induction power with
  | zero => exact next_actsBy
  | succ power inductionHypothesis =>
      have doubled : next^[2 ^ (power + 1)] =
          next^[2 ^ power] ∘ next^[2 ^ power] := by
        rw [← Function.iterate_add, Nat.pow_succ, Nat.mul_two]
      rw [doubled]
      exact inductionHypothesis.twice

/-- That many steps change the bit of that weight and leave the bits below. -/
theorem number_iterate_two_pow
    {power : Nat}
    (inside : power < 64)
    (generator : Generator) :
    (next^[2 ^ power] generator).number ≡
      generator.number + 2 ^ power [MOD 2 ^ (power + 1)] := by
  obtain ⟨factor, half, acts⟩ := iterate_two_pow_actsBy power
  have divides : 2 ^ (power + 1) ∣ 2 ^ 64 := Nat.pow_dvd_pow 2 inside
  refine ((acts generator).of_dvd divides).trans ?_
  have split :
      generator.number * (1 + 2 ^ (power + 2) * factor) +
          2 ^ power * (2 * half + 1) =
        generator.number + 2 ^ power +
          2 ^ (power + 1) * (2 * factor * generator.number + half) := by
    ring
  rw [split, Nat.add_modulus_mul_modEq_iff]

/-! ## Every state is reached -/

/-- Numbers that agree below a bit agree in the bit, or do after it is changed. -/
theorem modEq_or_modEq_add
    {left right : Nat}
    {power : Nat}
    (agree : left ≡ right [MOD 2 ^ power]) :
    left ≡ right [MOD 2 ^ (power + 1)] ∨
      left + 2 ^ power ≡ right [MOD 2 ^ (power + 1)] := by
  have positive : 0 < 2 ^ power := Nat.two_pow_pos power
  unfold Nat.ModEq at agree ⊢
  rw [Nat.pow_succ, Nat.mod_mul, Nat.mod_mul, Nat.mod_mul, Nat.add_mod_right,
    Nat.add_div_right _ positive, agree]
  rcases Nat.mod_two_eq_zero_or_one (left / 2 ^ power) with even | odd
  · rcases Nat.mod_two_eq_zero_or_one (right / 2 ^ power) with same | other
    · left
      rw [even, same]
    · right
      rw [Nat.succ_mod_two_eq_one_iff.mpr even, other]
  · rcases Nat.mod_two_eq_zero_or_one (right / 2 ^ power) with other | same
    · right
      rw [Nat.succ_mod_two_eq_zero_iff.mpr odd, other]
    · left
      rw [odd, same]

/-- Within a power of two of steps, every number is reached modulo the power. -/
theorem exists_iterate_modEq
    (generator : Generator)
    (target : Nat)
    {power : Nat}
    (inside : power ≤ 64) :
    ∃ steps, steps < 2 ^ power ∧
      (next^[steps] generator).number ≡ target [MOD 2 ^ power] := by
  induction power with
  | zero => exact ⟨0, Nat.one_pos, Nat.modEq_one⟩
  | succ power inductionHypothesis =>
      obtain ⟨steps, few, agree⟩ := inductionHypothesis (by omega)
      have doubled : 2 ^ (power + 1) = 2 ^ power + 2 ^ power := by
        rw [Nat.pow_succ, Nat.mul_two]
      rcases modEq_or_modEq_add agree with reached | changed
      · exact ⟨steps, by omega, reached⟩
      · refine ⟨2 ^ power + steps, by omega, ?_⟩
        rw [Function.iterate_add_apply]
        exact (number_iterate_two_pow (by omega) _).trans changed

/-- Every state is reached from every state within a period. -/
theorem exists_iterate_eq (generator target : Generator) :
    ∃ steps, steps < period ∧ next^[steps] generator = target := by
  obtain ⟨steps, few, agree⟩ :=
    exists_iterate_modEq generator target.number (Nat.le_refl 64)
  have same : (next^[steps] generator).number = target.number :=
    agree.eq_of_lt_of_lt (number_lt _) (number_lt _)
  exact ⟨steps, few, eq_of_number_eq same⟩

/-! ## Draws below a bound -/

theorem bits_lt (width : Nat) (generator : Generator) :
    (bits width generator).1 < 2 ^ width :=
  Nat.mod_lt _ (Nat.two_pow_pos width)

/-- A draw that one of the next states satisfies is found. -/
theorem exists_seek
    {bound width attempts steps : Nat}
    {generator : Generator}
    (draws : ∀ current, (bits width current).2 = current.next)
    (few : steps < attempts)
    (accepted : (bits width (next^[steps] generator)).1 < bound) :
    ∃ found, seek bound width attempts generator = some found := by
  induction attempts generalizing steps generator with
  | zero => exact absurd few (Nat.not_lt_zero steps)
  | succ attempts inductionHypothesis =>
      rw [seek]
      by_cases now : (bits width generator).1 < bound
      · exact ⟨_, if_pos now⟩
      · rw [if_neg now, draws]
        cases steps with
        | zero =>
            rw [Function.iterate_zero_apply] at accepted
            exact absurd accepted now
        | succ steps =>
            rw [Function.iterate_succ_apply] at accepted
            exact inductionHypothesis (Nat.lt_of_succ_lt_succ few) accepted

/-- A number of at most thirty-two bits takes one step. -/
theorem bits_of_short
    {width : Nat}
    (positive : 0 < width)
    (short : width ≤ 32)
    (generator : Generator) :
    bits width generator =
      (generator.next.word % 2 ^ width, generator.next) := by
  have oneWord : (width + 31) / 32 = 1 := by omega
  rw [bits, oneWord]
  simp [words]

/-- A number below a positive bound of at most thirty-two bits is found from
every state. -/
theorem exists_below
    {bound : Nat}
    (positive : 0 < bound)
    (short : bound < 2 ^ 32)
    (generator : Generator) :
    ∃ choice, below? bound generator = some choice ∧ choice.1 < bound := by
  have sizePositive : 0 < Bits.size bound := by
    by_contra isZero
    have fits := (Bits.size_le_iff bound 0).mp (by omega)
    omega
  have sizeShort : Bits.size bound ≤ 32 :=
    (Bits.size_le_iff bound 32).mpr short
  have draws := bits_of_short sizePositive sizeShort
  -- The state zero yields the number zero, which every bound allows.
  obtain ⟨steps, few, reached⟩ := exists_iterate_eq generator.next ⟨0⟩
  have accepted :
      (bits (Bits.size bound) (next^[steps] generator)).1 < bound := by
    rw [draws, ← Function.iterate_succ_apply' next,
      Function.iterate_succ_apply, reached]
    simpa [word] using positive
  obtain ⟨found, sought⟩ := exists_seek
    (fun current => by rw [draws]) few accepted
  exact ⟨found, sought, lt_of_seek sought⟩

end Generator
end Readout
