import Readout.Proofs.Period

/-!
# The rejection loop

A number below a bound is drawn until one is found. Nothing gets smaller from
draw to draw, so whether the loop ends is a matter of the states that it passes
through. These repeat after a period, so a loop that ends does so by then, and the
bounded search finds what the loop finds.
-/

namespace Readout
namespace Generator

/-- The loop that draws numbers of `width` bits until one is below `bound` ends.
From a state, it rejects so many draws, and finds the next one. -/
inductive Finds (bound width : Nat) : Nat → Generator → Nat × Generator → Prop
  /-- The number drawn is below the bound. -/
  | accepted
      {generator : Generator}
      (below : (bits width generator).1 < bound) :
      Finds bound width 0 generator (bits width generator)
  /-- The number drawn is not, and the loop goes on from the state after it. -/
  | rejected
      {generator : Generator}
      {found : Nat × Generator}
      {rejections : Nat}
      (notBelow : bound ≤ (bits width generator).1)
      (later : Finds bound width rejections (bits width generator).2 found) :
      Finds bound width (rejections + 1) generator found

section

variable {bound width : Nat} {generator : Generator} {found : Nat × Generator}

/-- What is found is below the bound. -/
theorem Finds.lt
    {rejections : Nat}
    (finds : Finds bound width rejections generator found) :
    found.1 < bound := by
  induction finds with
  | accepted below => exact below
  | rejected notBelow later inductionHypothesis => exact inductionHypothesis

/-- The loop ends in one way only. -/
theorem Finds.unique
    {rejections others : Nat}
    {another : Nat × Generator}
    (finds : Finds bound width rejections generator found)
    (alsoFinds : Finds bound width others generator another) :
    rejections = others ∧ found = another := by
  induction finds generalizing others with
  | accepted below =>
      cases alsoFinds with
      | accepted => exact ⟨rfl, rfl⟩
      | rejected notBelow => exact absurd below (Nat.not_lt.mpr notBelow)
  | rejected notBelow later inductionHypothesis =>
      cases alsoFinds with
      | accepted below => exact absurd below (Nat.not_lt.mpr notBelow)
      | rejected _ alsoLater =>
          obtain ⟨same, sameFound⟩ := inductionHypothesis alsoLater
          exact ⟨congrArg Nat.succ same, sameFound⟩

/-- The search finds what the loop finds, if the loop ends within its attempts. -/
theorem seek_eq_some_iff {attempts : Nat} :
    seek bound width attempts generator = some found ↔
      ∃ rejections < attempts, Finds bound width rejections generator found := by
  constructor
  · intro sought
    induction attempts generalizing generator with
    | zero => cases sought
    | succ attempts inductionHypothesis =>
        rw [seek] at sought
        by_cases below : (bits width generator).1 < bound
        · rw [if_pos below] at sought
          cases sought
          exact ⟨0, Nat.succ_pos attempts, .accepted below⟩
        · rw [if_neg below] at sought
          obtain ⟨rejections, few, later⟩ := inductionHypothesis sought
          exact ⟨rejections + 1, Nat.succ_lt_succ few,
            .rejected (Nat.le_of_not_lt below) later⟩
  · rintro ⟨rejections, few, finds⟩
    induction finds generalizing attempts with
    | accepted below =>
        obtain ⟨attempts, rfl⟩ := Nat.exists_eq_add_of_lt few
        rw [Nat.zero_add, seek, if_pos below]
    | rejected notBelow later inductionHypothesis =>
        cases attempts with
        | zero => exact absurd few (Nat.not_lt_zero _)
        | succ attempts =>
            rw [seek, if_neg (Nat.not_lt.mpr notBelow)]
            exact inductionHypothesis (Nat.lt_of_succ_lt_succ few)

/-! ## States repeat -/

theorem words_snd (count : Nat) (generator : Generator) :
    (words count generator).2 = next^[count] generator := by
  induction count generalizing generator with
  | zero => rfl
  | succ count inductionHypothesis =>
      rw [words, Function.iterate_succ_apply]
      exact inductionHypothesis generator.next

/-- A number takes one step for every thirty-two bits begun. -/
theorem bits_snd (width : Nat) (generator : Generator) :
    (bits width generator).2 = next^[(width + 31) / 32] generator :=
  words_snd _ _

/-- After a period, the source is back where it was. -/
theorem iterate_period (generator : Generator) :
    next^[period] generator = generator := by
  obtain ⟨factor, half, acts⟩ := iterate_two_pow_actsBy 64
  have split :
      generator.number * (1 + 2 ^ (64 + 2) * factor) + 2 ^ 64 * (2 * half + 1) =
        generator.number +
          2 ^ 64 * (4 * factor * generator.number + 2 * half + 1) := by
    ring
  have same : (next^[period] generator).number ≡ generator.number
      [MOD 2 ^ 64] := by
    refine (acts generator).trans ?_
    rw [split, Nat.add_modulus_mul_modEq_iff]
  exact eq_of_number_eq
    (same.eq_of_lt_of_lt (number_lt _) (number_lt _))

/-- After a period of draws, the source is back where it was. -/
theorem iterate_bits_period (width : Nat) (generator : Generator) :
    (fun current => (bits width current).2)^[period] generator = generator := by
  have steps : (fun current => (bits width current).2) =
      next^[(width + 31) / 32] :=
    funext (bits_snd width)
  have still : next^[period] = id := funext iterate_period
  rw [steps, ← Function.iterate_mul, Nat.mul_comm, Function.iterate_mul, still,
    Function.iterate_id, id_eq]

/-- A loop that ends does so from the states that it passes through. -/
theorem Finds.after
    {earlier later : Nat}
    (finds : Finds bound width (later + earlier) generator found) :
    Finds bound width later
      ((fun current => (bits width current).2)^[earlier] generator) found := by
  induction earlier generalizing generator with
  | zero => exact finds
  | succ earlier inductionHypothesis =>
      rw [← Nat.add_assoc] at finds
      cases finds with
      | rejected _ rest =>
          rw [Function.iterate_succ_apply]
          exact inductionHypothesis rest

/-- A loop that ends does so within a period: after a period of rejected draws it
would be back where it started. -/
theorem Finds.lt_period
    {rejections : Nat}
    (finds : Finds bound width rejections generator found) :
    rejections < period := by
  by_contra many
  obtain ⟨later, rfl⟩ := Nat.exists_eq_add_of_le' (Nat.le_of_not_lt many)
  have again := finds.after
  rw [iterate_bits_period] at again
  have same : later = later + period := (again.unique finds).1
  have positive : 0 < period := Nat.two_pow_pos 64
  omega

end

/-! ## The bounded search is the loop -/

/-- A number is found below a bound if the loop ends in it. -/
theorem below?_eq_some_iff
    {bound : Nat}
    {generator : Generator}
    {found : Nat × Generator} :
    below? bound generator = some found ↔
      ∃ rejections, Finds bound (Bits.size bound) rejections generator found := by
  rw [below?, seek_eq_some_iff]
  constructor
  · rintro ⟨rejections, _, finds⟩
    exact ⟨rejections, finds⟩
  · rintro ⟨rejections, finds⟩
    exact ⟨rejections, finds.lt_period, finds⟩

/-- From every state, the loop for a positive bound of at most thirty-two bits
ends, in what the bounded search finds. -/
theorem exists_finds
    {bound : Nat}
    (positive : 0 < bound)
    (short : bound < 2 ^ 32)
    (generator : Generator) :
    ∃ rejections found, rejections < period ∧
      Finds bound (Bits.size bound) rejections generator found ∧
      below? bound generator = some found := by
  obtain ⟨found, sought, _⟩ := exists_below positive short generator
  obtain ⟨rejections, finds⟩ := below?_eq_some_iff.mp sought
  exact ⟨rejections, found, finds.lt_period, finds, sought⟩

end Generator
end Readout
