/-!
# Ranges of code points

A class of characters is a list of ranges, each given by its first and its last
code point. The ranges follow one another, so that a search ends at the first
range that begins behind the character sought. `inRanges_iff` says that nothing
is missed by this.
-/

namespace Readout
namespace Text

/-- Whether ranges begin at or behind a bound and each behind the one before. -/
def follow (bound : Nat) : List (Nat × Nat) → Bool
  | [] => true
  | (first, last) :: rest =>
      decide (bound ≤ first) && decide (first ≤ last) && follow (last + 1) rest

/-- Whether a code point lies in one of the ranges, which follow one another. -/
def inRanges (code : Nat) : List (Nat × Nat) → Bool
  | [] => false
  | (first, last) :: rest =>
      decide (first ≤ code) && (decide (code ≤ last) || inRanges code rest)

/-- Ranges that follow a bound begin at or behind it. -/
theorem le_first_of_follow
    {bound : Nat}
    {ranges : List (Nat × Nat)}
    (ordered : follow bound ranges = true) :
    ∀ range ∈ ranges, bound ≤ range.1 := by
  induction ranges generalizing bound with
  | nil => simp
  | cons range rest inductionHypothesis =>
      simp only [follow, Bool.and_eq_true, decide_eq_true_eq] at ordered
      obtain ⟨⟨start, proper⟩, orderedRest⟩ := ordered
      intro other member
      rcases List.mem_cons.mp member with rfl | member
      · exact start
      · have behind := inductionHypothesis orderedRest other member
        omega

/-- A code point is found exactly if one of the ranges holds it. -/
theorem inRanges_iff
    {bound code : Nat}
    {ranges : List (Nat × Nat)}
    (ordered : follow bound ranges = true) :
    inRanges code ranges = true ↔
      ∃ range ∈ ranges, range.1 ≤ code ∧ code ≤ range.2 := by
  induction ranges generalizing bound with
  | nil => simp [inRanges]
  | cons range rest inductionHypothesis =>
      simp only [follow, Bool.and_eq_true, decide_eq_true_eq] at ordered
      obtain ⟨⟨start, proper⟩, orderedRest⟩ := ordered
      simp only [inRanges, Bool.and_eq_true, Bool.or_eq_true, decide_eq_true_eq,
        inductionHypothesis orderedRest, List.mem_cons, exists_eq_or_imp]
      constructor
      · rintro ⟨reached, inside | inRest⟩
        · exact Or.inl ⟨reached, inside⟩
        · exact Or.inr inRest
      · rintro (⟨reached, inside⟩ | ⟨later, member, reached, inside⟩)
        · exact ⟨reached, Or.inl inside⟩
        · have behind := le_first_of_follow orderedRest later member
          exact ⟨by omega, Or.inr ⟨later, member, reached, inside⟩⟩

end Text
end Readout
