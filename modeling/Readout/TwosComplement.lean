/-!
# Bitwise combination of integers of any size

An integer is read as an infinite two's complement string of bits, so that a
negative integer has infinitely many set bits.
-/

namespace Readout
namespace TwosComplement

/-- The integer whose bits are set where exactly one argument has a set bit. -/
def xor : Int → Int → Int
  | .ofNat left, .ofNat right => .ofNat (left ^^^ right)
  | .ofNat left, .negSucc right => .negSucc (left ^^^ right)
  | .negSucc left, .ofNat right => .negSucc (left ^^^ right)
  | .negSucc left, .negSucc right => .ofNat (left ^^^ right)

/-- A natural number changes under every mask but zero. -/
theorem natXor_eq_left_iff (number mask : Nat) :
    number ^^^ mask = number ↔ mask = 0 := by
  constructor
  · intro unchanged
    have cancelled : number ^^^ (number ^^^ mask) = number ^^^ number :=
      congrArg (number ^^^ ·) unchanged
    simpa [← Nat.xor_assoc] using cancelled
  · rintro rfl
    exact Nat.xor_zero number

/-- Combining with a mask changes a number exactly when the mask is not zero. -/
theorem xor_eq_self_iff (number mask : Int) :
    xor number mask = number ↔ mask = 0 := by
  cases number with
  | ofNat number =>
      cases mask with
      | ofNat mask =>
          change Int.ofNat (number ^^^ mask) = Int.ofNat number ↔
            Int.ofNat mask = Int.ofNat 0
          rw [Int.ofNat.injEq, Int.ofNat.injEq, natXor_eq_left_iff]
      | negSucc mask => exact ⟨nofun, nofun⟩
  | negSucc number =>
      cases mask with
      | ofNat mask =>
          change Int.negSucc (number ^^^ mask) = Int.negSucc number ↔
            Int.ofNat mask = Int.ofNat 0
          rw [Int.negSucc.injEq, Int.ofNat.injEq, natXor_eq_left_iff]
      | negSucc mask => exact ⟨nofun, nofun⟩

end TwosComplement
end Readout
