/-!
# Little-endian bit lists

The bit at index `i` of a list weighs `2 ^ i`, and the size of a number is the
length of the shortest list that stands for it.
-/

namespace Readout
namespace Bits

/-- The number that a list of bits stands for, lowest bit first. -/
def value : List Bool → Nat
  | [] => 0
  | bit :: rest => bit.toNat + 2 * value rest

/-- The number of bits that a number takes without leading zeros. -/
def size (number : Nat) : Nat :=
  if number = 0 then 0 else number.log2 + 1

@[simp] theorem value_nil : value [] = 0 := rfl

@[simp] theorem value_cons
    (bit : Bool)
    (rest : List Bool) :
    value (bit :: rest) = bit.toNat + 2 * value rest := rfl

end Bits
end Readout
