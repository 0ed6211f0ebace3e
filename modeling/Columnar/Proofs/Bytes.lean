import Columnar.Bytes

/-!
Lengths of byte strings that are filled up to multiples of an alignment, and parts of byte strings.
-/
namespace Columnar.Bytes

theorem roundUp_mod {alignment : Nat} (positive : 0 < alignment) (length : Nat) :
    roundUp alignment length % alignment = 0 := by
  have below := Nat.mod_lt length positive
  have parts := Nat.div_add_mod length alignment
  have whole : length + (alignment - length % alignment) =
      alignment * (length / alignment + 1) := by
    rw [Nat.mul_add]
    omega
  rw [roundUp, gap, Nat.add_mod_mod, whole, Nat.mul_mod_right]

theorem le_roundUp (alignment length : Nat) : length ≤ roundUp alignment length :=
  Nat.le_add_right _ _

theorem roundUp_lt {alignment : Nat} (positive : 0 < alignment) (length : Nat) :
    roundUp alignment length < length + alignment :=
  Nat.add_lt_add_left (Nat.mod_lt _ positive) length

@[simp] theorem length_padded (alignment : Nat) (bytes : Bytes) :
    (padded alignment bytes).length = roundUp alignment bytes.length := by
  simp [padded, roundUp]

theorem slice_of_append {content before part after : Bytes}
    (parts : content = before ++ (part ++ after)) :
    content.slice before.length part.length = part := by
  rw [parts, slice, List.drop_left, List.take_left]

end Columnar.Bytes
