import Columnar.Ipc.BodyReader
import Columnar.Proofs.Sequence

/-!
Bitmaps and words of columns, read back. Unpacking gives the bits that were packed (`unpack_pack`),
and a bitmap with the values under it gives the slots of the column (`slotsOf_getD`).
-/
namespace Columnar

namespace Bits

/-- The number of a row of bits, the first of them the lowest. -/
def toNat (bits : List Bool) : Nat :=
  bits.foldr (fun bit value => bit.toNat + 2 * value) 0

private theorem toNat_lt (bits : List Bool) : toNat bits < 2 ^ bits.length := by
  induction bits with
  | nil => decide
  | cons bit rest ih =>
    have small : bit.toNat < 2 := bit.toNat_lt
    rw [toNat, List.foldr_cons, ← toNat, List.length_cons, Nat.pow_succ]
    omega

private theorem testBit_toNat (bits : List Bool) (place : Nat) :
    (toNat bits).testBit place = bits.getD place false := by
  induction bits generalizing place with
  | nil => simp [toNat]
  | cons bit rest ih =>
    have high : (bit.toNat + 2 * toNat rest) / 2 = toNat rest := by
      have small := bit.toNat_lt
      omega
    show (bit.toNat + 2 * toNat rest).testBit place = _
    cases place with
    | zero => cases bit <;> simp [Nat.testBit_zero]
    | succ place => simp [Nat.testBit_succ, high, ih]

private theorem ofByte_toByte {bits : List Bool} (few : bits.length ≤ 8) :
    ofByte (toByte bits) = bits ++ List.replicate (8 - bits.length) false := by
  have small : toNat bits < 256 :=
    Nat.lt_of_lt_of_le (toNat_lt bits) (Nat.pow_le_pow_right (by decide) few)
  have same : (toByte bits).toNat = toNat bits := by
    rw [toByte, UInt8.toNat_ofNat', ← toNat, Nat.mod_eq_of_lt small]
  refine List.ext_getElem (by simp [ofByte]; omega) fun place left right => ?_
  simp only [ofByte, List.getElem_map, List.getElem_range, same, testBit_toNat]
  by_cases inside : place < bits.length
  · simp [inside]
  · rw [List.getElem_append_right (Nat.not_lt.mp inside)]
    simp [Nat.not_lt.mp inside]

private theorem flatMap_packInto {count : Nat} {bits : List Bool} (enough : bits.length ≤ 8 * count) :
    (packInto count bits).flatMap ofByte =
      bits ++ List.replicate (8 * count - bits.length) false := by
  induction count generalizing bits with
  | zero =>
    obtain rfl := List.length_eq_zero_iff.mp (Nat.le_zero.mp enough)
    rfl
  | succ count ih =>
    have later : (bits.drop 8).length ≤ 8 * count := by
      rw [List.length_drop]
      omega
    rw [packInto, List.flatMap_cons, ofByte_toByte (List.length_take_le 8 bits), ih later]
    rcases Nat.le_total bits.length 8 with short | long
    · rw [List.take_of_length_le short, List.drop_eq_nil_of_le short, List.nil_append,
        List.append_assoc, List.replicate_append_replicate]
      congr 2
      simp only [List.length_nil]
      omega
    · rw [List.length_take_of_le long, Nat.sub_self, List.replicate_zero, List.append_nil,
        ← List.append_assoc, List.take_append_drop, List.length_drop]
      congr 2
      omega

@[simp] theorem length_packInto (count : Nat) (bits : List Bool) :
    (packInto count bits).length = count := by
  induction count generalizing bits with
  | zero => rfl
  | succ count ih => simp [packInto, ih]

@[simp] theorem length_pack (bits : List Bool) : (pack bits).length = byteCount bits.length :=
  length_packInto _ bits

theorem unpack_pack (bits : List Bool) : unpack bits.length (pack bits) = bits := by
  have enough : bits.length ≤ 8 * byteCount bits.length := by
    rw [byteCount]
    omega
  rw [unpack, pack, flatMap_packInto enough, List.take_left]

end Bits

namespace Ipc

theorem accept_of {condition : Bool} (holds : condition = true) : accept condition = .ok () :=
  if_pos holds

theorem insist_of {condition : Bool} (holds : condition = true) : insist condition = .ok () :=
  if_pos holds

theorem slotsOf_getD {α : Type} (slots : List (Option α)) (default : α) {bitmap : Bytes}
    (packed : 0 < (slots.map (·.isSome)).count false → bitmap = Bits.pack (slots.map (·.isSome))) :
    slotsOf slots.length ((slots.map (·.isSome)).count false) bitmap
      (slots.map (·.getD default)) = slots := by
  rw [slotsOf]
  split
  case isTrue some =>
    have same : Bits.unpack slots.length bitmap = slots.map (·.isSome) := by
      rw [packed (by exact_mod_cast some)]
      simpa using Bits.unpack_pack (slots.map (·.isSome))
    rw [same, List.zipWith_map_left, List.zipWith_map_right]
    refine List.ext_getElem (by simp) fun index left right => ?_
    cases found : slots[index] <;> simp [found]
  case isFalse none =>
    have full : ∀ slot ∈ slots, slot.isSome = true := by
      intro slot member
      have absent : false ∉ slots.map (·.isSome) := List.count_eq_zero.mp (by omega)
      cases held : slot.isSome with
      | true => rfl
      | false => exact absurd (List.mem_map.mpr ⟨slot, member, held⟩) absent
    rw [List.map_map]
    refine (List.map_congr_left fun slot member => ?_).trans (List.map_id slots)
    obtain ⟨a, rfl⟩ := Option.isSome_iff_exists.mp (full slot member)
    rfl

theorem wordsOf_flatMap {width : Nat} {numbers : List Nat} (fits : ∀ n ∈ numbers, n < 256 ^ width) :
    wordsOf width numbers.length (numbers.flatMap (Bytes.ofNat width)) = numbers := by
  induction numbers with
  | nil => rfl
  | cons n rest ih =>
    have size := Bytes.length_ofNat width n
    rw [List.length_cons, wordsOf, List.flatMap_cons, List.take_left' size, List.drop_left' size,
      ih fun other member => fits other (by simp [member]), Bytes.toNat_ofNat_of_lt (fits n (by simp))]

theorem words_eq {α : Type} (width : Nat) (toNat : α → Nat) (slots : List (Option α)) :
    ColumnData.words width toNat slots =
      (slots.map fun slot => slot.elim 0 toNat).flatMap (Bytes.ofNat width) := by
  rw [ColumnData.words, List.flatMap_map]

theorem length_flatMap_ofNat (width : Nat) (numbers : List Nat) :
    (numbers.flatMap (Bytes.ofNat width)).length = numbers.length * width := by
  simp [List.length_flatMap, List.map_const']

theorem fixedValues_words {α : Type} {width : Nat} {toNat : α → Nat} (slots : List (Option α))
    (fits : ∀ a, toNat a < 256 ^ width) :
    fixedValues width slots.length (ColumnData.words width toNat slots) =
      .ok (slots.map fun slot => slot.elim 0 toNat) := by
  have small : ∀ n ∈ slots.map fun slot => slot.elim 0 toNat, n < 256 ^ width := by
    intro n member
    obtain ⟨slot, -, rfl⟩ := List.mem_map.mp member
    cases slot with
    | none => exact Nat.pow_pos (by decide)
    | some a => exact fits a
  have values := wordsOf_flatMap small
  rw [List.length_map] at values
  have size : (ColumnData.words width toNat slots).length = slots.length * width := by
    rw [words_eq, length_flatMap_ofNat, List.length_map]
  rw [fixedValues, accept_of (decide_eq_true (Nat.le_of_eq size.symm)), ok_bind, words_eq, values]

end Ipc

end Columnar
