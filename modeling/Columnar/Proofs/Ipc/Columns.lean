import Columnar.Proofs.Ipc.Strings

/-!
Columns read back from their buffers. Whatever the storage, the node and the buffers of a column give
the column again (`columnOf_buffers`), as long as its texts or byte strings have offsets that fit.
-/
namespace Columnar

namespace ColumnData

@[simp] theorem length_validity (data : ColumnData) : data.validity.length = data.length := by
  cases data <;> simp [validity, length]

theorem nullCount_le_length (data : ColumnData) : data.nullCount ≤ data.length := by
  rw [nullCount, ← length_validity]
  exact List.count_le_length

@[simp] theorem length_validityBuffer (data : ColumnData) :
    data.validityBuffer.length = Bits.byteCount data.length := by
  rw [validityBuffer]
  split <;> simp

private theorem parts_utf8 (slots : List (Option String)) :
    (utf8 slots).parts = (slots.map (·.getD "")).map Text.bytes := by
  rw [parts, List.map_map]
  refine List.map_congr_left fun slot _ => ?_
  cases slot <;> rfl

private theorem parts_binary (slots : List (Option Bytes)) :
    (binary slots).parts = slots.map (·.getD []) := by
  refine List.map_congr_left fun slot _ => ?_
  cases slot <;> rfl

private theorem validityBuffer_of_nulls {data : ColumnData} (some : 0 < data.nullCount) :
    data.validityBuffer = Bits.pack data.validity :=
  if_neg (Nat.ne_of_gt some)

end ColumnData

namespace Ipc

theorem toWord_ofNat {number : Nat} (fits : number < 2 ^ 64) : toWord number = number := by
  rw [toWord]
  omega

/-- A word comes back, also where the sign of a signed one has taken its highest bit. -/
theorem toWord_toInt {number : Nat} (fits : number < 2 ^ 64) :
    toWord (Bytes.toInt 8 (Bytes.ofNat 8 number)) = number := by
  have word : 256 ^ 8 = 2 ^ 64 := rfl
  rw [toWord, Bytes.toInt, Bytes.toNat_ofNat_of_lt (by omega)]
  split <;> omega

theorem checkBitmap_validityBuffer (data : ColumnData) :
    checkBitmap data.length data.nullCount data.validityBuffer = .ok () := by
  refine insist_of (Bool.or_eq_true_iff.mpr (.inr (decide_eq_true ?_)))
  rw [ColumnData.length_validityBuffer, Bits.byteCount]
  omega

section Slots

variable {α : Type} (slots : List (Option α)) {bitmap : Bytes}
  (packed : 0 < (slots.map (·.isSome)).count false → bitmap = Bits.pack (slots.map (·.isSome)))

include packed

private theorem slotsOf_words {toNat : α → Nat} {ofNat : Nat → α} (back : ∀ a, ofNat (toNat a) = a) :
    slotsOf slots.length ((slots.map (·.isSome)).count false) bitmap
      ((slots.map fun slot => slot.elim 0 toNat).map ofNat) = slots := by
  have same : (slots.map fun slot => slot.elim 0 toNat).map ofNat =
      slots.map (·.getD (ofNat 0)) := by
    rw [List.map_map]
    refine List.map_congr_left fun slot _ => ?_
    cases slot with
    | none => rfl
    | some a => exact back a
  rw [same, slotsOf_getD slots _ packed]

private theorem wordColumn {width : Nat} {toNat : α → Nat} {ofNat : Nat → α}
    (fits : ∀ a, toNat a < 256 ^ width) (back : ∀ a, ofNat (toNat a) = a)
    (make : List (Option α) → ColumnData) :
    (do let values ← fixedValues width slots.length (ColumnData.words width toNat slots)
        .ok (make (slotsOf slots.length ((slots.map (·.isSome)).count false) bitmap
          (values.map ofNat))) : Decoded ColumnData) = .ok (make slots) := by
  rw [fixedValues_words slots fits, ok_bind, slotsOf_words slots packed back]

end Slots

private theorem truthValues_pack (bits : List Bool) :
    truthValues bits.length (Bits.pack bits) = .ok bits := by
  rw [truthValues, accept_of (decide_eq_true (by simp)), ok_bind, Bits.unpack_pack]

theorem columnOf_buffers {data : ColumnData} (rows : data.length < 2 ^ 64)
    (fits : data.parts.flatten.length < 2 ^ 31) :
    columnOf data.storage data.node data.buffers = .ok data := by
  have checked := checkBitmap_validityBuffer data
  have packed := @ColumnData.validityBuffer_of_nulls data
  unfold columnOf
  rw [ColumnData.node]
  dsimp only
  rw [toWord_ofNat rows, ColumnData.buffers, List.getD_cons_zero, checked, ok_bind]
  cases data with
  | int32 slots => exact wordColumn slots packed (fun a => a.toUInt32.toNat_lt) (fun a => by simp) _
  | int64 slots => exact wordColumn slots packed (fun a => a.toUInt64.toNat_lt) (fun a => by simp) _
  | float32 slots => exact wordColumn slots packed (fun a => a.toNat_lt) (fun a => by simp) _
  | float64 slots => exact wordColumn slots packed (fun a => a.toNat_lt) (fun a => by simp) _
  | timestampMillis slots =>
    exact wordColumn slots packed (fun a => a.toUInt64.toNat_lt) (fun a => by simp) _
  | boolean slots =>
    have values := truthValues_pack (slots.map (·.getD false))
    rw [List.length_map] at values
    refine bind_eq_ok.mpr ⟨_, values, ?_⟩
    exact congrArg (fun found => Except.ok (ColumnData.boolean found)) (slotsOf_getD slots _ packed)
  | utf8 slots =>
    rw [ColumnData.parts_utf8] at fits
    have values := textValues_offsetBuffer fits
    rw [List.length_map, ← ColumnData.parts_utf8] at values
    refine bind_eq_ok.mpr ⟨_, values, ?_⟩
    exact congrArg (fun found => Except.ok (ColumnData.utf8 found)) (slotsOf_getD slots _ packed)
  | binary slots =>
    have values := binaryValues_offsetBuffer fits
    rw [ColumnData.parts_binary, List.length_map, ← ColumnData.parts_binary] at values
    refine bind_eq_ok.mpr ⟨_, values, ?_⟩
    rw [ColumnData.parts_binary]
    exact congrArg (fun found => Except.ok (ColumnData.binary found)) (slotsOf_getD slots _ packed)

end Ipc

end Columnar
