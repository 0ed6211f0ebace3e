import Columnar.Proofs.Bytes
import Columnar.Proofs.Column
import Columnar.Proofs.Ipc.Columns

/-!
What the buffers of a column hold, as bytes. A bit of a bitmap is looked up in its byte (`Bits.bitAt`), a
word by its place (`Bytes.wordAt`). The buffers of a column show which of its cells are nulls and, slot by
slot, the numbers, the truth values or the parts of the others (`Column.buffered`).
-/
namespace Columnar

/-- The bit at a place of a bitmap, the first bit of a byte being its lowest. -/
def Bits.bitAt (bytes : Bytes) (place : Nat) : Bool :=
  (bytes.getD (place / 8) 0).toNat.testBit (place % 8)

/-- The number in a slot of a buffer of words. -/
def Bytes.wordAt (width : Nat) (bytes : Bytes) (index : Nat) : Nat :=
  toNat (bytes.slice (width * index) width)

namespace Cell

def word : Cell → Nat
  | int32 value => value.toUInt32.toNat
  | int64 value | timestamp value => value.toUInt64.toNat
  | float32 value => value.toNat
  | float64 value => value.toNat
  | _ => 0

def part : Cell → Bytes
  | text value | categorical value => Text.bytes value
  | bytes value | blob value => value
  | _ => []

end Cell

namespace Ipc

/-- Whether a buffer is a bitmap with the given bits. -/
structure Bitmap (bits : List Bool) (buffer : Bytes) : Prop where
  length : buffer.length = (bits.length + 7) / 8
  bit : ∀ (place : Nat) (bit : Bool), bits[place]? = some bit → Bits.bitAt buffer place = bit

/-- Whether a buffer has the given numbers as words of a width. -/
structure Words (width : Nat) (numbers : List Nat) (buffer : Bytes) : Prop where
  length : buffer.length = width * numbers.length
  word : ∀ (index number : Nat), numbers[index]? = some number →
    Bytes.wordAt width buffer index = number

/-- Whether offsets divide data into parts: without parts there are none, and otherwise there is one
more than there are parts, from zero on to the length of the data, none below the one before it. -/
structure Offsets (parts : List Bytes) (offsets data : Bytes) : Prop where
  none : parts = [] → offsets = [] ∧ data = []
  length : parts ≠ [] → offsets.length = 4 * (parts.length + 1)
  start : parts ≠ [] → Bytes.wordAt 4 offsets 0 = 0
  stop : parts ≠ [] → Bytes.wordAt 4 offsets parts.length = data.length
  ascending : ∀ index < parts.length,
    Bytes.wordAt 4 offsets index ≤ Bytes.wordAt 4 offsets (index + 1)
  part : ∀ (index : Nat) (part : Bytes), parts[index]? = some part →
    data.slice (Bytes.wordAt 4 offsets index)
      (Bytes.wordAt 4 offsets (index + 1) - Bytes.wordAt 4 offsets index) = part

/-- Whether buffers are those of a column of the given type and cells: first the bitmap of what is not
null, then the values, or for types of no fixed width the offsets and the data. -/
inductive Buffered (type : ColumnType) (cells : List Cell) : List Bytes → Prop
  | truths {bitmap values : Bytes} (boolean : type = .boolean)
    (validity : Bitmap (cells.map (!·.isNull)) bitmap)
    (truths : Bitmap (cells.map (decide <| · = .boolean true)) values) :
    Buffered type cells [bitmap, values]
  | words {bitmap values : Bytes} {width : Nat} (fixed : type.bitWidth? = some (8 * width))
    (validity : Bitmap (cells.map (!·.isNull)) bitmap)
    (words : Words width (cells.map Cell.word) values) : Buffered type cells [bitmap, values]
  | parts {bitmap offsets data : Bytes} (unfixed : type.bitWidth? = none)
    (validity : Bitmap (cells.map (!·.isNull)) bitmap)
    (parts : Offsets (cells.map Cell.part) offsets data) :
    Buffered type cells [bitmap, offsets, data]

end Ipc

namespace Bits

private theorem getElem?_flatMap_ofByte {bytes : Bytes} {place : Nat}
    (inside : place < 8 * bytes.length) :
    (bytes.flatMap ofByte)[place]? = some (bitAt bytes place) := by
  induction bytes generalizing place with
  | nil => simp at inside
  | cons byte rest ih =>
    have eight : (ofByte byte).length = 8 := by simp [ofByte]
    rw [List.flatMap_cons]
    by_cases first : place < 8
    · rw [List.getElem?_append_left (by omega), bitAt, Nat.div_eq_of_lt first, Nat.mod_eq_of_lt first]
      simp [ofByte, first]
    · rw [List.length_cons] at inside
      have later := @ih (place - 8) (by omega)
      have place' : place / 8 = (place - 8) / 8 + 1 := by omega
      have bit : (place - 8) % 8 = place % 8 := by omega
      rw [List.getElem?_append_right (by omega), eight, later, bitAt, bitAt, place', bit]
      rfl

private theorem bitmap_pack (bits : List Bool) : Ipc.Bitmap bits (pack bits) := by
  refine ⟨length_pack bits, ?_⟩
  intro place bit found
  obtain ⟨inside, -⟩ := List.getElem?_eq_some_iff.mp found
  have whole : place < 8 * (pack bits).length := by
    rw [length_pack, byteCount]
    omega
  rw [← unpack_pack bits, unpack, List.getElem?_take_of_lt inside, getElem?_flatMap_ofByte whole] at found
  exact Option.some.inj found

private theorem bitmap_ones {bits : List Bool} (all : ∀ bit ∈ bits, bit = true) :
    Ipc.Bitmap bits (List.replicate (byteCount bits.length) 0xFF) := by
  refine ⟨List.length_replicate, ?_⟩
  intro place bit found
  obtain ⟨inside, -⟩ := List.getElem?_eq_some_iff.mp found
  have byte : place / 8 < byteCount bits.length := by
    rw [byteCount]
    omega
  have ones : ∀ bit < 8, (0xFF : UInt8).toNat.testBit bit = true := by decide
  rw [bitAt, List.getD_eq_getElem?_getD, List.getElem?_replicate_of_lt byte, Option.getD_some,
    ones _ (Nat.mod_lt place (by decide)), all bit (List.mem_of_getElem? found)]

end Bits

namespace Bytes

private theorem wordAt_flatMap {width : Nat} {numbers : List Nat}
    (fits : ∀ n ∈ numbers, n < 256 ^ width) {index number : Nat}
    (found : numbers[index]? = some number) :
    wordAt width (numbers.flatMap (ofNat width)) index = number := by
  induction numbers generalizing index with
  | nil => simp at found
  | cons first rest ih =>
    obtain ⟨own, others⟩ := List.forall_mem_cons.mp fits
    have size := length_ofNat width first
    rw [List.flatMap_cons, wordAt, slice]
    cases index with
    | zero =>
      obtain rfl := Option.some.inj found
      rw [Nat.mul_zero, List.drop_zero, List.take_left' size, toNat_ofNat_of_lt own]
    | succ index =>
      have later := ih others found
      rw [Nat.mul_succ, Nat.add_comm, ← List.drop_drop, List.drop_left' size]
      exact later

end Bytes

private theorem Ipc.words_flatMap {width : Nat} {numbers : List Nat}
    (fits : ∀ n ∈ numbers, n < 256 ^ width) :
    Words width numbers (numbers.flatMap (Bytes.ofNat width)) := by
  refine ⟨?_, fun index number => Bytes.wordAt_flatMap fits⟩
  rw [length_flatMap_ofNat, Nat.mul_comm]

namespace ColumnData

private theorem getElem?_ends (start : Nat) {parts : List Bytes} {index : Nat}
    (inside : index ≤ parts.length) :
    (start :: ends start parts)[index]? = some (start + (parts.take index).flatten.length) := by
  induction parts generalizing start index with
  | nil =>
    obtain rfl := Nat.le_zero.mp inside
    rfl
  | cons part rest ih =>
    cases index with
    | zero => rfl
    | succ index =>
      have later := ih (start + part.length) (Nat.le_of_succ_le_succ inside)
      rw [List.getElem?_cons_succ, ends, later, List.take_succ_cons, List.flatten_cons,
        List.length_append, Nat.add_assoc]

section Offsets

variable {parts : List Bytes} (fits : parts.flatten.length < 2 ^ 31)

include fits

private theorem wordAt_offsetBuffer (some : parts ≠ []) {index : Nat} (inside : index ≤ parts.length) :
    Bytes.wordAt 4 (offsetBuffer parts) index = (parts.take index).flatten.length := by
  have small : ∀ n ∈ 0 :: ends 0 parts, n < 256 ^ 4 := by
    refine List.forall_mem_cons.mpr ⟨by decide, fun stop member => ?_⟩
    have bound := le_of_mem_ends member
    omega
  rw [offsetBuffer, if_neg some]
  apply Bytes.wordAt_flatMap small
  rw [getElem?_ends 0 inside, Nat.zero_add]

private theorem offsets_offsetBuffer : Ipc.Offsets parts (offsetBuffer parts) parts.flatten := by
  have offset {index : Nat} (inside : index < parts.length) :
      Bytes.wordAt 4 (offsetBuffer parts) index = (parts.take index).flatten.length ∧
        Bytes.wordAt 4 (offsetBuffer parts) (index + 1) =
          (parts.take index).flatten.length + parts[index].length := by
    have some := List.ne_nil_of_length_pos (Nat.zero_lt_of_lt inside)
    rw [wordAt_offsetBuffer fits some (Nat.le_of_lt inside), wordAt_offsetBuffer fits some inside,
      List.take_succ_eq_append_getElem inside, List.flatten_append, List.length_append,
      List.flatten_singleton]
    exact ⟨rfl, rfl⟩
  refine ⟨?_, ?_, ?_, ?_, ?_, ?_⟩
  · rintro rfl
    exact ⟨rfl, rfl⟩
  · intro some
    rw [offsetBuffer, if_neg some, Ipc.length_flatMap_ofNat, List.length_cons, length_ends,
      Nat.mul_comm]
  · intro some
    rw [wordAt_offsetBuffer fits some (Nat.zero_le _)]
    rfl
  · intro some
    rw [wordAt_offsetBuffer fits some (Nat.le_refl _), List.take_length]
  · intro index inside
    rw [(offset inside).1, (offset inside).2]
    exact Nat.le_add_right _ _
  · intro index part found
    obtain ⟨inside, rfl⟩ := List.getElem?_eq_some_iff.mp found
    rw [(offset inside).1, (offset inside).2, Nat.add_sub_cancel_left]
    -- The data is cut into what is before the part, the part, and what is behind it.
    have cut : parts.flatten =
        (parts.take index).flatten ++ (parts[index] ++ (parts.drop (index + 1)).flatten) := by
      rw [← List.flatten_cons, ← List.flatten_append, ← List.drop_eq_getElem_cons inside,
        List.take_append_drop]
    exact Bytes.slice_of_append cut

end Offsets

private theorem map_slotCells {α β : Type} {toCell : α → Cell} {read : Cell → β} {own : Option α → β}
    (slots : List (Option α)) (null : read .null = own none)
    (filled : ∀ a, read (toCell a) = own (some a)) :
    (slotCells toCell slots).map read = slots.map own := by
  rw [slotCells, List.map_map]
  apply List.map_congr_left
  rintro (_ | a) _
  · exact null
  · exact filled a

private theorem validity_eq (type : ColumnType) (data : ColumnData) :
    (data.cells type).map (!·.isNull) = data.validity := by
  cases data with
  | utf8 slots =>
    refine map_slotCells slots rfl fun text => ?_
    rw [textCell]
    split <;> rfl
  | binary slots =>
    refine map_slotCells slots rfl fun bytes => ?_
    rw [bytesCell]
    split <;> rfl
  | _ slots => exact map_slotCells slots rfl fun _ => rfl

private theorem bitmap_validityBuffer (type : ColumnType) (data : ColumnData) :
    Ipc.Bitmap ((data.cells type).map (!·.isNull)) data.validityBuffer := by
  rw [validity_eq, validityBuffer]
  split
  case isTrue none =>
    rw [← length_validity]
    apply Bits.bitmap_ones
    intro bit member
    cases bit with
    | true => rfl
    | false => exact absurd member (List.count_eq_zero.mp none)
  case isFalse => exact Bits.bitmap_pack data.validity

private theorem words_slots {α : Type} {width : Nat} {toNat : α → Nat} {toCell : α → Cell}
    (slots : List (Option α)) (fits : ∀ a, toNat a < 256 ^ width)
    (own : ∀ a, (toCell a).word = toNat a) :
    Ipc.Words width ((slotCells toCell slots).map Cell.word) (words width toNat slots) := by
  have numbers : (slotCells toCell slots).map Cell.word = slots.map fun slot => slot.elim 0 toNat :=
    map_slotCells slots rfl own
  rw [numbers, Ipc.words_eq]
  apply Ipc.words_flatMap
  intro n member
  obtain ⟨slot, -, rfl⟩ := List.mem_map.mp member
  cases slot with
  | none => exact Nat.pow_pos (by decide)
  | some a => exact fits a

end ColumnData

open ColumnData in
/-- The buffers of a column show its cells, if its texts or byte strings have offsets that fit. -/
theorem Column.buffered {column : Column} (fits : column.data.parts.flatten.length < 2 ^ 31) :
    Ipc.Buffered column.type column.cells column.data.buffers := by
  obtain ⟨name, type, data, stored⟩ := column
  have validity := bitmap_validityBuffer type data
  have parted (unfixed : type.bitWidth? = none)
      (parts : (data.cells type).map Cell.part = data.parts) : Ipc.Buffered type (data.cells type)
        [data.validityBuffer, offsetBuffer data.parts, data.parts.flatten] := by
    refine .parts unfixed validity ?_
    rw [parts]
    exact offsets_offsetBuffer fits
  cases type <;> cases data <;> cases stored
  · exact .words rfl validity (words_slots _ (fun a => a.toUInt32.toNat_lt) fun _ => rfl)
  · exact .words rfl validity (words_slots _ (fun a => a.toUInt64.toNat_lt) fun _ => rfl)
  · exact .words rfl validity (words_slots _ (fun a => a.toNat_lt) fun _ => rfl)
  · exact .words rfl validity (words_slots _ (fun a => a.toNat_lt) fun _ => rfl)
  · refine .truths rfl validity ?_
    have truths (slots : List (Option Bool)) :
        (slotCells .boolean slots).map (decide <| · = .boolean true) = slots.map (·.getD false) := by
      apply map_slotCells slots rfl
      intro truth
      cases truth <;> rfl
    rw [Column.cells, ColumnData.cells, truths]
    exact Bits.bitmap_pack _
  · exact parted rfl (map_slotCells _ rfl fun _ => rfl)
  · exact parted rfl (map_slotCells _ rfl fun _ => rfl)
  · exact .words rfl validity (words_slots _ (fun a => a.toUInt64.toNat_lt) fun _ => rfl)
  · exact parted rfl (map_slotCells _ rfl fun _ => rfl)
  · exact parted rfl (map_slotCells _ rfl fun _ => rfl)

end Columnar
