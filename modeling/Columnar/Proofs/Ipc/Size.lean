import Columnar.Proofs.Ipc.Description
import Mathlib.Algebra.Order.BigOperators.Group.List
import Mathlib.Algebra.Order.Ring.Nat

/-!
How large a file gets. A field takes little more than its texts (`length_fieldBlock_le`), and so a file of
not too many short fields is one that its format can take, if its body is (`FileContents.Short.fits`).
Then the budget of the reader covers its bytes, and so all of it if it covers the tables
(`FileContents.Short.covered`).
-/
namespace Columnar.Ipc

open Flatbuffer

private theorem length_text_le (text : String) :
    (Block.text text).bytes.length ≤ (Text.bytes text).length + 12 := by
  have short := Bytes.roundUp_lt (by decide : 0 < 8) (4 + ((Text.bytes text).length + 1))
  rw [length_text]
  omega

private theorem length_table_le {slots : List Slot} (sound : ∀ slot ∈ slots, slot.Sound) :
    (Block.table slots).bytes.length ≤ 10 * slots.length + childLength slots + 15 := by
  have short := Bytes.roundUp_lt (by decide : 0 < 8) (2 * slots.length)
  rw [length_table sound]
  omega

private theorem length_vector_le {α : Type} (block : α → Block) (xs : List α) :
    (Block.vector (xs.map block)).bytes.length ≤
      (xs.map fun x => (block x).bytes.length + 4).sum + 15 := by
  have short := Bytes.roundUp_lt (by decide : 0 < 8) (4 * xs.length)
  have total : ((xs.map block).flatMap (·.bytes)).length + 4 * xs.length =
      (xs.map fun x => (block x).bytes.length + 4).sum := by
    induction xs with
    | nil => rfl
    | cons x xs ih =>
      have later := ih (Bytes.roundUp_lt (by decide) _)
      simp only [List.map_cons, List.flatMap_cons, List.length_append, List.length_cons, List.sum_cons]
      omega
  rw [length_vector, List.length_map]
  omega

theorem sum_map_le {α : Type} {f : α → Nat} {bound : Nat} {xs : List α}
    (short : ∀ x ∈ xs, f x ≤ bound) : (xs.map f).sum ≤ xs.length * bound := by
  rw [← List.length_map f]
  exact List.sum_le_card_nsmul _ bound (by simpa using short)

/-- How many bytes the texts of a metadata entry take. -/
def entryBytes (entry : String × String) : Nat :=
  (Text.bytes entry.1).length + (Text.bytes entry.2).length

theorem length_keyValueBlock_le (entry : String × String) :
    (keyValueBlock entry).bytes.length ≤ entryBytes entry + 59 := by
  have key := length_text_le entry.1
  have value := length_text_le entry.2
  have table := @length_table_le [.child (Block.text entry.1), .child (Block.text entry.2)]
    (by simp [Slot.Sound, (means_text _).sound])
  simp only [childLength_cons, childLength_nil, Slot.childBytes, List.length_cons,
    List.length_nil] at table
  rw [keyValueBlock, entryBytes]
  omega

private theorem length_typeBlock_le (storage : StorageType) :
    (Block.table (typeSlots storage).2).bytes.length ≤ 32 := by
  cases storage <;> decide

theorem length_fieldBlock_le (field : WrittenField) :
    (fieldBlock field).bytes.length ≤ (Text.bytes field.name).length +
      (field.metadata.entries.map fun entry => (keyValueBlock entry).bytes.length + 4).sum + 152 := by
  have metadata := (means_vector fun entry (_ : entry ∈ field.metadata.entries) =>
    means_keyValue Nat.one_pos entry).sound
  have sound : ∀ slot ∈ fieldSlots field, slot.Sound := by
    simp [fieldSlots, Slot.Sound, (means_text _).sound, sound_table (sound_typeSlots field.storage).2,
      (means_vector_nil fun buffer => readField buffer 0).sound, metadata]
  have name := length_text_le field.name
  have type := length_typeBlock_le field.storage
  have children : (Block.vector []).bytes.length = 8 := rfl
  have entries := length_vector_le keyValueBlock field.metadata.entries
  have table := length_table_le sound
  simp only [fieldSlots, childLength_cons, childLength_nil, Slot.childBytes, List.length_cons,
    List.length_nil, children] at table
  rw [fieldBlock_eq, fieldSlots]
  omega

private theorem length_messageBlock_le {kind bodyLength : Nat} {header : Block} (sound : header.Sound) :
    (messageBlock kind header bodyLength).finish.length ≤ header.bytes.length + 63 := by
  have table := @length_table_le
    [.scalar 2 currentVersion, .scalar 1 kind, .child header, .scalar 8 bodyLength]
    (by simp [Slot.Sound, sound])
  simp only [childLength_cons, childLength_nil, Slot.childBytes, List.length_cons,
    List.length_nil] at table
  rw [messageBlock, length_finish]
  omega

namespace FileContents

private theorem length_schemaTable_le (contents : FileContents) :
    contents.schemaTable.length ≤
      (contents.fields.map fun field => (fieldBlock field).bytes.length + 4).sum + 113 := by
  have fields := (means_vector fun field (_ : field ∈ contents.fields) =>
    means_field Nat.one_pos field).sound
  have message := @length_messageBlock_le 1 0 _
    (@means_schema maxDepth (by decide) contents.fields).sound
  have vector := length_vector_le fieldBlock contents.fields
  have table := @length_table_le [.scalar 2 0, .child (Block.vector (contents.fields.map fieldBlock))]
    (by simp [Slot.Sound, fields])
  simp only [childLength_cons, childLength_nil, Slot.childBytes, List.length_cons,
    List.length_nil] at table
  rw [schemaTable]
  rw [schemaBlock] at message ⊢
  omega

private theorem length_structs_le (count : Nat) (raw : Bytes) :
    (Block.structs count raw).bytes.length ≤ raw.length + 15 := by
  have short := Bytes.roundUp_lt (by decide : 0 < 8) (8 + raw.length)
  rw [length_structs]
  omega

private theorem length_flatMap_of {α : Type} {toBytes : α → Bytes} {size : Nat}
    (sized : ∀ x, (toBytes x).length = size) (xs : List α) :
    (xs.flatMap toBytes).length = xs.length * size := by
  simp only [List.length_flatMap, sized, List.map_const', List.sum_replicate_nat]

private theorem length_regionsFrom (alignment offset : Nat) (buffers : List Bytes) :
    (regionsFrom alignment offset buffers).length = buffers.length := by
  induction buffers generalizing offset with
  | nil => rfl
  | cons buffer rest ih => rw [regionsFrom, List.length_cons, ih, List.length_cons]

private theorem length_buffers_le (contents : FileContents) :
    contents.buffers.length ≤ contents.columns.length * 3 := by
  rw [FileContents.buffers, List.length_flatMap]
  refine sum_map_le fun data _ => ?_
  rw [length_buffers]
  cases data.storage <;> decide

private theorem length_batchTable_le (contents : FileContents) :
    contents.batchTable.length ≤ 16 * (contents.columns.length + contents.buffers.length) + 138 := by
  have node (node : FieldNode) : node.toBytes.length = 16 := by simp [FieldNode.toBytes]
  have region (region : BufferRegion) : region.toBytes.length = 16 := by simp [BufferRegion.toBytes]
  have nodes := length_structs_le contents.nodes.length (contents.nodes.flatMap FieldNode.toBytes)
  have regions := length_structs_le contents.regions.length
    (contents.regions.flatMap BufferRegion.toBytes)
  have columns : contents.nodes.length = contents.columns.length := List.length_map _
  have buffers : contents.regions.length = contents.buffers.length := length_regionsFrom _ _ _
  rw [length_flatMap_of node] at nodes
  rw [length_flatMap_of region] at regions
  have slots : ∀ slot ∈ [Slot.scalar 8 contents.rows,
      .child (Block.structs contents.nodes.length (contents.nodes.flatMap FieldNode.toBytes)),
      .child (Block.structs contents.regions.length (contents.regions.flatMap BufferRegion.toBytes))],
      slot.Sound := by
    simp [Slot.Sound, sound_structs]
  have table := length_table_le slots
  simp only [childLength_cons, childLength_nil, Slot.childBytes, List.length_cons,
    List.length_nil] at table
  have message := @length_messageBlock_le 3 contents.body.length _ (sound_table slots)
  rw [batchTable, recordBatchBlock]
  omega

/-- What keeps a file small: it has not too many columns, short fields, and a body that a file can hold. -/
structure Short (contents : FileContents) : Prop where
  positive : 0 < contents.alignment
  narrow : contents.alignment ≤ 64
  rows : contents.rows < 2 ^ 63
  width : contents.fields.length ≤ 2 ^ 19
  columns : contents.columns.length ≤ 2 ^ 19
  fields : ∀ field ∈ contents.fields, (fieldBlock field).bytes.length ≤ 2 ^ 10
  body : contents.body.length ≤ 2 ^ 62

namespace Short

variable {contents : FileContents} (short : contents.Short)

include short

private theorem length_schemaTable_lt : contents.schemaTable.length + 40 < 2 ^ 30 := by
  have schema := contents.length_schemaTable_le
  have fields := sum_map_le fun field member => Nat.add_le_add_right (short.fields field member) 4
  have width := short.width
  omega

private theorem length_batchTable_lt : contents.batchTable.length < 2 ^ 30 := by
  have batch := contents.length_batchTable_le
  have buffers := contents.length_buffers_le
  have columns := short.columns
  omega

theorem fits : contents.Fits := by
  have schema := short.length_schemaTable_lt
  have batch := short.length_batchTable_lt
  have footer := contents.length_footerTable
  have message (table : Bytes) := Bytes.roundUp_lt short.positive (table.length + 8)
  have narrow := short.narrow
  have head := Bytes.roundUp_lt short.positive fileMarker.length
  have first := message contents.schemaTable
  have second := message contents.batchTable
  have body := short.body
  have length := contents.length_bytes
  have marker : fileMarker.length = 6 := rfl
  have tail : streamEnd.length = 8 := rfl
  have trailer : trailerLength = 10 := rfl
  have limit : maxBlockLength = 2 ^ 63 - 64 := rfl
  rw [length_front, length_block, headLength, messageLength, messageLength] at length
  refine ⟨.inl short.rows, by omega, by omega, ?_⟩
  rw [messageLength]
  omega

theorem covered (tables : 1 + tableCount contents.fields ≤ Budget.full.tables) :
    contents.Covered .full := by
  have schema := short.length_schemaTable_lt
  have batch := short.length_batchTable_lt
  have footer := contents.length_footerTable
  have bytes : Budget.full.bytes = 2 ^ 31 := rfl
  exact ⟨short.fits, tables, by omega, by omega⟩

end Short

end FileContents

end Columnar.Ipc
