import Columnar.Ipc.TableLayout
import Columnar.Ipc.TableReader
import Columnar.Proofs.Flatbuffer.Tables

/-!
The records of a written file, read back. Each record is laid out as a table that means the record
itself: metadata entries, types and fields, schemas, record batches, messages and footers.
-/
namespace Columnar.Ipc

open Flatbuffer

def KeyValue.ofPair (pair : String × String) : KeyValue :=
  ⟨some pair.1, some pair.2⟩

theorem means_keyValue {depth : Nat} (allowed : 0 < depth) (entry : String × String) :
    Means (fun buffer => readKeyValue buffer depth) (keyValueBlock entry) 1 (.ofPair entry) := by
  refine means_table (by simp) ?_ fun buffer base laid => ?_
  · simp [Slot.Sound, (means_text _).sound]
  · unfold readKeyValue
    refine Reads.mono (.bind (laid.enter allowed) (.bind (laid.field_child rfl (means_text _))
      (.bind (laid.field_child rfl (means_text _)) (.pure _)))) (by omega) ?_
    simp only [childLength_cons, childLength_nil, Slot.childBytes, List.length_cons,
      List.length_nil]
    omega

def typeTable : StorageType → TypeTable
  | .int32 => .int 32 true
  | .int64 => .int 64 true
  | .float32 => .floatingPoint 1
  | .float64 => .floatingPoint 2
  | .boolean => .bool
  | .utf8 => .utf8
  | .timestampMillis => .timestamp 1 none
  | .binary => .binary

theorem sound_typeSlots (storage : StorageType) :
    (typeSlots storage).2.length < 2 ^ 12 ∧ ∀ slot ∈ (typeSlots storage).2, slot.Sound := by
  cases storage <;> simp [typeSlots, Slot.Sound]

private theorem reads_type {storage : StorageType} {buffer : Buffer} {depth position : Nat}
    (allowed : 0 < depth) (leads : Leads buffer position (Block.table (typeSlots storage).2)) :
    Reads (readType buffer depth (typeSlots storage).1 position) 1
      (4 + 2 * (Block.table (typeSlots storage).2).bytes.length) (typeTable storage) := by
  obtain ⟨few, sound⟩ := sound_typeSlots storage
  have small : (Block.table (typeSlots storage).2).bytes.length < 2 ^ 32 := by
    cases storage <;> decide
  obtain ⟨base, laid, target⟩ := leads.laid few small sound
  unfold readType
  cases storage with
  | int32 | int64 =>
    exact Reads.mono (.bind target (.bind (laid.enter allowed)
      (.bind (laid.fieldD_signed rfl (by decide) (by decide) 0)
        (.bind (laid.fieldD_truth rfl false) (.pure _))))) (by decide) (by decide)
  | float32 | float64 =>
    exact Reads.mono (.bind target (.bind (laid.enter allowed)
      (.bind (laid.fieldD_signed rfl (by decide) (by decide) 0) (.pure _)))) (by decide) (by decide)
  | boolean | utf8 | binary =>
    exact Reads.mono (.bind target (.bind (laid.enter allowed) (.pure _))) (by decide) (by decide)
  | timestampMillis =>
    exact Reads.mono (.bind target (.bind (laid.enter allowed)
      (.bind (laid.fieldD_signed rfl (by decide) (by decide) 0)
        (.bind (laid.field_none rfl _) (.pure _))))) (by decide) (by decide)

def WrittenField.table (field : WrittenField) : FieldTable :=
  ⟨some field.name, true, some (typeTable field.storage), none, some [],
    some (field.metadata.entries.map .ofPair)⟩

/-- How many tables a written field takes: its own, its type's, and one for each metadata entry. -/
def WrittenField.tableCount (field : WrittenField) : Nat :=
  2 + field.metadata.entries.length

/-- The slots of a written field. -/
def fieldSlots (field : WrittenField) : List Slot :=
  [.child (Block.text field.name), .scalar 1 1, .scalar 1 (typeSlots field.storage).1,
    .child (Block.table (typeSlots field.storage).2), .absent, .child (Block.vector []),
    .child (Block.vector (field.metadata.entries.map keyValueBlock))]

theorem fieldBlock_eq (field : WrittenField) : fieldBlock field = Block.table (fieldSlots field) :=
  rfl

theorem means_field {depth : Nat} (allowed : 0 < depth) (field : WrittenField) :
    Means (fun buffer => readField buffer (depth + 1)) (fieldBlock field) field.tableCount
      field.table := by
  have type := sound_table (sound_typeSlots field.storage).2
  have name := means_text field.name
  have children := means_vector_nil fun buffer => readField buffer depth
  have metadata : Means (fun buffer => Reader.vector buffer (readKeyValue buffer depth))
      (Block.vector (field.metadata.entries.map keyValueBlock))
      (field.metadata.entries.map fun _ => 1).sum (field.metadata.entries.map .ofPair) :=
    means_vector fun entry _ => means_keyValue allowed entry
  rw [fieldBlock_eq]
  refine means_table (by simp [fieldSlots]) ?_ fun buffer base laid => ?_
  · simp [fieldSlots, Slot.Sound, name.sound, type, children.sound, metadata.sound]
  · simp only [readField]
    refine Reads.mono (.bind (laid.enter (by omega)) (.bind (laid.field_child rfl name)
      (.bind (laid.fieldD_truth rfl false) (.bind (laid.choice rfl ?_ rfl
        (reads_type allowed (laid.leads rfl))) (.bind (laid.field_none rfl _)
          (.bind (laid.field_child rfl children) (.bind (laid.field_child rfl metadata)
            (.pure _)))))))) ?_ ?_
    · cases field.storage <;> decide
    · simp only [WrittenField.tableCount, List.map_const', List.sum_replicate_nat]
      omega
    · simp only [fieldSlots, childLength_cons, childLength_nil, Slot.childBytes, List.length_cons,
        List.length_nil]
      omega

def schemaTableOf (fields : List WrittenField) : SchemaTable :=
  ⟨0, some (fields.map WrittenField.table), none⟩

/-- How many tables a schema of written fields takes. -/
def tableCount (fields : List WrittenField) : Nat :=
  1 + (fields.map WrittenField.tableCount).sum

theorem means_schema {depth : Nat} (allowed : 2 < depth) (fields : List WrittenField) :
    Means (fun buffer => readSchema buffer depth) (schemaBlock fields) (tableCount fields)
      (schemaTableOf fields) := by
  have children : Means (fun buffer => Reader.vector buffer (readField buffer (depth - 1)))
      (Block.vector (fields.map fieldBlock)) (fields.map WrittenField.tableCount).sum
      (fields.map WrittenField.table) := by
    refine means_vector fun field _ => ?_
    have same : depth - 1 = depth - 2 + 1 := by omega
    rw [same]
    exact means_field (by omega) field
  refine means_table (by simp) ?_ fun buffer base laid => ?_
  · simp [Slot.Sound, children.sound]
  · unfold readSchema
    refine Reads.mono (.bind (laid.enter (by omega)) (.bind (laid.fieldD_signed rfl (by decide)
      (by decide) 0) (.bind (laid.field_child rfl children) (.bind (laid.field_none rfl _)
        (.bind (laid.field_none rfl _) (.pure _)))))) ?_ ?_
    · simp only [tableCount]
      omega
    · simp only [childLength_cons, childLength_nil, Slot.childBytes, List.length_cons,
        List.length_nil]
      omega

section Structures

private theorem signedWord_natCast {width number : Nat} (fits : number < 256 ^ width) :
    signedWord width number = Bytes.ofNat width number := by
  rw [signedWord, Int.emod_eq_of_lt (by omega) (by exact_mod_cast fits), Int.toNat_natCast]

@[simp] theorem length_signedWord (width : Nat) (number : Int) :
    (signedWord width number).length = width :=
  Bytes.length_ofNat width _

private theorem toInt_signedWord {width number : Nat} (fits : number < 256 ^ width / 2) :
    Bytes.toInt width (signedWord width number) = number := by
  rw [signedWord_natCast (by omega), toInt_ofNat fits]

/-- Whether a number counts something and a signed word of so many bytes takes it. -/
def Counts (width : Nat) (number : Int) : Prop :=
  ∃ count : Nat, number = count ∧ count < 256 ^ width / 2

private theorem Counts.toInt {width : Nat} {number : Int} (counts : Counts width number) :
    Bytes.toInt width (signedWord width number) = number := by
  obtain ⟨count, rfl, fits⟩ := counts
  exact toInt_signedWord fits

theorem FieldNode.ofBytes_toBytes {node : FieldNode} (length : Counts 8 node.length)
    (nulls : Counts 8 node.nullCount) :
    node.toBytes.length = 16 ∧ FieldNode.ofBytes node.toBytes = node := by
  have first : node.toBytes.slice 0 8 = signedWord 8 node.length := by
    simp [toBytes, Bytes.slice]
  have second : node.toBytes.slice 8 8 = signedWord 8 node.nullCount := by
    simp [toBytes, Bytes.slice, List.take_of_length_le]
  exact ⟨by simp [toBytes], by rw [ofBytes, first, second, length.toInt, nulls.toInt]⟩

theorem BufferRegion.ofBytes_toBytes {region : BufferRegion} (offset : Counts 8 region.offset)
    (length : Counts 8 region.length) :
    region.toBytes.length = 16 ∧ BufferRegion.ofBytes region.toBytes = region := by
  have first : region.toBytes.slice 0 8 = signedWord 8 region.offset := by
    simp [toBytes, Bytes.slice]
  have second : region.toBytes.slice 8 8 = signedWord 8 region.length := by
    simp [toBytes, Bytes.slice, List.take_of_length_le]
  exact ⟨by simp [toBytes], by rw [ofBytes, first, second, offset.toInt, length.toInt]⟩

theorem FileBlock.ofBytes_toBytes {block : FileBlock} (offset : Counts 8 block.offset)
    (metadata : Counts 4 block.metadataLength) (body : Counts 8 block.bodyLength) :
    block.toBytes.length = 24 ∧ FileBlock.ofBytes block.toBytes = block := by
  have first : block.toBytes.slice 0 8 = signedWord 8 block.offset := by
    simp [toBytes, Bytes.slice]
  have second : block.toBytes.slice 8 4 = signedWord 4 block.metadataLength := by
    simp [toBytes, Bytes.slice]
  have third : block.toBytes.slice 16 8 = signedWord 8 block.bodyLength := by
    simp [toBytes, Bytes.slice, List.drop_append, List.drop_eq_nil_of_le, List.take_of_length_le]
  exact ⟨by simp [toBytes],
    by rw [ofBytes, first, second, third, offset.toInt, metadata.toInt, body.toInt]⟩

end Structures

theorem means_recordBatch (length : Nat) {depth : Nat} {nodes : List FieldNode}
    {regions : List BufferRegion} (allowed : 0 < depth)
    (counted : ∀ node ∈ nodes, Counts 8 node.length ∧ Counts 8 node.nullCount)
    (placed : ∀ region ∈ regions, Counts 8 region.offset ∧ Counts 8 region.length) :
    Means (fun buffer => readRecordBatch buffer depth) (recordBatchBlock length nodes regions) 1
      ⟨Bytes.toInt 8 (Bytes.ofNat 8 length), some nodes, some regions, none, none⟩ := by
  have nodes' : Means (fun buffer => Reader.structs buffer 16 1 FieldNode.ofBytes)
      (Block.structs nodes.length (nodes.flatMap FieldNode.toBytes)) 0 nodes :=
    means_structs (by decide) (by decide) fun node member =>
      FieldNode.ofBytes_toBytes (counted node member).1 (counted node member).2
  have regions' : Means (fun buffer => Reader.structs buffer 16 1 BufferRegion.ofBytes)
      (Block.structs regions.length (regions.flatMap BufferRegion.toBytes)) 0 regions :=
    means_structs (by decide) (by decide) fun region member =>
      BufferRegion.ofBytes_toBytes (placed region member).1 (placed region member).2
  refine means_table (by simp) ?_ fun buffer base laid => ?_
  · simp [Slot.Sound, nodes'.sound, regions'.sound]
  · unfold readRecordBatch
    refine Reads.mono (.bind (laid.enter allowed) (.bind (laid.fieldD_word rfl (by decide) 0)
      (.bind (laid.field_child rfl nodes') (.bind (laid.field_child rfl regions')
        (.bind (laid.field_none rfl _) (.bind (laid.field_none rfl _) (.pure _))))))) (by omega) ?_
    simp only [childLength_cons, childLength_nil, Slot.childBytes, List.length_cons,
      List.length_nil]
    omega

theorem means_message {α : Type} {depth kind bodyLength tables : Nat} {header : Block}
    {read : Buffer → Nat → Reader α} {value : α} {wrap : α → Header} (allowed : 0 < depth)
    (known : kind < 256) (means : Means read header tables value)
    (wrapped : ∀ buffer position,
      readHeader buffer (depth - 1) kind position =
        wrap <$> Reader.refer buffer (read buffer) position)
    (fits : bodyLength < 2 ^ 63) :
    Means (fun buffer => readMessage buffer depth) (messageBlock kind header bodyLength)
      (1 + tables) ⟨currentVersion, wrap value, bodyLength⟩ := by
  refine means_table (by simp) ?_ fun buffer base laid => ?_
  · simp [Slot.Sound, means.sound]
  · have reached (position : Nat) (leads : Leads buffer position header) :
        Reads (readHeader buffer (depth - 1) kind position) tables
          (4 + 2 * header.bytes.length) (wrap value) := by
      have small : header.bytes.length < 2 ^ 32 := laid.small_child (rfl : [_, _, _, _][2]? = _)
      rw [wrapped]
      exact (leads.refer means small).map wrap
    unfold readMessage
    refine Reads.mono (.bind (laid.enter allowed) (.bind (laid.fieldD_signed rfl (by decide)
      (by decide) 0) (.bind (laid.choice rfl known rfl (reached _ (laid.leads rfl)))
        (.bind (laid.fieldD_signed rfl (by decide) fits 0) (.bind (laid.field_none rfl _)
          (.pure _)))))) (by omega) ?_
    simp only [childLength_cons, childLength_nil, Slot.childBytes, List.length_cons,
      List.length_nil]
    omega

theorem means_footer {depth : Nat} {fields : List WrittenField} {batches : List FileBlock}
    (allowed : 3 < depth)
    (placed : ∀ block ∈ batches, Counts 8 block.offset ∧ Counts 4 block.metadataLength ∧
      Counts 8 block.bodyLength) :
    Means (fun buffer => readFooter buffer depth) (footerBlock fields batches)
      (1 + tableCount fields)
      ⟨currentVersion, some (schemaTableOf fields), some [], some batches, none⟩ := by
  have schema := means_schema (by omega : 2 < depth - 1) fields
  have dictionaries : Means (fun buffer => Reader.structs buffer 24 1 FileBlock.ofBytes)
      (Block.structs 0 []) 0 [] :=
    @means_structs FileBlock 24 1 FileBlock.ofBytes FileBlock.toBytes [] (by decide) (by decide)
      (by simp)
  have batches' : Means (fun buffer => Reader.structs buffer 24 1 FileBlock.ofBytes)
      (Block.structs batches.length (batches.flatMap FileBlock.toBytes)) 0 batches :=
    means_structs (by decide) (by decide) fun block member =>
      FileBlock.ofBytes_toBytes (placed block member).1 (placed block member).2.1
        (placed block member).2.2
  refine means_table (by simp) ?_ fun buffer base laid => ?_
  · simp [Slot.Sound, schema.sound, dictionaries.sound, batches'.sound]
  · unfold readFooter
    refine Reads.mono (.bind (laid.enter (by omega)) (.bind (laid.fieldD_signed rfl (by decide)
      (by decide) 0) (.bind (laid.field_child rfl schema) (.bind (laid.field_child rfl dictionaries)
        (.bind (laid.field_child rfl batches') (.bind (laid.field_none rfl _) (.pure _)))))))
      (by omega) ?_
    simp only [childLength_cons, childLength_nil, Slot.childBytes, List.length_cons,
      List.length_nil]
    omega

end Columnar.Ipc
