import Columnar.Ipc.File
import Columnar.Ipc.FileReader
import Columnar.Proofs.Ipc.Body
import Columnar.Proofs.Ipc.Fields

/-!
A written file, opened and read. The file is laid out as its parts (`bytes_eq`), and every part that
the reader asks for is where it looks for it (`readPart_of_append`): the trailer and the footer at the
end (`openSource_bytes`), and the block of the batch where the footer says (`firstBatch?_bytes`).
-/
namespace Columnar.Ipc

open Flatbuffer (Budget maxDepth readRoot_finish)

theorem readPart_of_append {content before part after : Bytes}
    (parts : content = before ++ (part ++ after)) (reads : Nat) :
    ∃ later, readPart (Source.ofBytes content) before.length part.length reads =
      .ok (part, later) := by
  rw [readPart, Source.block_ofBytes]
  split
  case isTrue nothing =>
    obtain rfl := List.length_eq_zero_iff.mp nothing
    exact ⟨reads, rfl⟩
  case isFalse =>
    have cut : content.slice? before.length part.length = some part := by
      simp [parts, Bytes.slice?, Bytes.slice]
    rw [cut]
    exact ⟨reads + 1, rfl⟩

/-- What comes after a footer of a certain length. -/
def trailerFor (length : Nat) : Bytes :=
  Bytes.ofNat 4 length ++ fileMarker

@[simp] theorem length_trailerFor (length : Nat) : (trailerFor length).length = trailerLength := by
  rw [trailerFor, List.length_append, Bytes.length_ofNat]
  rfl

theorem footerLength_trailerFor {length : Nat} (small : length < 2 ^ 31) :
    footerLength (trailerFor length) = .ok length := by
  have size := Bytes.length_ofNat 4 length
  have number := @Flatbuffer.toInt_ofNat 4 length small
  rw [footerLength, trailerFor, List.drop_left' size, List.take_left' size, number]
  simp

theorem readParts_of_layout {content before table : Bytes}
    (layout : content = before ++ (table ++ trailerFor table.length)) :
    ∃ first second,
      readPart (Source.ofBytes content) ((content.length : Int) - trailerLength) trailerLength 0 =
        .ok (trailerFor table.length, first) ∧
      readPart (Source.ofBytes content) ((content.length : Int) - trailerLength - table.length)
        table.length first = .ok (table, second) := by
  have length : content.length = before.length + table.length + trailerLength := by
    rw [layout, List.length_append, List.length_append, length_trailerFor, Nat.add_assoc]
  obtain ⟨first, trailer⟩ := @readPart_of_append content (before ++ table) (trailerFor table.length) []
    (by simp [layout]) 0
  obtain ⟨second, part⟩ := readPart_of_append layout first
  have lastPlace : (content.length : Int) - trailerLength = (before ++ table).length := by
    rw [List.length_append, length]
    omega
  have place : (content.length : Int) - trailerLength - table.length = before.length := by
    rw [length]
    omega
  rw [length_trailerFor, ← lastPlace] at trailer
  rw [← place] at part
  exact ⟨first, second, trailer, part⟩

section Footer

variable {budget : Budget} {fields : List WrittenField} {batches : List FileBlock}
  (placed : ∀ block ∈ batches, Counts 8 block.offset ∧ Counts 4 block.metadataLength ∧
    Counts 8 block.bodyLength)
  (small : (footerBlock fields batches).finish.length < 2 ^ 31)
  (tables : 1 + tableCount fields ≤ budget.tables)
  (size : 2 * (footerBlock fields batches).finish.length ≤ budget.bytes)

include placed small tables size

theorem ofBytes?_footerBlock :
    Footer.ofBytes? budget (footerBlock fields batches).finish =
      some ⟨currentVersion, some (schemaTableOf fields), some [], some batches, none⟩ := by
  have means := @means_footer maxDepth fields _ (by decide) placed
  have read := readRoot_finish means (Nat.lt_trans small (by decide)) tables size []
  rwa [List.append_nil] at read

/-- A file that ends with a footer opens as the footer says, whatever stands before it. -/
theorem openSource_of_footer {content before : Bytes}
    (layout : content = before ++ ((footerBlock fields batches).finish ++
      trailerFor (footerBlock fields batches).finish.length)) :
    ∃ reads, FileReader.openSource budget (Source.ofBytes content) =
      .ok ⟨Source.ofBytes content, budget, ⟨fields.map WrittenField.toField, ∅⟩, currentVersion,
        batches, reads⟩ := by
  have footer := ofBytes?_footerBlock placed small tables size
  obtain ⟨first, second, trailer, part⟩ := readParts_of_layout layout
  refine ⟨second, bind_eq_ok.mpr ⟨_, trailer, bind_eq_ok.mpr
    ⟨_, footerLength_trailerFor small, bind_eq_ok.mpr ⟨_, part, ?_⟩⟩⟩⟩
  dsimp only
  rw [footer]
  dsimp only
  refine bind_eq_ok.mpr ⟨_, rfl, ?_⟩
  rw [schemaTableOf, accept_of (decide_eq_true rfl), ok_bind, ← schemaTableOf, toSchema?_schemaTableOf]
  rfl

end Footer

namespace FileContents

def head (contents : FileContents) : Bytes :=
  fileMarker ++ Bytes.zeros (contents.headLength - fileMarker.length)

def framed (contents : FileContents) (table : Bytes) : Bytes :=
  continuation ++ Bytes.ofNat 4 (contents.messageLength table - 8) ++ table ++
    Bytes.zeros (contents.messageLength table - 8 - table.length)

def block (contents : FileContents) : Bytes :=
  contents.framed contents.batchTable ++ contents.body

def front (contents : FileContents) : Bytes :=
  contents.head ++ contents.framed contents.schemaTable

def streamEnd : Bytes :=
  continuation ++ Bytes.ofNat 4 0

theorem length_head (contents : FileContents) : contents.head.length = contents.headLength := by
  have long := Bytes.le_roundUp contents.alignment fileMarker.length
  rw [head, List.length_append, Bytes.length_zeros]
  exact Nat.add_sub_cancel' long

theorem length_framed (contents : FileContents) (table : Bytes) :
    (contents.framed table).length = contents.messageLength table := by
  have long : table.length + 8 ≤ contents.messageLength table := Bytes.le_roundUp _ _
  have marked : continuation.length = 4 := rfl
  simp only [framed, List.length_append, Bytes.length_ofNat, Bytes.length_zeros, marked]
  omega

theorem length_front (contents : FileContents) : contents.front.length =
    contents.headLength + contents.messageLength contents.schemaTable := by
  rw [front, List.length_append, length_head, length_framed]

theorem length_block (contents : FileContents) : contents.block.length =
    contents.messageLength contents.batchTable + contents.body.length := by
  rw [block, List.length_append, length_framed]

theorem bytes_eq (contents : FileContents) :
    contents.bytes =
      contents.front ++
        (contents.block ++ (streamEnd ++
          (contents.footerTable ++ trailerFor contents.footerTable.length))) := by
  have body : contents.emitBody.flatMap Emission.bytes = contents.body := by
    rw [emitBody]
    split <;> simp [Emission.bytes, *]
  have message (table : Bytes) :
      (contents.message table).flatMap Emission.bytes = contents.framed table := by
    simp [Emission.bytes, FileContents.message, announce, framed]
  have stop : (announce 0).flatMap Emission.bytes = streamEnd := by
    simp [Emission.bytes, announce, streamEnd]
  simp [FileContents.bytes, emissions, Emission.allBytes, List.flatMap_append, body, stop, message,
    Emission.bytes, front, head, block, trailerFor]

theorem length_bytes (contents : FileContents) : contents.bytes.length = contents.front.length +
    contents.block.length + streamEnd.length + contents.footerTable.length + trailerLength := by
  rw [bytes_eq]
  simp only [List.length_append, length_trailerFor]
  omega

theorem bytes_eq_footer (contents : FileContents) :
    contents.bytes = (contents.front ++ (contents.block ++ streamEnd)) ++
      (contents.footerTable ++ trailerFor contents.footerTable.length) := by
  simp [bytes_eq]

theorem slice_footerTable (contents : FileContents) :
    contents.bytes.slice (contents.bytes.length - trailerLength - contents.footerTable.length)
      contents.footerTable.length = contents.footerTable := by
  have found := Bytes.slice_of_append contents.bytes_eq_footer
  have place : (contents.front ++ (contents.block ++ streamEnd)).length =
      contents.bytes.length - trailerLength - contents.footerTable.length := by
    simp only [length_bytes, List.length_append]
    omega
  rw [place] at found
  exact found

theorem slice_trailer (contents : FileContents) :
    contents.bytes.slice (contents.bytes.length - trailerLength) trailerLength =
      trailerFor contents.footerTable.length := by
  have found := @Bytes.slice_of_append contents.bytes
    (contents.front ++ (contents.block ++ streamEnd) ++ contents.footerTable)
    (trailerFor contents.footerTable.length) [] (by simp [bytes_eq_footer])
  have place : (contents.front ++ (contents.block ++ streamEnd) ++ contents.footerTable).length =
      contents.bytes.length - trailerLength := by
    simp only [length_bytes, List.length_append]
    omega
  rw [place, length_trailerFor] at found
  exact found

/-- What a file has to keep to, so that its format can take it. Only the rows of columns have to be
counted by a signed word. -/
structure Fits (contents : FileContents) : Prop where
  counted : contents.rows < 2 ^ 63 ∨ contents.columns = [] ∧ contents.rows < 2 ^ 64
  size : contents.bytes.length ≤ maxBlockLength
  footer : contents.footerTable.length < 2 ^ 31
  message : contents.messageLength contents.batchTable < 2 ^ 31

/-- Whether also a budget covers the flatbuffers of a file. -/
structure Covered (budget : Budget) (contents : FileContents) : Prop extends Fits contents where
  tables : 1 + tableCount contents.fields ≤ budget.tables
  footerBytes : 2 * contents.footerTable.length ≤ budget.bytes
  messageBytes : 2 * contents.batchTable.length ≤ budget.bytes

/-- Whether the format can also describe all of the file: no number of rows is above a signed word. -/
structure Within (budget : Budget) (contents : FileContents) : Prop extends Covered budget contents where
  rows : contents.rows < 2 ^ 63

instance (budget : Budget) (contents : FileContents) : Decidable (contents.Within budget) :=
  decidable_of_iff
    (contents.rows < 2 ^ 63 ∧ contents.bytes.length ≤ maxBlockLength ∧
      contents.footerTable.length < 2 ^ 31 ∧
      contents.messageLength contents.batchTable < 2 ^ 31 ∧
      1 + tableCount contents.fields ≤ budget.tables ∧
      2 * contents.footerTable.length ≤ budget.bytes ∧
      2 * contents.batchTable.length ≤ budget.bytes)
    ⟨fun ⟨rows, size, footer, message, tables, footerBytes, messageBytes⟩ =>
      ⟨⟨⟨.inl rows, size, footer, message⟩, tables, footerBytes, messageBytes⟩, rows⟩,
    fun within => ⟨within.rows, within.size, within.footer, within.message, within.tables,
      within.footerBytes, within.messageBytes⟩⟩

private theorem Fits.rows_lt {contents : FileContents} (fits : contents.Fits) :
    contents.rows < 2 ^ 64 := by
  rcases fits.counted with few | ⟨-, few⟩
  · omega
  · exact few

theorem Fits.slots_lt {contents : FileContents} (fits : contents.Fits)
    (columns : ∀ data ∈ contents.columns, data.length = contents.rows) {data : ColumnData}
    (member : data ∈ contents.columns) : data.length < 2 ^ 63 := by
  rcases fits.counted with few | ⟨none, -⟩
  · rwa [columns data member]
  · rw [none] at member
    cases member

private theorem counts_regionsFrom {alignment offset : Nat} {buffers : List Bytes}
    (fits : offset + (bodyOf alignment buffers).length < 2 ^ 63) {region : BufferRegion}
    (member : region ∈ regionsFrom alignment offset buffers) :
    Counts 8 region.offset ∧ Counts 8 region.length := by
  induction buffers generalizing offset with
  | nil => cases member
  | cons buffer rest ih =>
    rw [bodyOf, List.flatMap_cons, List.length_append, Bytes.length_padded, ← bodyOf] at fits
    rcases List.mem_cons.mp member with rfl | later
    · have long := Bytes.le_roundUp alignment buffer.length
      exact ⟨⟨offset, rfl, by omega⟩, ⟨buffer.length, rfl, by omega⟩⟩
    · exact ih (by omega) later

theorem length_parts (contents : FileContents) :
    contents.headLength + contents.messageLength contents.schemaTable +
      contents.messageLength contents.batchTable + contents.body.length +
        contents.footerTable.length + trailerLength ≤ contents.bytes.length := by
  rw [length_bytes, length_front, length_block]
  omega

section Read

variable {budget : Budget} {contents : FileContents} (covered : contents.Covered budget)

include covered

theorem ofBytes?_batchTable (columns : ∀ data ∈ contents.columns, data.length = contents.rows)
    (rest : Bytes) :
    Message.ofBytes? budget (contents.batchTable ++ rest) =
      some ⟨currentVersion, .recordBatch ⟨Bytes.toInt 8 (Bytes.ofNat 8 contents.rows), some contents.nodes,
        some contents.regions, none, none⟩, contents.body.length⟩ := by
  have parts := contents.length_parts
  have size : contents.bytes.length ≤ 2 ^ 63 - 64 := covered.size
  have message := covered.message
  have counted : ∀ node ∈ contents.nodes, Counts 8 node.length ∧ Counts 8 node.nullCount := by
    intro node member
    obtain ⟨data, inside, rfl⟩ := List.mem_map.mp member
    have few := covered.slots_lt columns inside
    have nulls := data.nullCount_le_length
    exact ⟨⟨data.length, rfl, by omega⟩, ⟨data.nullCount, rfl, by omega⟩⟩
  have body : 0 + (bodyOf contents.alignment contents.buffers).length < 2 ^ 63 := by
    rw [← FileContents.body]
    omega
  have placed : ∀ region ∈ contents.regions, Counts 8 region.offset ∧ Counts 8 region.length :=
    fun region => counts_regionsFrom body
  have header := @means_recordBatch contents.rows (maxDepth - 1) _ _ (by decide) counted placed
  have means := @means_message _ maxDepth 3 contents.body.length _ _ _ _ Header.recordBatch
    (by decide) (by decide) header (fun _ _ => rfl) (by omega)
  have small : contents.batchTable.length < 2 ^ 32 := by
    have long : contents.batchTable.length + 8 ≤ contents.messageLength contents.batchTable :=
      Bytes.le_roundUp _ _
    omega
  have tables := covered.tables
  rw [tableCount] at tables
  exact readRoot_finish means small (by omega) covered.messageBytes rest

omit covered in
theorem counts_batchBlock (fits : contents.Fits) :
    ∀ block ∈ [contents.batchBlock], Counts 8 block.offset ∧ Counts 4 block.metadataLength ∧
      Counts 8 block.bodyLength := by
  have parts := contents.length_parts
  have size : contents.bytes.length ≤ 2 ^ 63 - 64 := fits.size
  have message := fits.message
  intro block member
  obtain rfl := List.mem_singleton.mp member
  exact ⟨⟨_, rfl, by omega⟩, ⟨_, rfl, by omega⟩, ⟨_, rfl, by omega⟩⟩

/-- The file of some contents opens as a file with their fields and one batch. -/
theorem openSource_bytes :
    ∃ reads, FileReader.openSource budget (Source.ofBytes contents.bytes) =
      .ok ⟨Source.ofBytes contents.bytes, budget, ⟨contents.fields.map WrittenField.toField, ∅⟩,
        currentVersion, [contents.batchBlock], reads⟩ :=
  openSource_of_footer (counts_batchBlock covered.toFits) covered.footer covered.tables covered.footerBytes
    contents.bytes_eq_footer

theorem readBlock_batchBlock (reads : Nat) :
    ∃ later, readBlock (Source.ofBytes contents.bytes) contents.batchBlock reads =
      .ok (contents.block, later) := by
  have parts := contents.length_parts
  have size : contents.bytes.length ≤ maxBlockLength := covered.size
  have limit : maxBlockLength < 2 ^ 63 := by decide
  have blockSize := contents.length_block
  have offset : toWord contents.batchBlock.offset = contents.front.length := by
    rw [length_front]
    exact toWord_ofNat (by omega)
  have length : contents.batchBlock.bodyLength.toNat + contents.batchBlock.metadataLength.toNat =
      contents.block.length := (blockSize.trans (Nat.add_comm _ _)).symm
  obtain ⟨later, bytes⟩ := readPart_of_append contents.bytes_eq reads
  refine ⟨later, ?_⟩
  rw [readBlock, offset]
  refine bind_eq_ok.mpr ⟨_, rfl, ?_⟩
  rw [length, insist_of (by simp [batchBlock]), ok_bind]
  dsimp only
  rw [insist_of (decide_eq_true (by omega)), ok_bind]
  exact bytes

theorem messageOf_block (columns : ∀ data ∈ contents.columns, data.length = contents.rows) :
    messageOf budget currentVersion contents.block =
      .ok ⟨currentVersion, .recordBatch ⟨Bytes.toInt 8 (Bytes.ofNat 8 contents.rows), some contents.nodes,
        some contents.regions, none, none⟩, contents.body.length⟩ := by
  have start : contents.block = continuation ++
      (Bytes.ofNat 4 (contents.messageLength contents.batchTable - 8) ++
        (contents.batchTable ++ (Bytes.zeros (contents.messageLength contents.batchTable - 8 -
          contents.batchTable.length) ++ contents.body))) := by
    simp [block, framed]
  have marked : contents.block.take 4 = continuation := by
    rw [start]
    exact List.take_left' rfl
  have long : 8 ≤ contents.block.length := by
    rw [start]
    simp only [List.length_append, Bytes.length_ofNat]
    exact Nat.add_le_add (Nat.le_refl 4) (Nat.le_add_right 4 _)
  rw [messageOf, insist_of (decide_eq_true (by omega)), ok_bind]
  dsimp only
  rw [if_pos marked, insist_of (decide_eq_true long), ok_bind, start, ← List.append_assoc,
    List.drop_left' (by simp [continuation]), ofBytes?_batchTable covered columns]
  rfl

/-- The first batch of the file of some contents has their rows and columns. -/
theorem firstBatch?_bytes (columns : ∀ data ∈ contents.columns, data.length = contents.rows)
    (readable : ∀ data ∈ contents.columns, Readable data) (schema : FileSchema) (reads : Nat) :
    FileReader.firstBatch? ⟨Source.ofBytes contents.bytes, budget, schema, currentVersion,
        [contents.batchBlock], reads⟩ (contents.columns.map fun data => (data.storage, true)) =
      .ok (some ⟨contents.rows, contents.columns⟩) := by
  obtain ⟨later, bytes⟩ := readBlock_batchBlock covered reads
  have message := messageOf_block covered columns
  have body : contents.block.drop contents.batchBlock.metadataLength.toNat = contents.body :=
    List.drop_left' (contents.length_framed contents.batchTable)
  have small : contents.body.length < 2 ^ 64 := by
    have parts := contents.length_parts
    have size : contents.bytes.length ≤ 2 ^ 63 - 64 := covered.size
    omega
  have batch := batch_bodyOf columns (toWord_toInt covered.rows_lt) readable small
  refine bind_eq_ok.mpr ⟨_, bytes, bind_eq_ok.mpr ⟨_, message, ?_⟩⟩
  dsimp only
  rw [body]
  exact bind_eq_ok.mpr ⟨_, batch, rfl⟩

end Read

end FileContents

end Columnar.Ipc
