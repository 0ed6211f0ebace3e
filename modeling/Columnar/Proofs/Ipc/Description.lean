import Columnar.Proofs.Ipc.File
import Columnar.Proofs.Ipc.Layout

/-!
What a written file is described as (`FileContents.description`). Every part of it is found where the parts
before it say, the flatbuffers within whatever budget covers its footer and the message of its batch
(`describeWithin?_bytes`).
-/
namespace Columnar.Ipc

open Flatbuffer

theorem length_finish (root : Block) : root.finish.length = 8 + root.bytes.length := by
  rw [Block.finish, List.length_append, List.length_append, Bytes.length_ofNat, Bytes.length_zeros]

namespace FileContents

def batchDescription (contents : FileContents) : BatchDescription where
  rows := contents.rows
  followsPrevious := true
  aligned := true
  continuation := continuation
  version := currentVersion
  compressed := false
  nodes := contents.nodes
  buffers := placedFrom contents.alignment 0 contents.buffers
  bodyLength := contents.body.length
  messageBodyLength := contents.body.length
  paddingIsZero := true

def schema (contents : FileContents) : FileSchema :=
  ⟨contents.fields.map WrittenField.toField, ∅⟩

/-- What a file is described as. -/
def description (contents : FileContents) : FileDescription where
  head := contents.head
  tail := fileMarker
  endOfStream := streamEnd
  footerVersion := currentVersion
  dictionaryBatches := 0
  schema := contents.schema
  schemaMessagesAgree := sameSchema contents.schema contents.schema
  batches := [contents.batchDescription]
  readerAccepts := true

theorem length_footerTable (contents : FileContents) :
    contents.footerTable.length = contents.schemaTable.length + 40 := by
  have schema := (@means_schema maxDepth (by decide) contents.fields).sound
  have block : contents.batchBlock.toBytes.length = 24 := by
    simp [FileBlock.toBytes, signedWord]
  rw [footerTable, schemaTable, footerBlock, messageBlock, length_finish, length_finish,
    length_table (by simp [Slot.Sound, schema, sound_structs]), length_table (by simp [Slot.Sound, schema])]
  simp only [childLength_cons, childLength_nil, Slot.childBytes, length_structs, List.length_cons,
    List.length_nil, List.flatMap_singleton, block]
  have none : Bytes.roundUp 8 (8 + 0) = 8 := rfl
  have one : Bytes.roundUp 8 (8 + 24) = 32 := rfl
  omega

section Places

variable (contents : FileContents)

/-- The body of the batch, in what stands before and after it. -/
theorem bytes_eq_body : contents.bytes = (contents.front ++ contents.framed contents.batchTable) ++
    (contents.body ++ (streamEnd ++
      (contents.footerTable ++ trailerFor contents.footerTable.length))) := by
  rw [bytes_eq, block, List.append_assoc, List.append_assoc]

private theorem slice_streamEnd : contents.bytes.slice (contents.front.length + contents.block.length)
    streamEnd.length = streamEnd := by
  have found := @Bytes.slice_of_append contents.bytes (contents.front ++ contents.block) streamEnd _
    (by rw [bytes_eq, List.append_assoc])
  rw [List.length_append] at found
  exact found

private theorem slice_footerLength : contents.bytes.slice (contents.bytes.length - trailerLength) 4 =
    Bytes.ofNat 4 contents.footerTable.length := by
  have found := @Bytes.slice_of_append contents.bytes
    (contents.front ++ (contents.block ++ streamEnd) ++ contents.footerTable)
    (Bytes.ofNat 4 contents.footerTable.length) fileMarker
    (by simp [bytes_eq_footer, trailerFor])
  have place : (contents.front ++ (contents.block ++ streamEnd) ++ contents.footerTable).length =
      contents.bytes.length - trailerLength := by
    simp only [length_bytes, List.length_append]
    omega
  rw [place, Bytes.length_ofNat] at found
  exact found

private theorem drop_marker :
    contents.bytes.drop (contents.bytes.length - fileMarker.length) = fileMarker := by
  have parts : contents.bytes = (contents.front ++ (contents.block ++ streamEnd) ++
      contents.footerTable ++ Bytes.ofNat 4 contents.footerTable.length) ++ fileMarker := by
    simp [bytes_eq, trailerFor]
  rw [parts, List.length_append, Nat.add_sub_cancel, List.drop_left]

private theorem take_head : contents.bytes.take contents.headLength = contents.head := by
  rw [bytes_eq, front, List.append_assoc]
  exact List.take_left' contents.length_head

end Places

section Written

variable {budget : Budget} {contents : FileContents} (within : contents.Within budget)

include within

private theorem ofBytes?_schemaTable (rest : Bytes) :
    Message.ofBytes? budget (contents.schemaTable ++ rest) =
      some ⟨currentVersion, .schema (schemaTableOf contents.fields), 0⟩ := by
  have length := contents.length_footerTable
  have footer := within.footer
  have footerBytes := within.footerBytes
  have schema := @means_schema (maxDepth - 1) (by decide) contents.fields
  have means := @means_message _ maxDepth 1 0 _ _ _ _ Header.schema (by decide) (by decide) schema
    (fun _ _ => rfl) (by decide)
  have small : contents.schemaTable.length < 2 ^ 32 := by omega
  have enough : 2 * contents.schemaTable.length ≤ budget.bytes := by omega
  exact readRoot_finish means small within.tables enough rest

omit within in
private theorem messageAt?_framed {file before after table : Bytes} {message : Message}
    (parts : file = before ++ (contents.framed table ++ after))
    (small : contents.messageLength table < 2 ^ 32)
    (means : ∀ rest, Message.ofBytes? budget (table ++ rest) = some message) :
    messageAt? budget file before.length = some (message, contents.messageLength table) := by
  have long : table.length + 8 ≤ contents.messageLength table := Bytes.le_roundUp _ _
  have announced := @Bytes.slice_of_append file (before ++ continuation)
    (Bytes.ofNat 4 (contents.messageLength table - 8)) _ (parts.trans (by simp [framed]; rfl))
  have content := @Bytes.slice_of_append file
    (before ++ continuation ++ Bytes.ofNat 4 (contents.messageLength table - 8))
    (table ++ Bytes.zeros (contents.messageLength table - 8 - table.length)) after
    (parts.trans (by simp [framed]))
  have four : continuation.length = 4 := rfl
  have size : (table ++ Bytes.zeros (contents.messageLength table - 8 - table.length)).length =
      contents.messageLength table - 8 := by
    rw [List.length_append, Bytes.length_zeros]
    omega
  rw [List.length_append, four, Bytes.length_ofNat] at announced
  rw [List.length_append, List.length_append, four, Bytes.length_ofNat, size, Nat.add_assoc] at content
  have number : Bytes.toNat (Bytes.ofNat 4 (contents.messageLength table - 8)) =
      contents.messageLength table - 8 := Bytes.toNat_ofNat_of_lt (by omega)
  unfold messageAt?
  dsimp only
  rw [announced, number, content, means]
  simp only [Option.bind_eq_bind, Option.bind_some, Option.some.injEq, Prod.mk.injEq, true_and]
  omega

variable (columns : ∀ data ∈ contents.columns, data.length = contents.rows)
  (positive : 0 < contents.alignment) (narrow : contents.alignment ≤ 64)

private theorem messageLength_lt (positive : 0 < contents.alignment) (narrow : contents.alignment ≤ 64) :
    contents.messageLength contents.schemaTable < 2 ^ 32 := by
  have length := contents.length_footerTable
  have footer := within.footer
  have gap : Bytes.gap contents.alignment (contents.schemaTable.length + 8) < contents.alignment :=
    Nat.mod_lt _ positive
  rw [messageLength, Bytes.roundUp]
  omega

omit within in
theorem front_mod (contents : FileContents) (positive : 0 < contents.alignment) :
    contents.front.length % contents.alignment = 0 := by
  rw [length_front, headLength, messageLength, Nat.add_mod, Bytes.roundUp_mod positive,
    Bytes.roundUp_mod positive]
  exact Nat.zero_mod _

omit within in
private theorem batch_aligned (contents : FileContents) (positive : 0 < contents.alignment) :
    (decide (contents.front.length % contents.alignment = 0) &&
      decide (((contents.messageLength contents.batchTable : Nat) : Int) % contents.alignment = 0) &&
      decide (((contents.body.length : Nat) : Int) % contents.alignment = 0)) = true := by
  have message : contents.messageLength contents.batchTable % contents.alignment = 0 :=
    Bytes.roundUp_mod positive _
  have body : contents.body.length % contents.alignment = 0 := length_bodyOf_mod positive contents.buffers
  simp only [Bool.and_eq_true, decide_eq_true_eq]
  exact ⟨⟨contents.front_mod positive, by exact_mod_cast message⟩, by exact_mod_cast body⟩

include columns positive

theorem describeBatch?_bytes :
    describeBatch? budget contents.alignment contents.bytes
      (contents.headLength + contents.messageLength contents.schemaTable) contents.batchBlock =
        some contents.batchDescription := by
  have front := contents.length_front.symm
  have offset : contents.batchBlock.offset.toNat = contents.front.length := front
  have blocks := contents.bytes_eq
  rw [block, List.append_assoc] at blocks
  have message := messageAt?_framed blocks (Nat.lt_trans within.message (by decide))
    fun rest => ofBytes?_batchTable within.toCovered columns rest
  have rows : contents.rows < 256 ^ 8 / 2 := within.rows
  rw [toInt_ofNat rows] at message
  have body := Bytes.slice_of_append contents.bytes_eq_body
  rw [List.length_append, length_framed] at body
  have marked := @Bytes.slice_of_append contents.bytes contents.front continuation _
    (blocks.trans (by simp [framed]; rfl))
  have four : continuation.length = 4 := rfl
  rw [four] at marked
  have buffers : (contents.regions.map fun region =>
      (region.offset, contents.body.slice region.offset.toNat region.length.toNat)) =
        placedFrom contents.alignment 0 contents.buffers := map_regionsFrom contents.buffers
  have unused : unusedAreZero contents.body contents.regions = true :=
    unusedAreZero_bodyOf contents.buffers
  have metadata : contents.batchBlock.metadataLength =
      (contents.messageLength contents.batchTable : Nat) := rfl
  have size : contents.batchBlock.bodyLength = (contents.body.length : Nat) := rfl
  unfold describeBatch?
  dsimp only
  rw [offset, message, metadata, size]
  simp only [Option.bind_eq_bind, Option.bind_some, Option.getD_some, Int.toNat_natCast, body, marked,
    buffers, unused, front, decide_true, Option.isSome_none, contents.batch_aligned positive]
  rfl

include narrow

/-- A written file is described as it should be. -/
theorem describeWithin?_bytes :
    describeWithin? budget contents.alignment contents.bytes = some contents.description := by
  have footer : Footer.ofBytes? budget contents.footerTable = _ :=
    ofBytes?_footerBlock (counts_batchBlock within.toFits) within.footer within.tables within.footerBytes
  have batch := describeBatch?_bytes within columns positive
  obtain ⟨reads, opened⟩ := openSource_bytes within.toCovered
  have blocks := contents.bytes_eq
  rw [FileContents.front, List.append_assoc] at blocks
  have message := messageAt?_framed blocks (messageLength_lt within positive narrow)
    (ofBytes?_schemaTable within)
  have number : Bytes.toNat (Bytes.ofNat 4 contents.footerTable.length) = contents.footerTable.length :=
    Bytes.toNat_ofNat_of_lt (Nat.lt_trans within.footer (by decide))
  have head : Bytes.roundUp contents.alignment fileMarker.length = contents.headLength := rfl
  have stop : (contents.batchBlock.offset + contents.batchBlock.metadataLength +
      contents.batchBlock.bodyLength).toNat = contents.front.length + contents.block.length := by
    rw [length_front, length_block, batchBlock]
    dsimp only
    omega
  have rest : contents.bytes.length - trailerLength - contents.footerTable.length -
      (contents.front.length + contents.block.length) = streamEnd.length := by
    rw [length_bytes]
    omega
  rw [length_head] at message
  unfold describeWithin?
  dsimp only
  rw [contents.slice_footerLength, number, contents.slice_footerTable, footer]
  simp only [Option.bind_eq_bind, Option.bind_some, toSchema?_schemaTableOf, head, message,
    Option.getD_some, describeBatches?, batch]
  rw [take_head, drop_marker, stop, rest, slice_streamEnd, opened]
  rfl

end Written

end FileContents

/-- A description of a batch without offsets, and without the lengths that depend on them. -/
def BatchDescription.unplaced (described : BatchDescription) : BatchDescription :=
  { described with
    buffers := described.buffers.map fun buffer => (0, buffer.2)
    bodyLength := 0
    messageBodyLength := 0 }

/-- A description of a file without offsets, and without the padding behind the marker at its start. -/
def FileDescription.unplaced (description : FileDescription) : FileDescription :=
  { description with
    head := description.head.take fileMarker.length
    batches := description.batches.map BatchDescription.unplaced }

/-- At another alignment a file differs in offsets and padding only. -/
theorem FileContents.unplaced_description (contents : FileContents) (alignment : Nat) :
    FileDescription.unplaced (description { contents with alignment := alignment }) =
      contents.description.unplaced := by
  have buffers (alignment : Nat) : (placedFrom alignment 0 contents.buffers).map
      (fun buffer => ((0 : Int), buffer.2)) = contents.buffers.map fun buffer => (0, buffer) := by
    rw [← map_snd_placedFrom alignment 0 contents.buffers, List.map_map, map_snd_placedFrom]
    rfl
  have same : FileContents.buffers { contents with alignment := alignment } = contents.buffers := rfl
  have batch : BatchDescription.unplaced (batchDescription { contents with alignment := alignment }) =
      contents.batchDescription.unplaced := by
    unfold BatchDescription.unplaced batchDescription
    dsimp only
    rw [same, buffers, buffers]
    rfl
  have head (contents : FileContents) : contents.head.take fileMarker.length = fileMarker :=
    List.take_left
  unfold FileDescription.unplaced description
  dsimp only
  rw [List.map_singleton, List.map_singleton, batch, head, head]
  rfl

end Columnar.Ipc
