import Columnar.Proofs.Ipc.Buffers
import Columnar.Proofs.Ipc.Description
import Columnar.Proofs.TableFile.Encodings

/-!
The layout of a written file. Its body holds the buffers of the columns in the order of the schema, laid
out at the alignment (`Layout`), and its nodes count rows and nulls. Files of one row batch that are
written at different alignments differ in offsets and padding only (`writeBytes_layout`).
-/
namespace Columnar.TableFile

open Ipc (BatchDescription Buffered FieldNode FileContents LaidOut)
open Transpose (columnCells)

/-- Whether a file describes its batch as that of a row batch at an alignment: one node for each column,
and in its body, which begins at a multiple of the alignment, the buffers of each column. -/
structure Layout (batch : RowBatch) (alignment : Nat) (file : Bytes) (described : BatchDescription) :
    Prop where
  rows : described.rows = batch.numRows
  nodes : described.nodes = (List.range batch.schema.width).map fun position =>
    ⟨batch.numRows, (columnCells position batch.rows).count .null⟩
  buffers : ∃ groups : List (List Bytes), described.buffers.map (·.2) = groups.flatten ∧
    groups.length = batch.schema.width ∧
    ∀ (position : Nat) (spec : ColumnSpec) (group : List Bytes),
      batch.schema.columns[position]? = some spec → groups[position]? = some group →
        Buffered spec.type (columnCells position batch.rows) group
  body : ∃ before body after, file = before ++ (body ++ after) ∧ before.length % alignment = 0 ∧
    described.bodyLength = body.length ∧ LaidOut alignment body described.buffers

section Settled

variable [Footprint Column] {batch : RowBatch} {options : WriteOptions} {writer : ColumnArena}
  {settled : Plan}
  (ready : Settled writer batch options settled)

include ready

private theorem Settled.alignment_eq : settled.contents.alignment = options.alignment := by
  rw [ready.contents]

private theorem Settled.data_eq : settled.contents.columns = settled.columns.map (·.data) := by
  rw [ready.contents]

private theorem Settled.fills_at {position : Nat} {column : Column}
    (found : settled.columns[position]? = some column) :
    ∃ spec, batch.schema.columns[position]? = some spec ∧
      Transpose.Fills batch.rows position spec column := by
  obtain ⟨width, fills⟩ := ready.fills
  have inside : position < batch.schema.columns.length := by
    rw [← TableSchema.width, ← width]
    exact (List.getElem?_eq_some_iff.mp found).1
  have spec := List.getElem?_eq_getElem inside
  exact ⟨_, spec, fills position _ column spec found⟩

private theorem Settled.nodes_eq :
    settled.contents.nodes = (List.range batch.schema.width).map fun position =>
      ⟨batch.numRows, (columnCells position batch.rows).count .null⟩ := by
  rw [FileContents.nodes, ready.data_eq, List.map_map]
  apply List.ext_getElem
  · rw [List.length_map, List.length_map, List.length_range, ready.fills.1]
  · intro position left right
    have inside : position < settled.columns.length := by simpa using left
    obtain ⟨spec, -, fills⟩ := ready.fills_at (List.getElem?_eq_getElem inside)
    have length := Transpose.length_of_columnsOfRows ready.columns (List.getElem_mem inside)
    have nulls := settled.columns[position].count_null_cells
    rw [fills.cells] at nulls
    rw [List.getElem_map, List.getElem_map, List.getElem_range, nulls, RowBatch.numRows, ← length]
    rfl

private theorem Settled.buffered
    (texts : ∀ position < batch.schema.width, batch.payload position < 2 ^ 31) {position : Nat}
    {spec : ColumnSpec} {column : Column} (asked : batch.schema.columns[position]? = some spec)
    (found : settled.columns[position]? = some column) :
    Buffered spec.type (columnCells position batch.rows) column.data.buffers := by
  have fills := ready.fills.2 position spec column asked found
  have fits := (ready.sized texts column (List.mem_of_getElem? found)).2
  rw [← fills.cells, ← fills.type]
  exact column.buffered fits

theorem Settled.layout (texts : ∀ position < batch.schema.width, batch.payload position < 2 ^ 31) :
    Layout batch options.alignment settled.contents.bytes settled.contents.batchDescription := by
  have rows : settled.contents.rows = batch.numRows := by rw [ready.contents]
  have positive : 0 < settled.contents.alignment := by
    rw [ready.alignment_eq]
    exact (bounds_of_aligned ready.aligned).1
  refine ⟨congrArg _ rows, ready.nodes_eq, ?_, ?_⟩
  · refine ⟨settled.columns.map fun column => column.data.buffers, ?_, ?_, ?_⟩
    · rw [FileContents.batchDescription, Ipc.map_snd_placedFrom, FileContents.buffers,
        ready.data_eq, List.flatMap_map, List.flatMap_def]
    · rw [List.length_map, ready.fills.1]
    · intro position spec group asked found
      rw [List.getElem?_map] at found
      obtain ⟨column, own, rfl⟩ := Option.map_eq_some_iff.mp found
      exact ready.buffered texts asked own
  · refine ⟨_, _, _, settled.contents.bytes_eq_body, ?_, rfl, ?_⟩
    · rw [← ready.alignment_eq, List.length_append, FileContents.length_framed, FileContents.messageLength,
        Nat.add_mod, settled.contents.front_mod positive, Bytes.roundUp_mod positive]
      exact Nat.zero_mod _
    · rw [← ready.alignment_eq]
      exact Ipc.laidOut_bodyOf settled.contents.buffers positive

theorem Settled.describeWithin? {budget : Flatbuffer.Budget} (within : settled.contents.Within budget) :
    Ipc.describeWithin? budget options.alignment settled.contents.bytes =
      some settled.contents.description := by
  obtain ⟨positive, narrow⟩ := bounds_of_aligned ready.aligned
  rw [← ready.alignment_eq] at positive narrow ⊢
  refine FileContents.describeWithin?_bytes within ?_ positive narrow
  intro data member
  rw [ready.contents] at member ⊢
  obtain ⟨column, inside, rfl⟩ := List.mem_map.mp member
  exact Transpose.length_of_columnsOfRows ready.columns inside

end Settled

/-- A row batch is written with the fields that its provider has annotated, as one batch without
dictionaries, and laid out at the alignment of the file: nodes, bitmaps, values and offsets are those of
its rows. At all alignments the file is the same but for offsets and padding. -/
theorem writeBytes_layout (batch : RowBatch) (typeHints : Bool)
    (distinct : batch.schema.declaredIds.Nodup) (few : batch.schema.width < 2 ^ 64)
    (texts : ∀ position < batch.schema.width, batch.payload position < 2 ^ 31) :
    ∃ dictionaries unplaced, DictionaryProvider.build batch.columns
        (plainFields batch.schema typeHints) = .ok dictionaries ∧
      ∀ alignment ∈ WriteOptions.alignments, ∀ [Footprint Column] (writer : ColumnArena),
        batch.footprint ≤ writer.room →
        let written := writeBytes writer batch ⟨alignment, typeHints⟩
        ∃ settled, Settled writer batch ⟨alignment, typeHints⟩ settled ∧
          written.result = .ok (writer.nextHandles batch.schema.width) ∧
          written.sink = settled.contents.bytes ∧
          ∀ budget, settled.contents.Within budget →
            ∃ description described,
              Ipc.describeWithin? budget alignment written.sink = some description ∧
              description.dictionaryBatches = 0 ∧ description.batches = [described] ∧
              description.schema =
                ⟨dictionaries.annotateFields (plainFields batch.schema typeHints), ∅⟩ ∧
              Layout batch alignment written.sink described ∧ description.unplaced = unplaced := by
  obtain ⟨dictionaries, built⟩ := exists_built batch typeHints distinct few
  let plain : FileContents := ⟨8, List.zipWith writtenField (dictionaries.annotateFields
    (plainFields batch.schema typeHints)) batch.columns, batch.numRows, batch.columns.map (·.data)⟩
  refine ⟨dictionaries, plain.description.unplaced, built, ?_⟩
  intro alignment aligned _ writer room
  obtain ⟨settled, ready, rfl⟩ := @exists_settled_of_built _ batch ⟨alignment, typeHints⟩ writer _
    aligned room built
  have sink := ready.writeBytes_sink
  refine ⟨settled, ready, ready.writeBytes_result room, sink, fun budget within => ?_⟩
  rw [sink]
  refine ⟨_, _, ready.describeWithin? within, rfl, rfl, ?_, ready.layout texts, ?_⟩
  · exact congrArg (FileSchema.mk · ∅) ready.toField_fields
  · have same : settled.contents = { plain with alignment := alignment } := by
      rw [ready.contents, ready.columns_eq]
    rw [same]
    exact plain.unplaced_description alignment

open NominalFootprint in
/-- The file of `twins` and the one at an alignment of eight bytes. -/
theorem writeBytes_layout_twins :
    let file := (writeBytes (Arena.new 0 Arena.unlimited) twins ⟨8, true⟩).sink
    ∃ description description' described described', Ipc.describe? 8 file = some description ∧
      Ipc.describe? 64 twinsFile = some description' ∧
      description.unplaced = description'.unplaced ∧ description.batches = [described] ∧
      Layout twins 8 file described ∧ description'.batches = [described'] ∧
      Layout twins 64 twinsFile described' := by
  have texts : ∀ position < twins.schema.width, twins.payload position < 2 ^ 31 := by decide +kernel
  have room := @Arena.le_room_unlimited Column 0 twins.footprint
  obtain ⟨dictionaries, unplaced, -, written⟩ :=
    writeBytes_layout twins true (by decide) (by decide) texts
  obtain ⟨narrow, ready, -, -, described⟩ := written 8 (by decide) (Arena.new 0 Arena.unlimited) room
  have small : narrow.contents.Within .full := ready.within_of_decide (by decide +kernel)
  obtain ⟨_, _, found, -, batch, -, layout, same⟩ := described .full small
  obtain ⟨wide, ready', -, -, described'⟩ := written 64 (by decide) (Arena.new 0 Arena.unlimited) room
  obtain ⟨own, readyOwn, within, -⟩ := exists_settled_twins
  obtain rfl := Except.ok.inj ((plan_eq_ok.mpr readyOwn).symm.trans (plan_eq_ok.mpr ready'))
  obtain ⟨_, _, found', -, batch', -, layout', same'⟩ := described' .full within
  exact ⟨_, _, _, _, found, found', same.trans same'.symm, batch, layout, batch', layout'⟩

end Columnar.TableFile
