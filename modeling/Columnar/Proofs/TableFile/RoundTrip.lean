import Columnar.Proofs.Ipc.File
import Columnar.Proofs.TableFile.WrittenFields

/-!
Reading what was written. A file written with type hints holds what its reader needs to give the row
batch back: the schema, the row count and every cell (`readWithin_writeBytes`).
-/
namespace Columnar

def Cell.payload : Cell → Nat
  | .text value | .categorical value => (Text.bytes value).length
  | .bytes value | .blob value => value.length
  | _ => 0

/-- The bytes of the texts or byte strings in the column at a position. -/
def RowBatch.payload (batch : RowBatch) (position : Nat) : Nat :=
  ((Transpose.columnCells position batch.rows).map Cell.payload).sum

private theorem ColumnData.length_flatten_parts (type : ColumnType) (data : ColumnData) :
    data.parts.flatten.length ≤ ((data.cells type).map Cell.payload).sum := by
  have summed {α : Type} (slots : List (Option α)) (bytes : α → Bytes) (toCell : α → Cell)
      (own : ∀ a, (toCell a).payload = (bytes a).length) :
      (slots.map fun slot => slot.elim [] bytes).flatten.length =
        ((slotCells toCell slots).map Cell.payload).sum := by
    rw [List.length_flatten, List.map_map, slotCells, List.map_map]
    refine congrArg List.sum (List.map_congr_left fun slot _ => ?_)
    cases slot with
    | none => rfl
    | some a => exact (own a).symm
  cases data with
  | utf8 slots =>
    refine Nat.le_of_eq (summed slots Text.bytes (textCell type) fun text => ?_)
    rw [textCell]
    split <;> rfl
  | binary slots =>
    refine Nat.le_of_eq (summed slots id (bytesCell type) fun bytes => ?_)
    rw [bytesCell]
    split <;> rfl
  | _ => exact Nat.zero_le _

namespace TableFile

open Ipc (FileContents Readable)

/-- What makes a file the one of a table: its fields and its columns are the table's, all columns are
as long as the table, and their texts and byte strings have offsets that fit. -/
structure Holds (schema : TableSchema) (columns : List Column) (contents : FileContents) : Prop where
  written : Written schema.columns columns contents.fields
  data : contents.columns = columns.map (·.data)
  lengths : ∀ column ∈ columns, column.length = contents.rows
  parts : ∀ column ∈ columns, column.data.parts.flatten.length < 2 ^ 31

section Read

variable {schema : TableSchema} {columns : List Column} {contents : FileContents}
  (holds : Holds schema columns contents) {budget : Flatbuffer.Budget}
  (covered : contents.Covered budget)

include holds covered

private theorem firstBatch?_of_holds (fields : FileSchema) (reads : Nat) :
    Ipc.FileReader.firstBatch? ⟨Source.ofBytes contents.bytes, budget, fields, Ipc.currentVersion,
        [contents.batchBlock], reads⟩ (columns.map fun column => (column.data.storage, true)) =
      .ok (some ⟨contents.rows, columns.map (·.data)⟩) := by
  have lengths : ∀ data ∈ contents.columns, data.length = contents.rows := by
    intro data member
    rw [holds.data] at member
    obtain ⟨column, inside, rfl⟩ := List.mem_map.mp member
    exact holds.lengths column inside
  have readable : ∀ data ∈ contents.columns, Readable data := by
    intro data member
    have slots := covered.slots_lt lengths member
    rw [holds.data] at member
    obtain ⟨column, inside, rfl⟩ := List.mem_map.mp member
    exact ⟨slots, holds.parts column inside⟩
  have batch := FileContents.firstBatch?_bytes covered lengths readable fields reads
  rwa [holds.data, List.map_map] at batch

/-- What is read of a file that holds a table is the table. -/
theorem contents_of_built {dictionaries : DictionaryProvider}
    (built : DictionaryProvider.build columns (contents.fields.map Ipc.WrittenField.toField) =
      .ok dictionaries) :
    (TableFile.contents budget (Source.ofBytes contents.bytes)).result =
      .ok ⟨schema, contents.rows, columns, dictionaries⟩ := by
  obtain ⟨reads, opened⟩ := FileContents.openSource_bytes covered
  have batch := firstBatch?_of_holds holds covered
    ⟨contents.fields.map Ipc.WrittenField.toField, ∅⟩ reads
  have stands :
      TableSchema.ofFile ⟨contents.fields.map Ipc.WrittenField.toField, ∅⟩ = .ok schema := by
    rw [TableSchema.ofFile, holds.written.stands]
    rfl
  have open' := Reading.ofDecoded_eq_ok.mpr opened
  have stands' := Reading.ofExcept_eq_ok.mpr stands
  have single : (warnOfMany [contents.batchBlock]).result = .ok () := rfl
  have storages := Reading.ofExcept_eq_ok.mpr holds.written.storages
  have batch' := Reading.ofDecoded_eq_ok.mpr batch
  have dictionaries' : ((DictionaryProvider.tracedBuild columns
      (contents.fields.map Ipc.WrittenField.toField)).result.mapError ReadFailure.failed) =
        .ok dictionaries := by
    rw [DictionaryProvider.tracedBuild_result, built]
    rfl
  rw [TableFile.contents, Traced.bind_of_ok open', Traced.bind_of_ok stands',
    Traced.bind_of_ok single, Traced.bind_of_ok storages, Traced.bind_of_ok batch']
  dsimp only
  rw [Traced.bind_of_ok holds.written.columnsOf, Traced.bind_of_ok dictionaries']
  rfl

theorem contents_of_holds (distinct : schema.declaredIds.Nodup) (few : schema.width < 2 ^ 64)
    (width : columns.length = schema.width) :
    ∃ dictionaries, (TableFile.contents budget (Source.ofBytes contents.bytes)).result =
      .ok ⟨schema, contents.rows, columns, dictionaries⟩ := by
  obtain ⟨dictionaries, built⟩ :=
    (DictionaryProvider.build_of_stands holds.written.stands width).1 distinct few
  exact ⟨dictionaries, contents_of_built holds covered built⟩

end Read

section Settled

variable [Footprint Column] {batch : RowBatch} {options : WriteOptions} {writer reader : ColumnArena}

theorem exists_settled_of_built {dictionaries : DictionaryProvider}
    (aligned : options.alignment ∈ WriteOptions.alignments) (room : batch.footprint ≤ writer.room)
    (built : DictionaryProvider.build batch.columns (plainFields batch.schema options.typeHints) =
      .ok dictionaries) :
    ∃ settled, Settled writer batch options settled ∧ settled.dictionaries = dictionaries :=
  ⟨⟨⟨options.alignment, List.zipWith writtenField (dictionaries.annotateFields
      (plainFields batch.schema options.typeHints)) batch.columns, batch.numRows,
        batch.columns.map (·.data)⟩, batch.columns, dictionaries⟩,
    ⟨aligned, batch.columnsOfRows_eq,
      Arena.ensureRoom_eq_ok.mpr (UInt64.le_trans (Arena.plainFootprint_le batch.columns) room), built,
      rfl⟩, rfl⟩

theorem exists_settled (hints : options.typeHints = true)
    (aligned : options.alignment ∈ WriteOptions.alignments)
    (distinct : batch.schema.declaredIds.Nodup) (few : batch.schema.width < 2 ^ 64)
    (room : batch.footprint ≤ writer.room) : ∃ settled, Settled writer batch options settled := by
  have fields : plainFields batch.schema options.typeHints = batch.schema.fields := if_pos hints
  obtain ⟨dictionaries, built⟩ := (DictionaryProvider.build_of_stands batch.schema.stands_fields
    batch.length_columns).1 distinct few
  rw [← fields] at built
  obtain ⟨settled, ready, -⟩ := exists_settled_of_built aligned room built
  exact ⟨settled, ready⟩

theorem Settled.writeBytes_sink {settled : Plan} (ready : Settled writer batch options settled) :
    (writeBytes writer batch options).sink = settled.contents.bytes := by
  have wrote : writeBytes writer batch options = _ := write_of_emitted (plan_eq_ok.mpr ready)
    (Sink.emit_memory [] settled.contents.emissions)
  rw [wrote]
  rfl

section Room

variable {settled : Plan} (ready : Settled writer batch options settled)
  (room : batch.footprint ≤ writer.room)

include ready room

theorem Settled.writeBytes_result :
    (writeBytes writer batch options).result = .ok (writer.nextHandles batch.schema.width) := by
  rw [RowBatch.footprint, ← ready.columns_eq] at room
  have wrote : writeBytes writer batch options = _ := write_of_room (plan_eq_ok.mpr ready) room
    (Sink.emit_memory [] settled.contents.emissions)
  rw [wrote]

theorem Settled.writeBytes_arena :
    (writeBytes writer batch options).arena = writer.extend batch.footprint batch.columns := by
  rw [RowBatch.footprint, ← ready.columns_eq] at room ⊢
  have wrote : writeBytes writer batch options = _ := write_of_room (plan_eq_ok.mpr ready) room
    (Sink.emit_memory [] settled.contents.emissions)
  rw [wrote]

end Room

theorem Settled.sized {settled : Plan} (ready : Settled writer batch options settled)
    (texts : ∀ position < batch.schema.width, batch.payload position < 2 ^ 31) :
    ∀ column ∈ settled.columns,
      column.length = settled.contents.rows ∧ column.data.parts.flatten.length < 2 ^ 31 := by
  intro column member
  constructor
  · rw [ready.contents]
    exact Transpose.length_of_columnsOfRows ready.columns member
  · obtain ⟨position, inside, cells⟩ :=
      Transpose.exists_position_of_columnsOfRows ready.columns member
    refine Nat.lt_of_le_of_lt (ColumnData.length_flatten_parts column.type column.data) ?_
    rw [← Column.cells, cells]
    exact texts position inside

theorem Settled.holds {settled : Plan} (ready : Settled writer batch options settled)
    (hints : options.typeHints = true)
    (texts : ∀ position < batch.schema.width, batch.payload position < 2 ^ 31) :
    Holds batch.schema settled.columns settled.contents :=
  ⟨ready.written hints, by rw [ready.contents],
    fun column member => (ready.sized texts column member).1,
    fun column member => (ready.sized texts column member).2⟩

/-- A file with type hints, if its format can take it and the budget covers it, is read as what was to be
written. -/
theorem Settled.exists_contents_hinted {settled : Plan} {budget : Flatbuffer.Budget}
    (ready : Settled writer batch options settled) (hints : options.typeHints = true)
    (distinct : batch.schema.declaredIds.Nodup) (few : batch.schema.width < 2 ^ 64)
    (texts : ∀ position < batch.schema.width, batch.payload position < 2 ^ 31)
    (covered : settled.contents.Covered budget) :
    ∃ dictionaries, (TableFile.contents budget (Source.ofBytes settled.contents.bytes)).result =
      .ok ⟨batch.schema, batch.numRows, batch.columns, dictionaries⟩ := by
  obtain ⟨dictionaries, read⟩ := contents_of_holds (ready.holds hints texts) covered distinct few
    ready.fills.1
  have rows : settled.contents.rows = batch.numRows := by rw [ready.contents]
  rw [ready.columns_eq, rows] at read
  exact ⟨dictionaries, read⟩

theorem Settled.within_of_decide {settled : Plan} {budget : Flatbuffer.Budget}
    (ready : Settled writer batch options settled)
    (evaluated : (plan writer batch options).result.toOption.any
      (fun settled => decide (settled.contents.Within budget)) = true) :
    settled.contents.Within budget :=
  of_decide_ok (fun settled : Plan => settled.contents.Within budget) (plan_eq_ok.mpr ready) evaluated

/-- Whether reading gave a row batch back: its schema, its row count and its rows. -/
def Restores (batch : RowBatch) (outcome : Outcome ReadFailure ColumnBatch) : Prop :=
  ∃ read, outcome.result = .ok read ∧ read.schema = batch.schema ∧
    read.rowCount = batch.numRows ∧ read.toRowBatch outcome.arena = .ok batch

theorem restores_of_contents {budget : Flatbuffer.Budget} {source : Source}
    {dictionaries : DictionaryProvider}
    (read : (contents budget source).result =
      .ok ⟨batch.schema, batch.numRows, batch.columns, dictionaries⟩)
    (room : batch.footprint ≤ reader.room) :
    Restores batch (readWithin budget source reader) := by
  obtain ⟨result, left⟩ := readWithin_of_contents read room
  refine ⟨_, result, rfl, rfl, ?_⟩
  have columns := @ColumnBatch.columns_of_get ⟨reader.id, batch.schema,
    reader.nextHandles batch.columns.length, batch.numRows, dictionaries⟩ _ _
    (Arena.mapM_get_extend reader (Arena.totalFootprint batch.columns) batch.columns)
  rw [left, ColumnBatch.toRowBatch, columns, ok_bind]
  dsimp only
  rw [RowBatch.numRows, Transpose.rowsUpTo_columnsOfRows batch.columnsOfRows_eq, ok_bind,
    RowBatch.ofRows_rows batch.checked]

/-- A row batch written with type hints, at any alignment a file may have, is read back as it was, if
no two of its columns declare one dictionary id and the bytes of each column of texts or byte strings
have offsets that fit. Writing it never fails in an arena with room for it, nor does reading it, where
the same columns may count for more than they did when they were written. -/
theorem readWithin_writeBytes (batch : RowBatch) (options : WriteOptions)
    (writer : ColumnArena) (hints : options.typeHints = true)
    (aligned : options.alignment ∈ WriteOptions.alignments)
    (distinct : batch.schema.declaredIds.Nodup) (few : batch.schema.width < 2 ^ 64)
    (texts : ∀ position < batch.schema.width, batch.payload position < 2 ^ 31)
    (room : batch.footprint ≤ writer.room) :
    let written := writeBytes writer batch options
    ∃ settled, Settled writer batch options settled ∧
      written.result = .ok (writer.nextHandles batch.schema.width) ∧
      written.sink = settled.contents.bytes ∧
      ∀ budget, settled.contents.Covered budget →
        ∀ [Footprint Column] (reader : ColumnArena), batch.footprint ≤ reader.room →
          Restores batch (readWithin budget (Source.ofBytes written.sink) reader) := by
  obtain ⟨settled, ready⟩ := exists_settled hints aligned distinct few room
  have sink := ready.writeBytes_sink
  refine ⟨settled, ready, ready.writeBytes_result room, sink, fun budget covered => ?_⟩
  obtain ⟨dictionaries, read⟩ := ready.exists_contents_hinted hints distinct few texts covered
  intro _ reader room'
  rw [sink]
  exact restores_of_contents read room'

end Settled

/-- Two columns of one name, the first with a NaN that carries a payload, the second with a declared
encoding, and each with a null. -/
def twins : RowBatch where
  schema := ⟨[⟨"x", .float32, none⟩, ⟨"x", .categorical, some ⟨7, true⟩⟩]⟩
  rows := [[.float32 0x7FC00001, .null], [.null, .categorical "a"]]
  checked := rfl

open NominalFootprint

def twinsFile : Bytes :=
  (writeBytes (Arena.new 0 Arena.unlimited) twins .standard).sink

theorem exists_settled_twins :
    ∃ settled, Settled (Arena.new 0 Arena.unlimited) twins .standard settled ∧
      settled.contents.Within .full ∧ twinsFile = settled.contents.bytes := by
  have distinct : twins.schema.declaredIds.Nodup := by decide
  obtain ⟨settled, ready⟩ := @exists_settled _ twins .standard _ rfl (by decide) distinct (by decide)
    (Arena.le_room_unlimited 0 twins.footprint)
  have within : settled.contents.Within .full := ready.within_of_decide (by decide +kernel)
  exact ⟨settled, ready, within, ready.writeBytes_sink⟩

theorem contents_twinsFile :
    ∃ dictionaries, (contents .full (Source.ofBytes twinsFile)).result =
      .ok ⟨twins.schema, twins.numRows, twins.columns, dictionaries⟩ := by
  have distinct : twins.schema.declaredIds.Nodup := by decide
  have texts : ∀ position < twins.schema.width, twins.payload position < 2 ^ 31 := by decide +kernel
  obtain ⟨settled, ready, within, file⟩ := exists_settled_twins
  rw [file]
  exact ready.exists_contents_hinted rfl distinct (by decide) texts within.toCovered

theorem readBytes_writeBytes_twins :
    let writer : ColumnArena := Arena.new 0 Arena.unlimited
    let reader : ColumnArena := Arena.new 1 Arena.unlimited
    twins.schema.declaredIds.Nodup ∧ twins.footprint ≤ writer.room ∧ twins.footprint ≤ reader.room ∧
      (∀ position < twins.schema.width, twins.payload position < 2 ^ 31) ∧
      Restores twins (readBytes (writeBytes writer twins .standard).sink reader) := by
  intro writer reader
  have distinct : twins.schema.declaredIds.Nodup := by decide
  have room : twins.footprint ≤ writer.room := Arena.le_room_unlimited 0 twins.footprint
  have room' : twins.footprint ≤ reader.room := Arena.le_room_unlimited 1 twins.footprint
  have texts : ∀ position < twins.schema.width, twins.payload position < 2 ^ 31 := by decide +kernel
  obtain ⟨settled, ready, -, -, restores⟩ := readWithin_writeBytes twins .standard writer rfl
    (by decide) distinct (by decide) texts room
  have within : settled.contents.Within .full := ready.within_of_decide (by decide +kernel)
  exact ⟨distinct, room, room', texts, restores _ within.toCovered reader room'⟩

end TableFile

end Columnar
