import Columnar.Proofs.Ipc.Overrun
import Columnar.Proofs.TableFile.HintedFields
import Columnar.Proofs.TableFile.Unhinted

/-!
Writing back what was read. Whoever wrote a file, if it can be read then its rows can be written with
type hints, and the new file is read as the same schema, rows and encodings (`rewrite_of_read`). The
fields of the new file say less than the old ones may have said, but they stand for the same columns,
and a column's encoding hangs on nothing else.
-/
namespace Columnar.TableFile

/-- Whether reading gave a column batch with the schema, the encodings and the given rows of another. -/
def Repeats (first : ColumnBatch) (rows : RowBatch) (outcome : Outcome ReadFailure ColumnBatch) :
    Prop :=
  ∃ second, outcome.result = .ok second ∧ second.schema = first.schema ∧
    second.rowCount = first.rowCount ∧ second.toRowBatch outcome.arena = .ok rows ∧
    second.dictionaries = first.dictionaries

section Rewrite

variable {schema : TableSchema} {count : Nat} {columns : List Column}
  {dictionaries : DictionaryProvider} (table : IsTable schema count columns dictionaries)

include table

private theorem build_of_table {fields : List Field}
    (stands : fields.mapM ColumnSpec.ofField = .ok schema.columns) :
    DictionaryProvider.build columns fields = .ok dictionaries := by
  obtain ⟨fields', stands', built⟩ := table.encoded
  rw [DictionaryProvider.build_eq_of_stands stands stands', built]

variable [Footprint Column] {writer : ColumnArena} {options : WriteOptions}

theorem exists_settled_of_table (hints : options.typeHints = true)
    (aligned : options.alignment ∈ WriteOptions.alignments)
    (room : table.rowBatch.footprint ≤ writer.room) :
    ∃ settled, Settled writer table.rowBatch options settled ∧ settled.dictionaries = dictionaries := by
  have built := build_of_table table schema.stands_fields
  have fields : plainFields schema options.typeHints = schema.fields := if_pos hints
  rw [← table.columns_rowBatch, ← fields] at built
  exact exists_settled_of_built aligned room built

/-- The file written for a table is read as the table. -/
theorem contents_of_table {settled : Plan} {budget : Flatbuffer.Budget}
    (parts : ∀ column ∈ columns, column.data.parts.flatten.length < 2 ^ 31)
    (ready : Settled writer table.rowBatch options settled) (hints : options.typeHints = true)
    (covered : settled.contents.Covered budget) :
    (contents budget (Source.ofBytes settled.contents.bytes)).result =
      .ok ⟨schema, count, columns, dictionaries⟩ := by
  have same : settled.columns = columns := ready.columns_eq.trans table.columns_rowBatch
  have written : Written schema.columns columns settled.contents.fields := same ▸ ready.written hints
  have rows : settled.contents.rows = count := by
    rw [ready.contents]
    exact Transpose.length_rowsOf columns count
  have holds : Holds schema columns settled.contents :=
    ⟨written, by rw [ready.contents, same], fun column member => by rw [table.lengths column member, rows],
      parts⟩
  -- The old fields and the new ones stand for the same columns, so the encodings are the same.
  have read := contents_of_built holds covered (build_of_table table written.stands)
  rwa [rows] at read

end Rewrite

/-- A file with type hints that takes more tables than the budget has is refused, wherever its columns were
to be placed. -/
theorem refused_of_few [Footprint Column] {writer : ColumnArena} {batch : RowBatch}
    {options : WriteOptions} {settled : Plan} {budget : Flatbuffer.Budget}
    (ready : Settled writer batch options settled) (hints : options.typeHints = true)
    (fits : settled.contents.Fits) (few : budget.tables < settled.dictionaries.tables) :
    (contents budget (Source.ofBytes settled.contents.bytes)).result =
      .error (.failed (.malformedInput (.format .undecodable))) := by
  rw [← ready.tables_eq hints] at few
  exact contents_of_unopened (Ipc.FileContents.openSource_of_few fits few)

variable {budget : Flatbuffer.Budget} {source : Source} {arena : ColumnArena} {first : ColumnBatch}

/-- Whatever can be read can be written with type hints, at any alignment and in any arena with room. If
the format can describe the new file and the budget covers it, then it is read, into any arena with room,
as the same schema, rows and encodings. If it takes more tables than the budget has, it is refused. -/
theorem rewrite_of_read [Footprint Column]
    (ok : (readWithin budget source arena).result = .ok first) :
    ∃ rows, first.toRowBatch (readWithin budget source arena).arena = .ok rows ∧
      ∀ options : WriteOptions, options.typeHints = true →
        options.alignment ∈ WriteOptions.alignments →
        ∀ [Footprint Column] (writer : ColumnArena), rows.footprint ≤ writer.room →
        let written := writeBytes writer rows options
        ∃ settled, Settled writer rows options settled ∧
          written.result = .ok (writer.nextHandles first.schema.width) ∧
          written.sink = settled.contents.bytes ∧
          (settled.contents.Covered budget →
            ∀ [Footprint Column] (reader : ColumnArena), rows.footprint ≤ reader.room →
              Repeats first rows (readWithin budget (Source.ofBytes written.sink) reader)) ∧
          (settled.contents.Fits → budget.tables < first.dictionaries.tables →
            ∀ [Footprint Column] (reader : ColumnArena),
              let again := readWithin budget (Source.ofBytes written.sink) reader
              again.result = .error (.failed (.malformedInput (.format .undecodable))) ∧
                again.arena = reader) := by
  obtain ⟨found, read, resolves, -⟩ := resolves_of_readWithin ok
  obtain ⟨-, parts⟩ := table_of_contents read
  have table := resolves.table
  refine ⟨table.rowBatch, resolves.toRowBatch_eq, fun options hints aligned _ writer room => ?_⟩
  obtain ⟨settled, ready, same⟩ := exists_settled_of_table table hints aligned room
  have sink := ready.writeBytes_sink
  refine ⟨settled, ready, ready.writeBytes_result room, sink, fun covered => ?_, fun fits few => ?_⟩
  · have again := contents_of_table table parts ready hints covered
    intro _ reader room'
    rw [RowBatch.footprint, table.columns_rowBatch] at room'
    rw [sink]
    obtain ⟨second, left⟩ := readWithin_of_contents again room'
    obtain ⟨found', read', resolves', -⟩ := resolves_of_readWithin second
    obtain rfl := Except.ok.inj (again.symm.trans read')
    exact ⟨_, second, rfl, rfl, resolves'.toRowBatch_eq, rfl⟩
  · rw [← same] at few
    have refused := refused_of_few ready hints fits few
    intro _ reader
    rw [sink]
    exact readWithin_of_failed refused

private theorem toRowBatch_of_contents [Footprint Column] {batch : RowBatch}
    {dictionaries : DictionaryProvider}
    (read : (contents budget source).result =
      .ok ⟨batch.schema, batch.numRows, batch.columns, dictionaries⟩)
    (room : batch.footprint ≤ arena.room) (ok : (readWithin budget source arena).result = .ok first) :
    first.toRowBatch (readWithin budget source arena).arena = .ok batch := by
  obtain ⟨other, ok', -, -, restored⟩ := restores_of_contents read room
  obtain rfl := Except.ok.inj (ok.symm.trans ok')
  exact restored

open NominalFootprint in
/-- The file of `twins`, written again at another alignment; and its file without type hints, read within
no more tables than it takes. -/
theorem rewrite_twins :
    (∃ first, (readBytes twinsFile (Arena.new 1 Arena.unlimited)).result = .ok first ∧
      Repeats first twins (readBytes (writeBytes (Arena.new 2 Arena.unlimited) twins ⟨8, true⟩).sink
        (Arena.new 3 Arena.unlimited))) ∧
    ∃ first, (readWithin ⟨11, 2 ^ 31⟩ (Source.ofBytes
        (writeBytes (Arena.new 0 Arena.unlimited) twins ⟨64, false⟩).sink)
          (Arena.new 1 Arena.unlimited)).result = .ok first ∧
      (readWithin ⟨11, 2 ^ 31⟩ (Source.ofBytes
        (writeBytes (Arena.new 2 Arena.unlimited) twins.erased ⟨8, true⟩).sink)
          (Arena.new 3 Arena.unlimited)).result =
        .error (.failed (.malformedInput (.format .undecodable))) := by
  have room (id : Nat) (batch : RowBatch) :
      batch.footprint ≤ (Arena.new id Arena.unlimited : ColumnArena).room :=
    Arena.le_room_unlimited id batch.footprint
  constructor
  · obtain ⟨dictionaries, found⟩ := contents_twinsFile
    have read := (readWithin_of_contents found (room 1 twins)).1
    obtain ⟨rows, restored, rewrites⟩ := rewrite_of_read read
    obtain rfl := Except.ok.inj (restored.symm.trans (toRowBatch_of_contents found (room 1 twins) read))
    obtain ⟨settled, ready, -, -, repeats, -⟩ := rewrites ⟨8, true⟩ rfl (by decide)
      (Arena.new 2 Arena.unlimited) (room 2 twins)
    have within : settled.contents.Within .full := ready.within_of_decide (by decide +kernel)
    exact ⟨_, read, repeats within.toCovered (Arena.new 3 Arena.unlimited) (room 3 twins)⟩
  · have texts : ∀ position < twins.schema.width, twins.payload position < 2 ^ 31 := by decide +kernel
    have distinct : twins.schema.declaredIds.Nodup := by decide
    obtain ⟨settled, ready⟩ := @exists_settled_of_distinct _ twins ⟨64, false⟩ _ (by decide) distinct
      (by decide) (room 0 twins)
    have within : settled.contents.Within ⟨11, 2 ^ 31⟩ := ready.within_of_decide (by decide +kernel)
    obtain ⟨dictionaries, found⟩ := ready.exists_contents_bare rfl distinct (by decide) texts
      within.toCovered
    have read := (readWithin_of_contents found (room 1 twins.erased)).1
    obtain ⟨rows, restored, rewrites⟩ := rewrite_of_read read
    obtain rfl := Except.ok.inj
      (restored.symm.trans (toRowBatch_of_contents found (room 1 twins.erased) read))
    obtain ⟨settled', ready', -, -, -, refused⟩ := rewrites ⟨8, true⟩ rfl (by decide)
      (Arena.new 2 Arena.unlimited) (room 2 twins.erased)
    have within' : settled'.contents.Within .full := ready'.within_of_decide (by decide +kernel)
    have built : DictionaryProvider.build twins.erased.columns twins.erased.schema.fields = .ok dictionaries :=
      build_of_table (table_of_contents found).1 twins.erased.schema.stands_fields
    have many : 11 < dictionaries.tables := of_decide_ok (11 < ·.tables) built (by decide +kernel)
    rw [ready.writeBytes_sink]
    exact ⟨_, read, (refused within'.toFits many (Arena.new 3 Arena.unlimited)).1⟩

end Columnar.TableFile
