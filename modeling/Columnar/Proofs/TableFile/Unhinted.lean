import Columnar.Proofs.Batch.Erasure
import Columnar.Proofs.TableFile.RoundTrip

/-!
Files written without type hints. A field without its hint stands for a column of the plain type of its
stored form, and still declares its encoding (`ofField_withoutHint`). So the file of a row batch is read
as the batch with its types erased, and nothing else is lost (`readWithin_unhinted`).
-/
namespace Columnar

open DictionaryEncoding (declared stated ordering?)

namespace Field

private theorem get?_withoutHint {field : Field} {key : String} (other : key ≠ TypeHint.key) :
    field.withoutHint.metadata.get? key = field.metadata.get? key := by
  rw [withoutHint, Metadata.get?_erase, if_neg other]

theorem declared_withoutHint (field : Field) : declared field.withoutHint = declared field := by
  have id := @get?_withoutHint field DictionaryEncoding.idKey (by decide)
  have ordered := @get?_withoutHint field DictionaryEncoding.orderedKey (by decide)
  have synthesized := @get?_withoutHint field DictionaryEncoding.synthesizedKey (by decide)
  simp only [declared, stated, ordering?, id, ordered, synthesized]
  rfl

private theorem columnType_withoutHint {field : Field} {storage : StorageType}
    (stored : field.dataType.storage? = some storage) :
    field.withoutHint.columnType = .ok storage.plainType := by
  have none : field.withoutHint.metadata.get? TypeHint.key = none := by
    rw [withoutHint, Metadata.get?_erase, if_pos rfl]
  have stored' : field.withoutHint.dataType.storage? = some storage := stored
  rw [columnType, stored', none]

end Field

private theorem ColumnSpec.ofField_withoutHint (spec : ColumnSpec) :
    ofField spec.toField.withoutHint = .ok spec.erased := by
  refine ofField_eq_ok.mpr ⟨spec.toField_name, ?_, ?_⟩
  · have stored : spec.toField.dataType.storage? = some spec.type.storage := by
      rw [toField_dataType, ColumnType.dataType, StorageType.storage?_dataType]
    rw [Field.columnType_withoutHint stored, ColumnType.plainType_storage]
    rfl
  · rw [Field.declared_withoutHint, declared_toField]
    rfl

namespace TableSchema

private theorem stands_withoutHint (schema : TableSchema) :
    (schema.fields.map Field.withoutHint).mapM ColumnSpec.ofField = .ok schema.erased.columns := by
  rw [mapM_eq_ok, fields, erased, List.map_map, List.forall₂_map_left_iff,
    List.forall₂_map_right_iff, List.forall₂_same]
  exact fun spec _ => spec.ofField_withoutHint

@[simp] theorem width_erased (schema : TableSchema) : schema.erased.width = schema.width :=
  List.length_map _

@[simp] theorem declaredIds_erased (schema : TableSchema) :
    schema.erased.declaredIds = schema.declaredIds :=
  List.filterMap_map

end TableSchema

namespace TableFile

theorem exists_built (batch : RowBatch) (typeHints : Bool) (distinct : batch.schema.declaredIds.Nodup)
    (few : batch.schema.width < 2 ^ 64) :
    ∃ dictionaries, DictionaryProvider.build batch.columns (plainFields batch.schema typeHints) =
      .ok dictionaries := by
  cases typeHints with
  | true =>
    exact (DictionaryProvider.build_of_stands batch.schema.stands_fields batch.length_columns).1
      distinct few
  | false =>
    have ids : batch.schema.erased.declaredIds = batch.schema.declaredIds :=
      batch.schema.declaredIds_erased
    have width : batch.schema.erased.width = batch.schema.width := batch.schema.width_erased
    exact (DictionaryProvider.build_of_stands batch.schema.stands_withoutHint
      (batch.length_columns.trans width.symm)).1 (ids ▸ distinct) (width ▸ few)

section Settled

variable [Footprint Column] {batch : RowBatch} {options : WriteOptions} {writer : ColumnArena}

theorem exists_settled_of_distinct (aligned : options.alignment ∈ WriteOptions.alignments)
    (distinct : batch.schema.declaredIds.Nodup) (few : batch.schema.width < 2 ^ 64)
    (room : batch.footprint ≤ writer.room) : ∃ settled, Settled writer batch options settled := by
  obtain ⟨dictionaries, built⟩ := exists_built batch options.typeHints distinct few
  obtain ⟨settled, ready, -⟩ := exists_settled_of_built aligned room built
  exact ⟨settled, ready⟩

section Bare

variable (bare : options.typeHints = false)

include bare

omit [Footprint Column] in
private theorem stands_plainFields :
    (plainFields batch.schema options.typeHints).mapM ColumnSpec.ofField =
      .ok batch.erased.schema.columns := by
  rw [bare]
  exact batch.schema.stands_withoutHint

theorem Settled.holds_erased {settled : Plan} (ready : Settled writer batch options settled)
    (texts : ∀ position < batch.schema.width, batch.payload position < 2 ^ 31) :
    Holds batch.erased.schema batch.erased.columns settled.contents := by
  have data : batch.erased.columns.map (·.data) = settled.columns.map (·.data) := by
    rw [ready.columns_eq, batch.columns_erased, List.map_map]
    rfl
  have sized : ∀ column ∈ batch.erased.columns,
      column.length = settled.contents.rows ∧ column.data.parts.flatten.length < 2 ^ 31 := by
    intro column member
    rw [batch.columns_erased, ← ready.columns_eq] at member
    obtain ⟨own, inside, rfl⟩ := List.mem_map.mp member
    exact ready.sized texts own inside
  have suits := Transpose.suits_of_columnsOfRows batch.erased.columnsOfRows_eq
  exact ⟨ready.written_for (stands_plainFields bare) suits data, by rw [ready.contents, data],
    fun column member => (sized column member).1, fun column member => (sized column member).2⟩

end Bare

/-- A file without hints, if its format can take it and the budget covers it, is read as what was to be
written with its types erased. -/
theorem Settled.exists_contents_bare {settled : Plan} {budget : Flatbuffer.Budget}
    (ready : Settled writer batch options settled) (bare : options.typeHints = false)
    (distinct : batch.schema.declaredIds.Nodup) (few : batch.schema.width < 2 ^ 64)
    (texts : ∀ position < batch.schema.width, batch.payload position < 2 ^ 31)
    (covered : settled.contents.Covered budget) :
    ∃ dictionaries, (TableFile.contents budget (Source.ofBytes settled.contents.bytes)).result =
      .ok ⟨batch.erased.schema, batch.erased.numRows, batch.erased.columns, dictionaries⟩ := by
  have ids : batch.erased.schema.declaredIds = batch.schema.declaredIds :=
    batch.schema.declaredIds_erased
  have width : batch.erased.schema.width = batch.schema.width := batch.schema.width_erased
  obtain ⟨dictionaries, read⟩ := contents_of_holds (ready.holds_erased bare texts) covered
    (ids ▸ distinct) (width ▸ few) batch.erased.length_columns
  have rows : settled.contents.rows = batch.erased.numRows := by
    rw [ready.contents]
    exact (List.length_map _).symm
  rw [rows] at read
  exact ⟨dictionaries, read⟩

omit [Footprint Column] in
theorem Restores.unique {other : RowBatch} {outcome : Outcome ReadFailure ColumnBatch}
    (first : Restores batch outcome) (second : Restores other outcome) : batch = other := by
  obtain ⟨read, result, -, -, rows⟩ := first
  obtain ⟨read', result', -, -, rows'⟩ := second
  obtain rfl := Except.ok.inj (result.symm.trans result')
  exact Except.ok.inj (rows.symm.trans rows')

/-- A row batch written without type hints is read back with its types erased, and so as it was exactly
if it has no categories and no blobs. Writing it never fails in an arena with room for it, nor does
reading it in one with room for what it then comes to. -/
theorem readWithin_unhinted (batch : RowBatch) (options : WriteOptions)
    (writer : ColumnArena) (bare : options.typeHints = false)
    (aligned : options.alignment ∈ WriteOptions.alignments)
    (distinct : batch.schema.declaredIds.Nodup) (few : batch.schema.width < 2 ^ 64)
    (texts : ∀ position < batch.schema.width, batch.payload position < 2 ^ 31)
    (room : batch.footprint ≤ writer.room) :
    let written := writeBytes writer batch options
    ∃ settled, Settled writer batch options settled ∧
      written.result = .ok (writer.nextHandles batch.schema.width) ∧
      written.sink = settled.contents.bytes ∧
      ∀ budget, settled.contents.Covered budget →
        ∀ [Footprint Column] (reader : ColumnArena), batch.erased.footprint ≤ reader.room →
          let outcome := readWithin budget (Source.ofBytes written.sink) reader
          Restores batch.erased outcome ∧
            (Restores batch outcome ↔
              ∀ spec ∈ batch.schema.columns, spec.type ≠ .categorical ∧ spec.type ≠ .blob) := by
  obtain ⟨settled, ready⟩ := exists_settled_of_distinct aligned distinct few room
  have sink := ready.writeBytes_sink
  refine ⟨settled, ready, ready.writeBytes_result room, sink, fun budget covered => ?_⟩
  obtain ⟨dictionaries, read⟩ := ready.exists_contents_bare bare distinct few texts covered
  intro _ reader room'
  have restores := restores_of_contents read room'
  rw [sink, ← RowBatch.erased_eq_self_iff]
  refine ⟨restores, fun whole => restores.unique whole, fun same => ?_⟩
  rwa [same] at restores

end Settled

open NominalFootprint in
/-- The categories of `twins` come back as texts. -/
theorem readBytes_unhinted_twins :
    let writer : ColumnArena := Arena.new 0 Arena.unlimited
    let outcome := readBytes (writeBytes writer twins ⟨64, false⟩).sink (Arena.new 1 Arena.unlimited)
    Restores twins.erased outcome ∧ ¬Restores twins outcome := by
  intro writer outcome
  have room : twins.footprint ≤ writer.room := Arena.le_room_unlimited 0 twins.footprint
  have texts : ∀ position < twins.schema.width, twins.payload position < 2 ^ 31 := by decide +kernel
  obtain ⟨settled, ready, -, -, restores⟩ := readWithin_unhinted twins ⟨64, false⟩ writer rfl
    (by decide) (by decide) (by decide) texts room
  have within : settled.contents.Within .full := ready.within_of_decide (by decide +kernel)
  obtain ⟨restored, whole⟩ := restores .full within.toCovered (Arena.new 1 Arena.unlimited)
    (Arena.le_room_unlimited 1 twins.erased.footprint)
  exact ⟨restored, fun same => absurd (whole.mp same) (by decide)⟩

end TableFile

end Columnar
