import Columnar.Proofs.TableFile.AtomicWrite
import Columnar.Proofs.TableFile.Contents

/-!
What the fields of a written file stand for. Whichever encoding was recorded in it, each field stands
for the same column as before (`Settled.written_for`), with type hints for the one it is written for
(`Settled.written`), and so a reader gets the columns of the schema and the columns of the batch out of
them (`Written.stands`, `Written.columnsOf`).
-/
namespace Columnar.TableFile

open DictionaryEncoding (declared)

/-- Whether a field is the one written for a column of a table. -/
structure Writes (spec : ColumnSpec) (column : Column) (field : Ipc.WrittenField) : Prop where
  stands : ColumnSpec.ofField field.toField = .ok spec
  storage : field.storage = column.data.storage
  name : column.name = spec.name
  type : column.type = spec.type

/-- Whether fields are the ones written for the columns of a table, one for each. -/
inductive Written : List ColumnSpec → List Column → List Ipc.WrittenField → Prop where
  | nil : Written [] [] []
  | cons {spec : ColumnSpec} {column : Column} {field : Ipc.WrittenField}
      {specs : List ColumnSpec} {columns : List Column} {fields : List Ipc.WrittenField}
      (first : Writes spec column field) (rest : Written specs columns fields) :
      Written (spec :: specs) (column :: columns) (field :: fields)

private theorem written_of_getElem? {specs : List ColumnSpec} {columns : List Column}
    {fields : List Ipc.WrittenField} (width : columns.length = specs.length)
    (width' : fields.length = specs.length)
    (each : ∀ (index : Nat) (spec : ColumnSpec) (column : Column) (field : Ipc.WrittenField),
      specs[index]? = some spec → columns[index]? = some column → fields[index]? = some field →
        Writes spec column field) : Written specs columns fields := by
  induction specs generalizing columns fields with
  | nil =>
    obtain rfl := List.length_eq_zero_iff.mp width
    obtain rfl := List.length_eq_zero_iff.mp width'
    exact .nil
  | cons spec specs ih =>
    obtain ⟨column, columns, rfl⟩ := List.exists_cons_of_length_eq_add_one width
    obtain ⟨field, fields, rfl⟩ := List.exists_cons_of_length_eq_add_one width'
    refine .cons (each 0 spec column field rfl rfl rfl) (ih (Nat.succ.inj width) (Nat.succ.inj width')
      fun index other other' other'' => ?_)
    simpa using each (index + 1) other other' other''

theorem toField_writtenField {field : Field} {column : Column}
    (plain : field =
      { Field.plain field.name column.type.dataType with metadata := field.metadata })
    (encoding : DictionaryEncoding) (synthesized : Bool) :
    (writtenField (encoding.annotate field synthesized) column).toField =
      encoding.annotate field synthesized := by
  rw [plain]
  rfl

private theorem toField_eq_plain (spec : ColumnSpec) :
    spec.toField =
      { Field.plain spec.name spec.type.dataType with metadata := spec.toField.metadata } := by
  rw [ColumnSpec.toField]
  split <;> rfl

theorem plain_of_plainFields {schema : TableSchema} {typeHints : Bool} {index : Nat} {field : Field}
    (found : (plainFields schema typeHints)[index]? = some field) :
    ∃ spec, schema.columns[index]? = some spec ∧
      field = { Field.plain field.name spec.type.dataType with metadata := field.metadata } := by
  rw [plainFields] at found
  split at found
  case isTrue =>
    obtain ⟨spec, at', rfl⟩ := by simpa [TableSchema.fields] using found
    refine ⟨spec, at', ?_⟩
    rw [spec.toField_name]
    exact toField_eq_plain spec
  case isFalse =>
    obtain ⟨spec, at', rfl⟩ := by simpa [TableSchema.fields] using found
    refine ⟨spec, at', ?_⟩
    rw [toField_eq_plain]
    rfl

/-- Recording the encoding that a field declares, or marking one as synthesized where it declares none,
leaves the column that it stands for. -/
theorem ofField_annotate {field : Field} {spec : ColumnSpec} {encoding : DictionaryEncoding}
    {synthesized : Bool} (stands : ColumnSpec.ofField field = .ok spec)
    (declares : declared field = .ok (if synthesized then none else some encoding)) :
    ColumnSpec.ofField (encoding.annotate field synthesized) = .ok spec := by
  obtain ⟨name, type, own⟩ := ColumnSpec.ofField_eq_ok.mp stands
  refine ColumnSpec.ofField_eq_ok.mpr ⟨name, ?_, ?_⟩
  · rw [DictionaryEncoding.columnType_annotate, type]
  · rw [DictionaryEncoding.declared_annotate, ← declares, own]

/-- The fields of a file are written for the columns that they stand for before the encodings are
recorded. The data is that of the columns to be written, whatever types these have. -/
theorem Settled.written_for [Footprint Column] {arena : ColumnArena} {batch : RowBatch}
    {options : WriteOptions} {settled : Plan} (ready : Settled arena batch options settled) {specs : List ColumnSpec}
    {columns : List Column}
    (stands : (plainFields batch.schema options.typeHints).mapM ColumnSpec.ofField = .ok specs)
    (suits : List.Forall₂ Column.Suits specs columns)
    (data : columns.map (·.data) = settled.columns.map (·.data)) :
    Written specs columns settled.contents.fields := by
  obtain ⟨entries, built⟩ := DictionaryProvider.built_of_build ready.dictionaries
  have fields : settled.contents.fields = List.zipWith writtenField
      (List.zipWith (fun field entry => entry.encoding.annotate field entry.synthesized)
        (plainFields batch.schema options.typeHints) entries) settled.columns := by
    rw [ready.contents, built.annotateFields_eq]
  obtain ⟨count, stands⟩ := List.forall₂_iff_get.mp (mapM_eq_ok.mp stands)
  obtain ⟨width, suits⟩ := List.forall₂_iff_get.mp suits
  have width' : settled.columns.length = specs.length := by
    rw [width, ← List.length_map (·.data), ← data, List.length_map]
  refine written_of_getElem? width.symm ?_ fun index spec column field found found' found'' => ?_
  · rw [fields, List.length_zipWith, List.length_zipWith, built.length, count, width', Nat.min_self]
    exact Nat.min_self _
  · rw [fields] at found''
    obtain ⟨annotated, source, inner, placed, rfl⟩ := List.getElem?_zipWith_eq_some.mp found''
    obtain ⟨plain, entry, own, at', rfl⟩ := List.getElem?_zipWith_eq_some.mp inner
    obtain ⟨before, kept, form⟩ := plain_of_plainFields own
    rw [← (ready.fills.2 index before source kept placed).type] at form
    obtain ⟨item, listed, describes⟩ := built.describes_at at'
    have field := (DictionaryProvider.placed_getElem?.mp listed).2.2.symm.trans own
    have declares := describes.declared
    rw [Option.some.inj field] at declares
    have same : column.data = source.data := by
      have both := congrArg (·[index]?) data
      simpa [found', placed] using both
    obtain ⟨inside, rfl⟩ := List.getElem?_eq_some_iff.mp own
    obtain ⟨inside', rfl⟩ := List.getElem?_eq_some_iff.mp found
    obtain ⟨inside'', rfl⟩ := List.getElem?_eq_some_iff.mp found'
    have suit := suits index inside' inside''
    refine ⟨?_, ?_, suit.name, suit.type⟩
    · rw [toField_writtenField form]
      exact ofField_annotate (stands index inside inside') declares
    · rw [same]
      exact source.stored.symm

theorem Settled.written [Footprint Column] {arena : ColumnArena} {batch : RowBatch}
    {options : WriteOptions} {settled : Plan} (ready : Settled arena batch options settled)
    (hints : options.typeHints = true) :
    Written batch.schema.columns settled.columns settled.contents.fields := by
  refine ready.written_for ?_ (Transpose.suits_of_columnsOfRows ready.columns) rfl
  rw [plainFields, if_pos hints]
  exact batch.schema.stands_fields

theorem Writes.columnOf {spec : ColumnSpec} {column : Column} {field : Ipc.WrittenField}
    (writes : Writes spec column field) :
    (columnOf field.toField spec column.data).result = .ok column := by
  have name := (ColumnSpec.ofField_eq_ok.mp writes.stands).1.trans writes.name.symm
  rw [columnOf_result, name, ← writes.type, Column.ofData, dif_pos column.stored]
  rfl

section Written

variable {specs : List ColumnSpec} {columns : List Column} {fields : List Ipc.WrittenField}
  (written : Written specs columns fields)

include written

theorem Written.stands :
    (fields.map Ipc.WrittenField.toField).mapM ColumnSpec.ofField = .ok specs := by
  induction written with
  | nil => rfl
  | cons first rest ih => rw [List.map_cons, List.mapM_cons, first.stands, ok_bind, ih]; rfl

theorem Written.storages :
    (fields.map Ipc.WrittenField.toField).mapM storageOf =
      .ok (columns.map fun column => (column.data.storage, true)) := by
  induction written with
  | nil => rfl
  | @cons spec column field _ _ _ first rest ih =>
    have own : storageOf field.toField = .ok (column.data.storage, true) := by
      rw [← first.storage]
      cases stored : field.storage <;> simp [storageOf, Ipc.WrittenField.toField, Field.plain, stored,
        StorageType.dataType, DataType.storage?]
    rw [List.map_cons, List.mapM_cons, own, ok_bind, ih]
    rfl

theorem Written.columnsOf :
    (columnsOf (fields.map Ipc.WrittenField.toField) specs (columns.map (·.data))).result =
      .ok columns := by
  induction written with
  | nil => rfl
  | cons first rest ih =>
    simp only [List.map_cons, TableFile.columnsOf, Traced.bind_result, first.columnOf, ok_bind, ih,
      Traced.pure_result]

end Written

end Columnar.TableFile
