import Columnar.Proofs.Batch.Agreement
import Columnar.Proofs.Ipc.Locality

/-!
What a read returns: the first record batch of the file, slot by slot (`ReadOff.verbatim`). The
fields of the file and that batch alone decide what comes of a read (`contents_result`), whatever
batches follow and whatever their blocks hold; and a file without a batch is refused
(`contents_of_no_batch`).
-/
namespace Columnar

/-- Whether a cell carries what a slot holds, a null for an empty slot. -/
inductive ColumnData.Shows : ColumnData → Nat → Cell → Prop
  | null {data : ColumnData} {row : Nat} (empty : data.validity[row]? = some false) :
    Shows data row .null
  | int32 {slots : List (Option Int32)} {row : Nat} {value : Int32}
    (held : slots[row]? = some (some value)) : Shows (.int32 slots) row (.int32 value)
  | int64 {slots : List (Option Int64)} {row : Nat} {value : Int64}
    (held : slots[row]? = some (some value)) : Shows (.int64 slots) row (.int64 value)
  | float32 {slots : List (Option UInt32)} {row : Nat} {value : UInt32}
    (held : slots[row]? = some (some value)) : Shows (.float32 slots) row (.float32 value)
  | float64 {slots : List (Option UInt64)} {row : Nat} {value : UInt64}
    (held : slots[row]? = some (some value)) : Shows (.float64 slots) row (.float64 value)
  | boolean {slots : List (Option Bool)} {row : Nat} {value : Bool}
    (held : slots[row]? = some (some value)) : Shows (.boolean slots) row (.boolean value)
  | text {slots : List (Option String)} {row : Nat} {value : String}
    (held : slots[row]? = some (some value)) : Shows (.utf8 slots) row (.text value)
  | categorical {slots : List (Option String)} {row : Nat} {value : String}
    (held : slots[row]? = some (some value)) : Shows (.utf8 slots) row (.categorical value)
  | timestamp {slots : List (Option Int64)} {row : Nat} {millis : Int64}
    (held : slots[row]? = some (some millis)) : Shows (.timestampMillis slots) row (.timestamp millis)
  | bytes {slots : List (Option Bytes)} {row : Nat} {value : Bytes}
    (held : slots[row]? = some (some value)) : Shows (.binary slots) row (.bytes value)
  | blob {slots : List (Option Bytes)} {row : Nat} {value : Bytes}
    (held : slots[row]? = some (some value)) : Shows (.binary slots) row (.blob value)

namespace ColumnData

private theorem slotCells_getElem?_eq_some {α : Type} {toCell : α → Cell} {slots : List (Option α)}
    {row : Nat} {cell : Cell} (shown : (slotCells toCell slots)[row]? = some cell) :
    (slots[row]? = some none ∧ cell = .null) ∨
      ∃ value, slots[row]? = some (some value) ∧ cell = toCell value := by
  unfold slotCells at shown
  rw [List.getElem?_map] at shown
  obtain ⟨slot, held, rfl⟩ := Option.map_eq_some_iff.mp shown
  cases slot with
  | none => exact .inl ⟨held, rfl⟩
  | some value => exact .inr ⟨value, held, rfl⟩

private theorem shows_of_cells {type : ColumnType} {data : ColumnData} {row : Nat} {cell : Cell}
    (shown : (data.cells type)[row]? = some cell) : data.Shows row cell := by
  have empty {α : Type} {slots : List (Option α)} (held : slots[row]? = some none) :
      (slots.map (·.isSome))[row]? = some false := by
    rw [List.getElem?_map, held]
    rfl
  cases data with
  | utf8 slots =>
    obtain ⟨held, rfl⟩ | ⟨value, held, rfl⟩ := slotCells_getElem?_eq_some shown
    · exact .null (empty held)
    · unfold textCell
      split
      · exact .categorical held
      · exact .text held
  | binary slots =>
    obtain ⟨held, rfl⟩ | ⟨value, held, rfl⟩ := slotCells_getElem?_eq_some shown
    · exact .null (empty held)
    · unfold bytesCell
      split
      · exact .blob held
      · exact .bytes held
  | _ =>
    obtain ⟨held, rfl⟩ | ⟨value, held, rfl⟩ := slotCells_getElem?_eq_some shown
    · exact .null (empty held)
    · constructor
      exact held

private theorem Shows.eq_null_iff {data : ColumnData} {row : Nat} {cell : Cell}
    (shows : data.Shows row cell) :
    cell = .null ↔ data.validity[row]? = some false := by
  have filled {α : Type} {slots : List (Option α)} {value : α}
      (held : slots[row]? = some (some value)) : (slots.map (·.isSome))[row]? ≠ some false := by
    rw [List.getElem?_map, held]
    simp
  cases shows with
  | null empty => exact iff_of_true rfl empty
  | _ held => exact iff_of_false (fun same => nomatch same) (filled held)

end ColumnData

namespace TableFile

/-- Whether a column batch in an arena is a record batch, column by column and cell by cell, with the
names and the types of the fields. -/
structure Verbatim (fields : List Field) (first : Ipc.RecordBatch) (batch : ColumnBatch)
    (arena : ColumnArena) : Prop where
  rows : batch.rowCount = first.rows
  width : batch.width = fields.length
  arrays : first.columns.length = fields.length
  column : ∀ (position : Nat) (field : Field) (data : ColumnData),
    fields[position]? = some field → first.columns[position]? = some data →
      field.dataType.storage? = some data.storage ∧ data.length = first.rows ∧
        ∃ column, batch.column arena position = .ok column ∧ column.name = field.name ∧
          field.columnType = .ok column.type ∧ column.data = data
  cell : ∀ (row position : Nat) (field : Field) (data : ColumnData), row < first.rows →
    fields[position]? = some field → first.columns[position]? = some data →
      ∃ type cell, field.columnType = .ok type ∧ batch.cell arena row position = .ok cell ∧
        cell.fits type = true ∧ (cell = .null ↔ data.validity[row]? = some false) ∧
        data.Shows row cell

private theorem storageOf_eq_ok {field : Field} {storage : StorageType × Bool} :
    storageOf field = .ok storage ↔
      field.dataType.storage? = some storage.1 ∧ field.nullable = storage.2 := by
  obtain ⟨storage, nullable⟩ := storage
  unfold storageOf
  cases field.dataType.storage? <;> simp

private theorem related_at {α β : Type} {R : α → β → Prop} {xs : List α} {ys : List β}
    (related : List.Forall₂ R xs ys) {index : Nat} {x : α} {y : β} (left : xs[index]? = some x)
    (right : ys[index]? = some y) : R x y := by
  obtain ⟨inside, rfl⟩ := List.getElem?_eq_some_iff.mp left
  obtain ⟨inside', rfl⟩ := List.getElem?_eq_some_iff.mp right
  exact (List.forall₂_iff_get.mp related).2 index inside inside'

namespace ReadOff

variable {budget : Flatbuffer.Budget} {source : Source} {reader : Ipc.FileReader}
  {storages : List (StorageType × Bool)} {first : Ipc.RecordBatch} {found : Contents}
  (off : ReadOff budget source reader storages first found)

include off

private theorem exists_column_at {position : Nat} {field : Field} {data : ColumnData}
    (at' : reader.schema.fields[position]? = some field)
    (array : first.columns[position]? = some data) :
    field.dataType.storage? = some data.storage ∧
      ∃ column, found.columns[position]? = some column ∧ column.name = field.name ∧
        field.columnType = .ok column.type ∧ column.data = data := by
  have sound := (Ipc.firstBatch?_accepted off.decoded).sound
  have stored := mapM_eq_ok.mp off.stored
  obtain ⟨column, column', rfl⟩ : ∃ column, found.columns[position]? = some column ∧
      column.data = data := by
    rw [← off.data_columns, List.getElem?_map] at array
    exact Option.map_eq_some_iff.mp array
  have inside : position < found.schema.columns.length := by
    rw [off.suits.length_eq]
    exact (List.getElem?_eq_some_iff.mp column').1
  have inside' : position < storages.length := by
    rw [← stored.length_eq]
    exact (List.getElem?_eq_some_iff.mp at').1
  have spec := List.getElem?_eq_getElem inside
  have storage := List.getElem?_eq_getElem inside'
  obtain ⟨name, type, -⟩ :=
    ColumnSpec.ofField_eq_ok.mp (related_at (mapM_eq_ok.mp off.stands) at' spec)
  have suit := related_at off.suits spec column'
  constructor
  · rw [List.forall₂_map_left_iff] at sound
    rw [(related_at sound storage array).storage]
    exact (storageOf_eq_ok.mp (related_at stored at' storage)).1
  · exact ⟨column, column', suit.name.trans name.symm, suit.type ▸ type, rfl⟩

theorem verbatim {batch : ColumnBatch} {arena : ColumnArena} (rows : batch.rowCount = found.rows)
    (resolves : ColumnBatch.Resolves batch arena found.columns) :
    Verbatim reader.schema.fields first batch arena := by
  have lengths := (Ipc.firstBatch?_accepted off.decoded).lengths
  refine ⟨rows.trans off.rows, ?_, off.length_first, ?_, ?_⟩
  · rw [resolves.width_eq, ← off.length_first, ← off.data_columns, List.length_map]
  · intro position field data at' array
    obtain ⟨storage, column, own, name, type, same⟩ := off.exists_column_at at' array
    refine ⟨storage, lengths data (List.mem_of_getElem? array), column, ?_, name, type, same⟩
    rw [resolves.column_eq, own]
  · intro row position field data inside at' array
    obtain ⟨-, column, own, -, type, rfl⟩ := off.exists_column_at at' array
    have long : row < column.cells.length := by
      rw [column.length_cells, Column.length, lengths _ (List.mem_of_getElem? array)]
      exact inside
    have shown := List.getElem?_eq_getElem long
    have shows := ColumnData.shows_of_cells shown
    refine ⟨column.type, column.cells[row], type, ?_, ?_, shows.eq_null_iff, shows⟩
    · unfold ColumnBatch.cell
      rw [resolves.column_eq, own]
      exact Column.cell_eq_ok.mpr shown
    · exact Column.fits_of_mem_cells (List.getElem_mem long)

end ReadOff

/-- What fields and a first batch come to, the batch being read with the storages of the fields. -/
def contentsOf (fields : List Field)
    (first? : List (StorageType × Bool) → Ipc.Decoded (Option Ipc.RecordBatch)) :
    Except ReadFailure Contents := do
  let schema ← (TableSchema.ofFile ⟨fields, ∅⟩).mapError .failed
  let storages ← (fields.mapM storageOf).mapError .failed
  match ← (first? storages).mapError .ofFault with
  | none => .error (.failed (.malformedInput .noRecordBatch))
  | some first => do
    let columns ← (columnsOf fields schema.columns first.columns).result
    let dictionaries ← (DictionaryProvider.tracedBuild columns fields).result.mapError .failed
    .ok ⟨schema, first.rows, columns, dictionaries⟩

theorem warnOfMany_result (batches : List Ipc.FileBlock) : (warnOfMany batches).result = .ok () := by
  unfold warnOfMany
  split <;> rfl

section Opened

variable {budget : Flatbuffer.Budget} {source : Source} {reader : Ipc.FileReader}

theorem contents_result (opened : Ipc.FileReader.openSource budget source = .ok reader) :
    (contents budget source).result = contentsOf reader.schema.fields reader.firstBatch? := by
  unfold contents
  rw [Traced.bind_of_ok (Reading.ofDecoded_eq_ok.mpr opened), Traced.bind_result]
  unfold contentsOf
  congr 1
  funext schema
  rw [Traced.bind_of_ok (warnOfMany_result reader.batches), Traced.bind_result]
  congr 1
  funext storages
  rw [Traced.bind_result]
  congr 1
  funext first?
  cases first? with
  | none => rfl
  | some first => simp only [Traced.bind_result, Traced.pure_result]

theorem contentsOf_congr {fields : List Field}
    {first? first?' : List (StorageType × Bool) → Ipc.Decoded (Option Ipc.RecordBatch)}
    (same : ∀ storages, fields.mapM storageOf = .ok storages → first?' storages = first? storages) :
    contentsOf fields first?' = contentsOf fields first? := by
  unfold contentsOf
  congr 1
  funext schema
  apply bind_congr_of_ok
  intro storages stored
  rw [same storages (mapError_eq_ok.mp stored)]

private theorem exists_storages {fields : List Field} {specs : List ColumnSpec}
    (stands : fields.mapM ColumnSpec.ofField = .ok specs) :
    ∃ storages, fields.mapM storageOf = .ok storages := by
  apply exists_mapM_eq_ok.mpr
  intro field member
  obtain ⟨spec, own⟩ := exists_mapM_eq_ok.mp ⟨specs, stands⟩ field member
  have type := (ColumnSpec.ofField_eq_ok.mp own).2.1
  unfold Field.columnType at type
  cases stored : field.dataType.storage? with
  | none =>
    rw [stored] at type
    cases type
  | some storage => exact ⟨(storage, field.nullable), storageOf_eq_ok.mpr ⟨stored, rfl⟩⟩

private theorem contents_of_no_batch (opened : Ipc.FileReader.openSource budget source = .ok reader)
    (none : reader.batches = []) {schema : TableSchema}
    (stands : TableSchema.ofFile reader.schema = .ok schema) :
    (contents budget source).result = .error (.failed (.malformedInput .noRecordBatch)) := by
  obtain ⟨specs, each, -⟩ := bind_eq_ok.mp stands
  obtain ⟨storages, stored⟩ := exists_storages each
  have first? : reader.firstBatch? storages = .ok .none := by
    unfold Ipc.FileReader.firstBatch?
    rw [none]
  have stands' : TableSchema.ofFile ⟨reader.schema.fields, ∅⟩ = .ok schema := stands
  rw [contents_result opened]
  unfold contentsOf
  rw [stands', stored]
  dsimp only [Except.mapError]
  rw [ok_bind, ok_bind, first?]
  rfl

end Opened

/-- What is read of a file does not hang on the bytes that a reader does not look at. -/
theorem contents_congr {budget : Flatbuffer.Budget} {bytes bytes' : Bytes}
    (size : bytes'.length = bytes.length)
    (same : ∀ place ∈ Ipc.lookedAt budget bytes, Ipc.SameAt bytes bytes' place) :
    contents budget (Source.ofBytes bytes') = contents budget (Source.ofBytes bytes) := by
  unfold contents
  rw [Ipc.openSource_congr size same]
  cases opened : Ipc.FileReader.openSource budget (Source.ofBytes bytes) with
  | error fault => rfl
  | ok reader =>
    have step (reader : Ipc.FileReader) (next : Ipc.FileReader → Reading Contents) :
        (Reading.ofDecoded (.ok reader) >>= next) = next reader := rfl
    dsimp only [Except.map]
    rw [step, step]
    simp only [Ipc.firstBatch?_congr same opened]

/-- What is read of a file decides what a read with room comes to. What the columns count for makes no
difference but to what the arena counts. -/
theorem readWithin_congr {budget budget' : Flatbuffer.Budget} {source source' : Source}
    (same : (contents budget' source').result = (contents budget source).result)
    (counts counts' : Footprint Column) {arena : ColumnArena}
    (roomy : Roomy (@readWithin counts budget source arena))
    (roomy' : Roomy (@readWithin counts' budget' source' arena)) :
    let outcome := @readWithin counts budget source arena
    let outcome' := @readWithin counts' budget' source' arena
    outcome'.result = outcome.result ∧
      { outcome'.arena with reserved := outcome.arena.reserved } = outcome.arena := by
  dsimp only
  cases read : (contents budget source).result with
  | error failure =>
    obtain ⟨failed, left⟩ := @readWithin_of_failed counts _ _ arena _ read
    obtain ⟨failed', left'⟩ := @readWithin_of_failed counts' _ _ arena _ (same.trans read)
    rw [failed, failed', left, left']
    exact ⟨rfl, rfl⟩
  | ok found =>
    have read' := same.trans read
    have room := @Roomy.room counts _ _ _ _ roomy read
    have room' := @Roomy.room counts' _ _ _ _ roomy' read'
    obtain ⟨result, left⟩ := @readWithin_of_contents counts _ _ _ _ read room
    obtain ⟨result', left'⟩ := @readWithin_of_contents counts' _ _ _ _ read' room'
    rw [result, result', left, left']
    exact ⟨rfl, rfl⟩

def emptyFile : Bytes :=
  let footer := (Ipc.footerBlock [] []).finish
  footer ++ Ipc.trailerFor footer.length

private theorem openSource_emptyFile :
    ∃ reads, Ipc.FileReader.openSource .full (Source.ofBytes emptyFile) =
      .ok ⟨Source.ofBytes emptyFile, .full, ⟨[], ∅⟩, Ipc.currentVersion, [], reads⟩ :=
  @Ipc.openSource_of_footer .full [] [] (by simp) (by decide +kernel) (by decide) (by decide +kernel)
    emptyFile [] rfl

/-- A read returns the first record batch of the file, with the names and the types of its fields, cell
by cell. Two files with the same fields and the same first batch are read alike with room for them,
whatever else they hold and whatever their columns count for; so are files of one length that differ only
where the reader does not look, as in the blocks of later batches. A file without a batch is refused. -/
theorem first_batch_verbatim :
    (∀ [Footprint Column] (budget : Flatbuffer.Budget) (source : Source) (arena : ColumnArena)
      (batch : ColumnBatch),
      (readWithin budget source arena).result = .ok batch →
        ∃ reader storages first, Ipc.FileReader.openSource budget source = .ok reader ∧
          reader.schema.fields.mapM storageOf = .ok storages ∧
          reader.firstBatch? storages = .ok (some first) ∧
          Verbatim reader.schema.fields first batch (readWithin budget source arena).arena) ∧
    (∀ (budget budget' : Flatbuffer.Budget) (source source' : Source)
      (reader reader' : Ipc.FileReader) (arena : ColumnArena) (counts counts' : Footprint Column),
      Ipc.FileReader.openSource budget source = .ok reader →
      Ipc.FileReader.openSource budget' source' = .ok reader' →
      reader'.schema.fields = reader.schema.fields →
      (∀ storages, reader.schema.fields.mapM storageOf = .ok storages →
        reader'.firstBatch? storages = reader.firstBatch? storages) →
        let outcome := @readWithin counts budget source arena
        let outcome' := @readWithin counts' budget' source' arena
        Roomy outcome → Roomy outcome' → outcome'.result = outcome.result ∧
          { outcome'.arena with reserved := outcome.arena.reserved } = outcome.arena) ∧
    (∀ [Footprint Column] (budget : Flatbuffer.Budget) (bytes bytes' : Bytes), bytes'.length = bytes.length →
      (∀ place ∈ Ipc.lookedAt budget bytes, Ipc.SameAt bytes bytes' place) →
        readWithin budget (Source.ofBytes bytes') = readWithin budget (Source.ofBytes bytes)) ∧
    ∀ [Footprint Column] (budget : Flatbuffer.Budget) (source : Source) (reader : Ipc.FileReader)
      (schema : TableSchema) (arena : ColumnArena), Ipc.FileReader.openSource budget source = .ok reader →
      reader.batches = [] → TableSchema.ofFile reader.schema = .ok schema →
        (readWithin budget source arena).result =
            .error (.failed (.malformedInput .noRecordBatch)) ∧
          (readWithin budget source arena).arena = arena := by
  refine ⟨?_, ?_, ?_, ?_⟩
  · intro _ budget source arena batch ok
    obtain ⟨found, read, -, rfl⟩ := readWithin_eq_ok.mp ok
    obtain ⟨found', read', resolves, -⟩ := resolves_of_readWithin ok
    obtain rfl := Except.ok.inj (read.symm.trans read')
    obtain ⟨reader, storages, first, off⟩ := exists_readOff read
    exact ⟨reader, storages, first, off.opened, off.stored, off.decoded, off.verbatim rfl resolves⟩
  · intro budget budget' source source' reader reader' arena counts counts' opened opened' fields first
    apply readWithin_congr
    rw [contents_result opened, contents_result opened', fields]
    exact contentsOf_congr first
  · intro _ budget bytes bytes' size same
    unfold readWithin
    rw [contents_congr size same]
  · intro _ budget source reader schema arena opened none stands
    exact readWithin_of_failed (contents_of_no_batch opened none stands)

open NominalFootprint in
/-- The file of `twins` is its first batch, also without the marker at its start, at which no reader
looks; and the file without batches is refused. -/
theorem first_batch_twins :
    let arena : ColumnArena := Arena.new 1 Arena.unlimited
    let marred := twinsFile.set 0 0
    (∃ batch reader storages first, (readBytes twinsFile arena).result = .ok batch ∧
      Ipc.FileReader.openSource .full (Source.ofBytes twinsFile) = .ok reader ∧
      reader.firstBatch? storages = .ok (some first) ∧
      Verbatim reader.schema.fields first batch (readBytes twinsFile arena).arena ∧
      (readBytes marred arena).result = .ok batch) ∧
      readBytes marred = readBytes twinsFile ∧
      (readBytes emptyFile arena).result = .error (.failed (.malformedInput .noRecordBatch)) := by
  intro arena marred
  obtain ⟨verbatim, alike, local', refused⟩ := first_batch_verbatim
  have room : twins.footprint ≤ arena.room := Arena.le_room_unlimited 1 twins.footprint
  have size : marred.length = twinsFile.length := List.length_set
  have same : ∀ place ∈ Ipc.lookedAt .full twinsFile, Ipc.SameAt twinsFile marred place := by
    obtain ⟨settled, -, within, file⟩ := exists_settled_twins
    intro place member
    apply Ipc.sameAt_set
    rw [file] at member
    exact Nat.lt_of_lt_of_le settled.contents.front_pos
      (Ipc.FileContents.front_le_of_mem_lookedAt within.toCovered member)
  obtain ⟨dictionaries, found⟩ := contents_twinsFile
  have ok := (readWithin_of_contents found room).1
  obtain ⟨reader, storages, first, opened, stored, decoded, cells⟩ :=
    verbatim .full (Source.ofBytes twinsFile) arena _ ok
  have opened' : Ipc.FileReader.openSource .full (Source.ofBytes marred) =
      .ok { reader with source := Source.ofBytes marred } := by
    rw [Ipc.openSource_congr size same, opened]
    rfl
  have unchanged : readBytes marred = readBytes twinsFile := local' .full twinsFile marred size same
  have roomy : Roomy (readBytes twinsFile arena) := fun cause full => nomatch full.symm.trans ok
  have roomy' : Roomy (readBytes marred arena) := by rwa [unchanged]
  have again := alike .full .full (Source.ofBytes twinsFile) (Source.ofBytes marred) reader _ arena
    _ _ opened opened' rfl (fun storages _ => Ipc.firstBatch?_congr same opened storages) roomy
    roomy'
  obtain ⟨reads, bare⟩ := openSource_emptyFile
  exact ⟨⟨_, reader, storages, first, ok, opened, decoded, cells, again.1.trans ok⟩,
    unchanged, (refused .full _ _ ⟨[]⟩ arena bare rfl rfl).1⟩

end TableFile

end Columnar
