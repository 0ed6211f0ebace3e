import Columnar.Proofs.Batch.Reading
import Columnar.Proofs.Ipc.Accepted
import Columnar.TableFile.Read

/-!
Reading a file, by what it holds. Whatever is read of a file is a table whose texts and byte strings a
file can hold again (`table_of_contents`). Its columns are placed in the arena with room for them
(`readWithin_of_contents`); in all other cases the arena is left as it was (`readWithin_of_failed`,
`readWithin_of_full`).
-/
namespace Columnar

namespace Reading

variable {α : Type} {value : α}

theorem ofDecoded_eq_ok {decoded : Ipc.Decoded α} :
    (ofDecoded decoded).result = .ok value ↔ decoded = .ok value :=
  mapError_eq_ok

theorem ofExcept_eq_ok {result : Except ConversionError α} :
    (ofExcept result).result = .ok value ↔ result = .ok value :=
  mapError_eq_ok

end Reading

namespace TableFile

theorem columnOf_result (field : Field) (spec : ColumnSpec) (data : ColumnData) :
    (columnOf field spec data).result =
      (Column.ofData field.name spec.type data).mapError .failed := by
  rw [columnOf]
  split
  · rfl
  · rfl

private theorem ofData_eq_ok {name : String} {type : ColumnType} {data : ColumnData} {column : Column} :
    Column.ofData name type data = .ok column ↔
      column.name = name ∧ column.type = type ∧ column.data = data := by
  rw [Column.ofData]
  split
  case isTrue stored =>
    constructor
    · intro ok
      obtain rfl := Except.ok.inj ok
      exact ⟨rfl, rfl, rfl⟩
    · rintro ⟨rfl, rfl, rfl⟩
      rfl
  case isFalse other =>
    refine iff_of_false (fun ok => nomatch ok) ?_
    rintro ⟨-, rfl, rfl⟩
    exact other column.stored

private theorem columnsOf_eq_ok {fields : List Field} {specs : List ColumnSpec} {rest : List ColumnData}
    {columns : List Column}
    (stands : List.Forall₂ (fun field spec => ColumnSpec.ofField field = .ok spec) fields specs)
    (count : rest.length = fields.length)
    (made : (columnsOf fields specs rest).result = .ok columns) :
    List.Forall₂ Column.Suits specs columns ∧ columns.map (·.data) = rest := by
  induction stands generalizing rest columns with
  | nil =>
    obtain rfl := List.length_eq_zero_iff.mp count
    cases made
    exact ⟨.nil, rfl⟩
  | cons own _ ih =>
    obtain ⟨data, rest, rfl⟩ := List.exists_cons_of_length_eq_add_one count
    obtain ⟨column, first, made⟩ := Traced.bind_result_eq_ok.mp made
    obtain ⟨columns, later, same⟩ := Traced.bind_result_eq_ok.mp made
    obtain rfl := Except.ok.inj same
    rw [columnOf_result, mapError_eq_ok, ofData_eq_ok] at first
    obtain ⟨suits, others⟩ := ih (Nat.succ.inj count) later
    have name := (ColumnSpec.ofField_eq_ok.mp own).1
    exact ⟨.cons ⟨first.1.trans name, first.2.1⟩ suits, congrArg₂ _ first.2.2 others⟩

/-- How what is read of a file comes about: of its first batch, which is decoded with the storages of
its fields. -/
structure ReadOff (budget : Flatbuffer.Budget) (source : Source) (reader : Ipc.FileReader)
    (storages : List (StorageType × Bool)) (first : Ipc.RecordBatch) (found : Contents) : Prop where
  opened : Ipc.FileReader.openSource budget source = .ok reader
  stands : reader.schema.fields.mapM ColumnSpec.ofField = .ok found.schema.columns
  stored : reader.schema.fields.mapM storageOf = .ok storages
  decoded : reader.firstBatch? storages = .ok (some first)
  rows : found.rows = first.rows
  made : (columnsOf reader.schema.fields found.schema.columns first.columns).result =
    .ok found.columns
  encoded : DictionaryProvider.build found.columns reader.schema.fields = .ok found.dictionaries

theorem exists_readOff {budget : Flatbuffer.Budget} {source : Source} {found : Contents}
    (read : (contents budget source).result = .ok found) :
    ∃ reader storages first, ReadOff budget source reader storages first found := by
  obtain ⟨reader, opened, read⟩ := Traced.bind_result_eq_ok.mp read
  obtain ⟨schema, stands, read⟩ := Traced.bind_result_eq_ok.mp read
  obtain ⟨_, -, read⟩ := Traced.bind_result_eq_ok.mp read
  obtain ⟨storages, stored, read⟩ := Traced.bind_result_eq_ok.mp read
  obtain ⟨batch?, decoded, read⟩ := Traced.bind_result_eq_ok.mp read
  cases batch? with
  | none => cases read
  | some first =>
    obtain ⟨columns, made, read⟩ := Traced.bind_result_eq_ok.mp read
    obtain ⟨dictionaries, encoded, same⟩ := Traced.bind_result_eq_ok.mp read
    obtain rfl := Except.ok.inj same
    rw [Reading.ofExcept_eq_ok] at stands stored
    rw [Reading.ofDecoded_eq_ok] at opened decoded
    rw [mapError_eq_ok, DictionaryProvider.tracedBuild_result, mapError_eq_ok] at encoded
    obtain ⟨specs, each, same⟩ := bind_eq_ok.mp stands
    obtain rfl := Except.ok.inj same
    exact ⟨reader, storages, first, opened, each, stored, decoded, rfl, made, encoded⟩

namespace ReadOff

variable {budget : Flatbuffer.Budget} {source : Source} {reader : Ipc.FileReader}
  {storages : List (StorageType × Bool)} {first : Ipc.RecordBatch} {found : Contents}
  (off : ReadOff budget source reader storages first found)

include off

theorem length_first : first.columns.length = reader.schema.fields.length := by
  have sound := (Ipc.firstBatch?_accepted off.decoded).sound
  rw [← sound.length_eq, List.length_map, (mapM_eq_ok.mp off.stored).length_eq]

theorem suits : List.Forall₂ Column.Suits found.schema.columns found.columns :=
  (columnsOf_eq_ok (mapM_eq_ok.mp off.stands) off.length_first off.made).1

theorem data_columns : found.columns.map (·.data) = first.columns :=
  (columnsOf_eq_ok (mapM_eq_ok.mp off.stands) off.length_first off.made).2

end ReadOff

/-- What is read of a file is a table, and a file can hold its texts and byte strings again. -/
theorem table_of_contents {budget : Flatbuffer.Budget} {source : Source} {found : Contents}
    (read : (contents budget source).result = .ok found) :
    IsTable found.schema found.rows found.columns found.dictionaries ∧
      ∀ column ∈ found.columns, column.data.parts.flatten.length < 2 ^ 31 := by
  obtain ⟨reader, storages, first, off⟩ := exists_readOff read
  obtain ⟨sound, lengths⟩ := Ipc.firstBatch?_accepted off.decoded
  have member (column : Column) (inside : column ∈ found.columns) : column.data ∈ first.columns :=
    off.data_columns ▸ List.mem_map_of_mem inside
  refine ⟨⟨off.suits, fun column inside => ?_, _, off.stands, off.encoded⟩, fun column inside => ?_⟩
  · exact (lengths _ (member column inside)).trans off.rows.symm
  · obtain ⟨index, at', own⟩ := List.getElem_of_mem (member column inside)
    have same := (List.forall₂_iff_get.mp sound).2 index (sound.length_eq ▸ at') at'
    rw [← own]
    exact same.parts

theorem contents_of_unopened {budget : Flatbuffer.Budget} {source : Source} {fault : Ipc.Fault}
    (failed : Ipc.FileReader.openSource budget source = .error fault) :
    (contents budget source).result = .error (.ofFault fault) := by
  apply Traced.bind_result_eq_error.mpr
  left
  show (Ipc.FileReader.openSource budget source).mapError ReadFailure.ofFault = _
  rw [failed]
  rfl

section Place

variable [Footprint Column] {budget : Flatbuffer.Budget} {source : Source} {arena : ColumnArena}
  {found : Contents}

theorem readWithin_of_failed {failure : ReadFailure}
    (failed : (contents budget source).result = .error failure) :
    (readWithin budget source arena).result = .error failure ∧
      (readWithin budget source arena).arena = arena :=
  @Operation.bind_error _ _ _ (liftM (contents budget source)) _ _ _ failed

theorem readWithin_of_full (read : (contents budget source).result = .ok found)
    (full : arena.room < Arena.totalFootprint found.columns) :
    (readWithin budget source arena).result = .error (.failed (.allocation (.capacityExceeded
        arena.id (Arena.totalFootprint found.columns) arena.reserved arena.capacity))) ∧
      (readWithin budget source arena).arena = arena := by
  have first : ((liftM (contents budget source) : Operation ReadFailure Contents) arena).result =
      .ok found := read
  have stored := Operation.storeAll_of_lt full
  have refused : ((Operation.storeAll found.columns).mapError ReadFailure.failed arena).result =
      .error (.failed (.allocation (.capacityExceeded arena.id
        (Arena.totalFootprint found.columns) arena.reserved arena.capacity))) := by
    rw [Operation.mapError, stored]
    rfl
  have left : ((Operation.storeAll found.columns).mapError ReadFailure.failed arena).arena =
      arena := by
    rw [Operation.mapError, stored]
  rw [readWithin, (Operation.bind_ok first).1, (Operation.bind_ok first).2,
    Operation.ofTraced_arena, (Operation.bind_error refused).1, (Operation.bind_error refused).2,
    left]
  exact ⟨rfl, rfl⟩

/-- With room the columns of the table are placed in the arena. -/
theorem readWithin_of_contents (read : (contents budget source).result = .ok found)
    (room : Arena.totalFootprint found.columns ≤ arena.room) :
    (readWithin budget source arena).result =
        .ok ⟨arena.id, found.schema, arena.nextHandles found.columns.length, found.rows,
          found.dictionaries⟩ ∧
      (readWithin budget source arena).arena =
        arena.extend (Arena.totalFootprint found.columns) found.columns := by
  have stored := Operation.storeAll_of_room room
  have placed : ((Operation.storeAll found.columns).mapError ReadFailure.failed arena).result =
      .ok (arena.nextHandles found.columns.length) := by
    rw [Operation.mapError, stored]
    rfl
  have left : ((Operation.storeAll found.columns).mapError ReadFailure.failed arena).arena =
      arena.extend (Arena.totalFootprint found.columns) found.columns := by
    rw [Operation.mapError, stored]
  have first : ((liftM (contents budget source) : Operation ReadFailure Contents) arena).result =
      .ok found := read
  rw [readWithin, (Operation.bind_ok first).1, (Operation.bind_ok first).2,
    Operation.ofTraced_arena, (Operation.bind_ok placed).1, (Operation.bind_ok placed).2, left]
  exact ⟨rfl, rfl⟩

/-- Whether an attempt to read was not refused for lack of room. -/
def Roomy (outcome : Outcome ReadFailure ColumnBatch) : Prop :=
  ∀ cause, outcome.result ≠ .error (.failed (.allocation cause))

theorem Roomy.room (roomy : Roomy (readWithin budget source arena))
    (read : (contents budget source).result = .ok found) :
    Arena.totalFootprint found.columns ≤ arena.room := by
  by_contra full
  exact roomy _ (readWithin_of_full read (UInt64.not_le.mp full)).1

/-- A read succeeds exactly with contents and room for their columns. -/
theorem readWithin_eq_ok {batch : ColumnBatch} :
    (readWithin budget source arena).result = .ok batch ↔
      ∃ found, (contents budget source).result = .ok found ∧
        Arena.totalFootprint found.columns ≤ arena.room ∧
        batch = ⟨arena.id, found.schema, arena.nextHandles found.columns.length, found.rows,
          found.dictionaries⟩ := by
  constructor
  · intro ok
    cases read : (contents budget source).result with
    | error failure => cases (readWithin_of_failed read).1.symm.trans ok
    | ok found =>
      by_cases full : arena.room < Arena.totalFootprint found.columns
      · cases (readWithin_of_full read full).1.symm.trans ok
      · have room := UInt64.not_lt.mp full
        exact ⟨found, rfl, room, Except.ok.inj (ok.symm.trans (readWithin_of_contents read room).1)⟩
  · rintro ⟨found, read, room, rfl⟩
    exact (readWithin_of_contents read room).1

/-- A file that has been read is found in the arena, its columns after the old items. -/
theorem resolves_of_readWithin {batch : ColumnBatch}
    (ok : (readWithin budget source arena).result = .ok batch) :
    ∃ found, (contents budget source).result = .ok found ∧
      ColumnBatch.Resolves batch (readWithin budget source arena).arena found.columns ∧
      (readWithin budget source arena).arena =
        arena.extend (Arena.totalFootprint found.columns) found.columns := by
  obtain ⟨found, read, room, rfl⟩ := readWithin_eq_ok.mp ok
  have left := (readWithin_of_contents read room).2
  refine ⟨found, read, ⟨?_, (table_of_contents read).1⟩, left⟩
  rw [left]
  exact Arena.mapM_get_extend arena (Arena.totalFootprint found.columns) found.columns

end Place

end TableFile

end Columnar
