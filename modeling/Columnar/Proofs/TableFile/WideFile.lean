import Columnar.Proofs.Ipc.Size
import Columnar.Proofs.TableFile.Rewriting

/-!
Files that are read and, written again, are read no more. The type hints and encodings of its fields can
make a file of many columns take more tables than the reader's budget has (`exists_refused_of_wide`).
-/
namespace Columnar

open DictionaryEncoding (idKey orderedKey synthesizedKey spelling)
open Ipc (FileContents WrittenField fieldBlock)

private theorem entries_hintedField (spec : ColumnSpec) (entry : DictionaryEntry) :
    (hintedField spec entry).metadata.entries.length ≤ 4 ∧
      ∀ pair ∈ (hintedField spec entry).metadata.entries, Ipc.entryBytes pair ≤ 120 := by
  have short {key value : String} (small : (Text.bytes key).length ≤ 40)
      (small' : (Text.bytes value).length ≤ 80) : Ipc.entryBytes (key, value) ≤ 120 :=
    Nat.add_le_add small small'
  have flag (value : Bool) : (Text.bytes (spelling value)).length ≤ 80 := by cases value <;> decide
  have hint := short (by decide : (Text.bytes TypeHint.key).length ≤ 40)
    (by cases spec.type <;> decide : (Text.bytes spec.type.hint).length ≤ 80)
  have id := short (by decide : (Text.bytes idKey).length ≤ 40)
    (Decimal.length_text_word entry.encoding.id)
  have ordered := short (by decide : (Text.bytes orderedKey).length ≤ 40) (flag entry.encoding.ordered)
  have mark := short (by decide : (Text.bytes synthesizedKey).length ≤ 40) (flag true)
  rw [hintedField, DictionaryEncoding.entries_record]
  cases entry.synthesized <;> simp [hint, id, ordered, mark]

/-- A field with a type hint says little more than the name of its column. -/
private theorem length_hintedField_le (spec : ColumnSpec) (entry : DictionaryEntry) :
    (fieldBlock (hintedField spec entry)).bytes.length ≤ (Text.bytes spec.name).length + 884 := by
  obtain ⟨few, short⟩ := entries_hintedField spec entry
  have field := Ipc.length_fieldBlock_le (hintedField spec entry)
  have each (pair : String × String) (member : pair ∈ (hintedField spec entry).metadata.entries) :
      (Ipc.keyValueBlock pair).bytes.length + 4 ≤ 183 := by
    have own := Ipc.length_keyValueBlock_le pair
    have texts := short pair member
    omega
  have entries := Ipc.sum_map_le each
  have name : (hintedField spec entry).name = spec.name := rfl
  rw [name] at field
  omega

namespace TableFile

def bareColumn : Column :=
  ⟨"", .boolean, .boolean [], rfl⟩

/-- What a file of so many such columns holds whose fields have no metadata. -/
def wideContents (count : Nat) : FileContents :=
  ⟨64, List.replicate count ⟨"", .boolean, ∅⟩, 0, List.replicate count (.boolean [])⟩

def wideSchema (count : Nat) : TableSchema :=
  ⟨List.replicate count ⟨"", .boolean, none⟩⟩

private theorem holds_wideContents (count : Nat) :
    Holds (wideSchema count) (List.replicate count bareColumn) (wideContents count) := by
  refine ⟨?_, by simp [wideContents, bareColumn], ?_, ?_⟩
  · show Written (List.replicate count _) (List.replicate count _) (List.replicate count _)
    induction count with
    | zero => exact .nil
    | succ count ih =>
      simp only [List.replicate_succ]
      exact .cons ⟨rfl, rfl, rfl, rfl⟩ ih
  · intro column member
    obtain rfl := List.eq_of_mem_replicate member
    rfl
  · intro column member
    obtain rfl := List.eq_of_mem_replicate member
    exact Nat.two_pow_pos 31

private theorem body_of_bare {contents : FileContents}
    (bare : ∀ data ∈ contents.columns, data = .boolean []) :
    contents.body = [] := by
  refine List.flatMap_eq_nil_iff.mpr fun buffer member => ?_
  obtain ⟨data, inside, part⟩ := List.mem_flatMap.mp member
  have none : ∀ buffer ∈ ColumnData.buffers (.boolean []), buffer = [] := by decide
  rw [bare data inside] at part
  rw [none buffer part, Bytes.padded, Bytes.gap, List.length_nil, Nat.zero_mod, Nat.sub_zero,
    Nat.mod_self]
  rfl

private theorem short_wideContents {count : Nat} (few : count ≤ 2 ^ 19) :
    (wideContents count).Short := by
  have body : (wideContents count).body = [] :=
    body_of_bare fun data member => List.eq_of_mem_replicate member
  refine ⟨Nat.succ_pos 63, Nat.le_refl 64, Nat.two_pow_pos 63, ?_, ?_, fun field member => ?_, ?_⟩
  · simpa [wideContents] using few
  · simpa [wideContents] using few
  · obtain rfl := List.eq_of_mem_replicate member
    decide
  · rw [body]
    exact Nat.zero_le _

private theorem tableCount_wideContents (count : Nat) :
    Ipc.tableCount (wideContents count).fields = 1 + 2 * count := by
  have field : WrittenField.tableCount ⟨"", .boolean, ∅⟩ = 2 := rfl
  rw [Ipc.tableCount, wideContents, List.map_replicate, List.sum_replicate_nat, field, Nat.mul_comm]

private theorem exists_contents_wide {count : Nat}
    (few : 2 + 2 * count ≤ Flatbuffer.Budget.full.tables) :
    ∃ dictionaries, (contents .full (Source.ofBytes (wideContents count).bytes)).result =
      .ok ⟨wideSchema count, 0, List.replicate count bareColumn, dictionaries⟩ := by
  have limit : Flatbuffer.Budget.full.tables = 1000000 := rfl
  have short := short_wideContents (by omega : count ≤ 2 ^ 19)
  have width : (wideSchema count).width = count := List.length_replicate
  have none : (wideSchema count).declaredIds = [] :=
    List.filterMap_eq_nil_iff.mpr fun spec member => by
      obtain rfl := List.eq_of_mem_replicate member
      rfl
  have covered : (wideContents count).Covered .full := by
    apply short.covered
    rw [tableCount_wideContents]
    omega
  refine contents_of_holds (holds_wideContents count) covered ?_ ?_ ?_
  · rw [none]
    exact .nil
  · rw [width]
    omega
  · rw [width, List.length_replicate]

section Settled

variable [Footprint Column] {batch : RowBatch} {options : WriteOptions} {writer : ColumnArena}
  {settled : Plan} (ready : Settled writer batch options settled) (hints : options.typeHints = true)

include ready hints

private theorem Settled.exists_length_le {field : WrittenField}
    (member : field ∈ settled.contents.fields) :
    ∃ spec ∈ batch.schema.columns,
      (fieldBlock field).bytes.length ≤ (Text.bytes spec.name).length + 884 := by
  obtain ⟨entries, -, -, fields⟩ := ready.hinted_fields hints
  rw [fields] at member
  obtain ⟨index, inside, rfl⟩ := List.getElem_of_mem member
  rw [List.length_zipWith] at inside
  rw [List.getElem_zipWith]
  exact ⟨_, List.getElem_mem (by omega), length_hintedField_le _ _⟩

theorem Settled.le_tables : 2 + 5 * batch.schema.width ≤ settled.dictionaries.tables := by
  obtain ⟨entries, perm, count, -⟩ := ready.hinted_fields hints
  have each (entry : DictionaryEntry) : 5 ≤ entry.tables := by
    rw [DictionaryEntry.tables]
    split <;> decide
  have total : (entries.map DictionaryEntry.tables).length * 5 ≤
      (entries.map DictionaryEntry.tables).sum :=
    List.card_nsmul_le_sum _ 5 (by simpa using fun entry _ => each entry)
  rw [List.length_map] at total
  rw [DictionaryProvider.tables, (perm.map _).sum_nat, ← count]
  omega

private theorem Settled.short_of_wide {count : Nat} (few : count ≤ 2 ^ 19)
    (schema : batch.schema = wideSchema count)
    (columns : settled.columns = List.replicate count bareColumn) (rows : batch.rows = []) :
    settled.contents.Short := by
  have data : settled.contents.columns = List.replicate count (.boolean []) := by
    rw [ready.contents, columns, List.map_replicate]
    rfl
  have body : settled.contents.body = [] :=
    body_of_bare fun data' member => List.eq_of_mem_replicate (data ▸ member)
  have own : settled.contents.alignment = options.alignment := by rw [ready.contents]
  have none : settled.contents.rows = 0 := by
    rw [ready.contents, RowBatch.numRows, rows]
    rfl
  obtain ⟨positive, narrow⟩ := bounds_of_aligned ready.aligned
  obtain ⟨entries, -, -, fields⟩ := ready.hinted_fields hints
  refine ⟨own ▸ positive, own ▸ narrow, ?_, ?_, ?_, fun field member => ?_, ?_⟩
  · rw [none]
    exact Nat.two_pow_pos 63
  · rw [fields, schema, List.length_zipWith, wideSchema, List.length_replicate]
    omega
  · rwa [data, List.length_replicate]
  · obtain ⟨spec, among, length⟩ := ready.exists_length_le hints member
    rw [schema] at among
    obtain rfl := List.eq_of_mem_replicate among
    exact Nat.le_trans length (by decide)
  · rw [body]
    exact Nat.zero_le _

end Settled

/-- The file of so many bare columns is read, and its rows are written again with type hints. What is
written takes more tables than the budget of the reader has. -/
theorem rewrite_of_wide [Footprint Column] {count : Nat} {reader writer again : ColumnArena}
    (few : 2 + 2 * count ≤ Flatbuffer.Budget.full.tables)
    (many : Flatbuffer.Budget.full.tables < 2 + 5 * count)
    (room : Arena.totalFootprint (List.replicate count bareColumn) ≤ reader.room)
    (room' : Arena.totalFootprint (List.replicate count bareColumn) ≤ writer.room) :
    ∃ rows, Restores rows (readBytes (wideContents count).bytes reader) ∧
      let written := writeBytes writer rows .standard
      (∃ handles, written.result = .ok handles) ∧
        (readBytes written.sink again).result =
          .error (.failed (.malformedInput (.format .undecodable))) := by
  obtain ⟨dictionaries, read⟩ := exists_contents_wide few
  have ok := (readWithin_of_contents read room).1
  obtain ⟨found, read', resolves, -⟩ := resolves_of_readWithin ok
  obtain rfl := Except.ok.inj (read.symm.trans read')
  have table := resolves.table
  refine ⟨table.rowBatch, ⟨_, ok, rfl, rfl, resolves.toRowBatch_eq⟩, ?_⟩
  have place : table.rowBatch.footprint ≤ writer.room := by
    rwa [RowBatch.footprint, table.columns_rowBatch]
  obtain ⟨settled, ready, -⟩ : ∃ settled, Settled writer table.rowBatch .standard settled ∧ _ :=
    exists_settled_of_table table rfl (by decide) place
  have tables := ready.le_tables rfl
  have width : table.rowBatch.schema.width = count := List.length_replicate
  have limit : Flatbuffer.Budget.full.tables = 1000000 := rfl
  have short := ready.short_of_wide rfl (by omega) rfl
    (ready.columns_eq.trans table.columns_rowBatch) rfl
  have refused := refused_of_few ready rfl short.fits (by omega : Flatbuffer.Budget.full.tables < _)
  refine ⟨⟨_, ready.writeBytes_result place⟩, ?_⟩
  rw [ready.writeBytes_sink]
  exact (readWithin_of_failed refused).1

/-- What has been written from an arena that has room for the columns only once is refused by it. -/
theorem refused_of_tight [Footprint Column] {batch : RowBatch} {options : WriteOptions}
    {writer : ColumnArena} {settled : Plan} {dictionaries : DictionaryProvider}
    (ready : Settled writer batch options settled) (room : batch.footprint ≤ writer.room)
    (tight : (writer.extend batch.footprint batch.columns).room < batch.footprint)
    (read : (contents .full (Source.ofBytes settled.contents.bytes)).result =
      .ok ⟨batch.schema, batch.numRows, batch.columns, dictionaries⟩) :
    let written := writeBytes writer batch options
    ∃ cause, (readBytes written.sink written.arena).result = .error (.failed (.allocation cause)) := by
  intro written
  rw [ready.writeBytes_sink, ready.writeBytes_arena room]
  exact ⟨_, (readWithin_of_full read tight).1⟩

def sevens : RowBatch where
  schema := ⟨[⟨"x", .int64, none⟩]⟩
  rows := List.replicate 100 [.int64 7]
  checked := rfl

open NominalFootprint

private theorem contents_sevens {writer : ColumnArena} {settled : Plan}
    (ready : Settled writer sevens .standard settled) :
    ∃ dictionaries, (contents .full (Source.ofBytes settled.contents.bytes)).result =
      .ok ⟨sevens.schema, sevens.numRows, sevens.columns, dictionaries⟩ := by
  have texts : ∀ position < sevens.schema.width, sevens.payload position < 2 ^ 31 := by decide +kernel
  -- The plan is the same in any arena with room.
  have ready' : Settled (Arena.new 0 Arena.unlimited) sevens .standard settled :=
    { ready with room := Arena.ensureRoom_eq_ok.mpr (Arena.le_room_unlimited 0 _) }
  have within : settled.contents.Within .full := ready'.within_of_decide (by decide +kernel)
  exact ready.exists_contents_hinted rfl (by decide) (by decide) texts within.toCovered

/-- Two files that are read, and whose rows are then written again, but not read. What is written of the
one, with its 200 000 columns, is too much for the reader; what is written of the other finds no room in
the arena that it was written from. -/
theorem rewrite_refused :
    (∃ rows, Restores rows (readBytes (wideContents 200000).bytes (Arena.new 0 Arena.unlimited)) ∧
      let written := writeBytes (Arena.new 1 Arena.unlimited) rows .standard
      (∃ handles, written.result = .ok handles) ∧
        (readBytes written.sink (Arena.new 2 Arena.unlimited)).result =
          .error (.failed (.malformedInput (.format .undecodable)))) ∧
    (let file := (writeBytes (Arena.new 0 Arena.unlimited) sevens .standard).sink
      let written := writeBytes (Arena.new 2 1700) sevens .standard
      Restores sevens (readBytes file (Arena.new 1 Arena.unlimited)) ∧
        (∃ handles, written.result = .ok handles) ∧
        ∃ cause, (readBytes written.sink written.arena).result =
          .error (.failed (.allocation cause))) := by
  constructor
  · exact rewrite_of_wide (by decide) (by decide) (Arena.le_room_unlimited 0 _)
      (Arena.le_room_unlimited 1 _)
  · have room := @Arena.le_room_unlimited Column 0 sevens.footprint
    have small : sevens.footprint ≤ (Arena.new 2 1700 : ColumnArena).room := by decide +kernel
    have tight : ((Arena.new 2 1700).extend sevens.footprint sevens.columns).room < sevens.footprint := by
      decide +kernel
    obtain ⟨settled, ready⟩ := @exists_settled _ sevens .standard _ rfl (by decide) (by decide) (by decide)
      room
    obtain ⟨dictionaries, read⟩ := contents_sevens ready
    obtain ⟨settled', ready'⟩ := @exists_settled _ sevens .standard _ rfl (by decide) (by decide)
      (by decide) small
    obtain ⟨dictionaries', read'⟩ := contents_sevens ready'
    refine ⟨?_, ⟨_, ready'.writeBytes_result small⟩, refused_of_tight ready' small tight read'⟩
    rw [ready.writeBytes_sink]
    exact restores_of_contents read (Arena.le_room_unlimited 1 sevens.footprint)

end TableFile

end Columnar
