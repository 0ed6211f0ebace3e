import Columnar.Proofs.Arena.Room
import Columnar.Proofs.Dictionary.Provider
import Columnar.Proofs.Transpose

/-!
Row batches placed in an arena. A row batch always has columns (`RowBatch.columns`), so placing it can
fail for lack of room or because two columns declare one dictionary id, and for no other reason. The
ids are looked at when the columns are placed already, and such a failure leaves them behind
(`arena_of_failed_ofRows`).
-/
namespace Columnar

namespace TableSchema

def declaredIds (schema : TableSchema) : List Int64 :=
  schema.columns.filterMap fun spec => spec.dictionary.map (·.id)

@[simp] theorem length_fields (schema : TableSchema) : schema.fields.length = schema.width := by
  simp [fields, width]

theorem stands_fields (schema : TableSchema) :
    schema.fields.mapM ColumnSpec.ofField = .ok schema.columns := by
  rw [mapM_eq_ok, fields, List.forall₂_map_left_iff, List.forall₂_same]
  exact fun spec _ => spec.ofField_toField

end TableSchema

namespace DictionaryProvider

/-- Whether fields declare the encodings of the columns of a table. -/
def Declare (fields : List Field) (specs : List ColumnSpec) : Prop :=
  List.Forall₂ (fun field spec => DictionaryEncoding.declared field = .ok spec.dictionary) fields
    specs

private theorem declare_of_stands {fields : List Field} {specs : List ColumnSpec}
    (stands : fields.mapM ColumnSpec.ofField = .ok specs) : Declare fields specs :=
  (mapM_eq_ok.mp stands).imp fun _ _ own => (ColumnSpec.ofField_eq_ok.mp own).2.2

section Declare

variable {fields : List Field} {specs : List ColumnSpec} (declare : Declare fields specs)

include declare

private theorem readable_of_declare :
    ∀ field ∈ fields, ∃ encoding?, DictionaryEncoding.declared field = .ok encoding? := by
  induction declare with
  | nil => simp
  | cons own rest ih => exact List.forall_mem_cons.mpr ⟨⟨_, own⟩, ih⟩

private theorem declaredIds_of_declare : declaredIds fields = TableSchema.declaredIds ⟨specs⟩ := by
  rw [declaredIds, TableSchema.declaredIds]
  induction declare with
  | nil => rfl
  | @cons field spec _ _ own rest ih =>
    have first : declaredId? field = spec.dictionary.map (·.id) := by
      rw [declaredId?, own]
      cases spec.dictionary <;> rfl
    rw [List.filterMap_cons, List.filterMap_cons, first, ih]

end Declare

theorem build_eq_of_stands {columns : List Column} {fields fields' : List Field}
    {specs : List ColumnSpec} (stands : fields.mapM ColumnSpec.ofField = .ok specs)
    (stands' : fields'.mapM ColumnSpec.ofField = .ok specs) :
    build columns fields = build columns fields' := by
  have declares {fields : List Field} (declare : Declare fields specs) :
      fields.map DictionaryEncoding.declared = specs.map fun spec => .ok spec.dictionary := by
    rw [← List.forall₂_eq_eq_eq, List.forall₂_map_left_iff, List.forall₂_map_right_iff]
    exact declare
  exact build_congr ((declares (declare_of_stands stands)).trans
    (declares (declare_of_stands stands')).symm)

/-- Columns with fields that stand for the columns of a schema have encodings unless two of them
declare one id. -/
theorem build_of_stands {columns : List Column} {fields : List Field} {schema : TableSchema}
    (stands : fields.mapM ColumnSpec.ofField = .ok schema.columns)
    (width : columns.length = schema.width) :
    (schema.declaredIds.Nodup → schema.width < 2 ^ 64 →
      ∃ provider, build columns fields = .ok provider) ∧
    (¬schema.declaredIds.Nodup →
      ∃ id first second, build columns fields = .error (.dictionaryClash id first second)) := by
  have declare := declare_of_stands stands
  have width' : fields.length = schema.width := declare.length_eq
  have ids : declaredIds fields = schema.declaredIds := declaredIds_of_declare declare
  have readable := readable_of_declare declare
  have same := width.trans width'.symm
  exact ⟨fun distinct few => exists_build same readable (by rwa [ids]) (by rwa [width']),
    fun clash => build_of_clash same readable (by rwa [ids])⟩

end DictionaryProvider

namespace RowBatch

def columns (batch : RowBatch) : List Column :=
  match Transpose.columnsOfRows batch.schema batch.rows with
  | .ok columns => columns
  | .error _ => []

def footprint [Footprint Column] (batch : RowBatch) : UInt64 :=
  Arena.totalFootprint batch.columns

theorem columnsOfRows_eq (batch : RowBatch) :
    Transpose.columnsOfRows batch.schema batch.rows = .ok batch.columns := by
  obtain ⟨columns, built⟩ := Transpose.exists_columns batch
  rw [RowBatch.columns, built]

@[simp] theorem length_columns (batch : RowBatch) : batch.columns.length = batch.schema.width :=
  (Transpose.columnsOfRows_eq_ok.mp batch.columnsOfRows_eq).2.1

end RowBatch

namespace Operation

private theorem placeRows_of_built [Footprint Column] {schema : TableSchema} {rows : List Row}
    {columns : List Column} (built : Transpose.columnsOfRows schema rows = .ok columns)
    (arena : ColumnArena) :
    (placeRows schema rows arena).result = (storeAll columns arena).result ∧
      (placeRows schema rows arena).arena = (storeAll columns arena).arena := by
  have done : (Transpose.tracedColumns schema rows).result = .ok columns := by
    rw [Transpose.tracedColumns_result, built]
  exact @bind_ok _ _ _ (liftM (Transpose.tracedColumns schema rows)) _ _ _ done

theorem storeAll_of_room [Footprint Column] {arena : ColumnArena} {columns : List Column}
    (room : Arena.totalFootprint columns ≤ arena.room) :
    storeAll columns arena = ⟨arena.extend (Arena.totalFootprint columns) columns, [],
      .ok (arena.nextHandles columns.length)⟩ := by
  rw [storeAll, Arena.insertAll_of_room (Arena.ensureRoom_eq_ok.mpr room)]
  rfl

theorem placeRows_of_room [Footprint Column] {schema : TableSchema} {rows : List Row}
    {columns : List Column} {arena : ColumnArena}
    (built : Transpose.columnsOfRows schema rows = .ok columns)
    (room : Arena.totalFootprint columns ≤ arena.room) :
    (placeRows schema rows arena).result = .ok (arena.nextHandles columns.length) ∧
      (placeRows schema rows arena).arena =
        arena.extend (Arena.totalFootprint columns) columns := by
  rw [(placeRows_of_built built arena).1, (placeRows_of_built built arena).2, storeAll_of_room room]
  exact ⟨rfl, rfl⟩

theorem storeAll_of_lt [Footprint Column] {arena : ColumnArena} {columns : List Column}
    (full : arena.room < Arena.totalFootprint columns) :
    storeAll columns arena = ⟨arena, [], .error (.allocation (.capacityExceeded arena.id
      (Arena.totalFootprint columns) arena.reserved arena.capacity))⟩ := by
  rw [storeAll, Arena.insertAll_of_refusal (Arena.ensureRoom_of_lt full)]
  rfl

end Operation

namespace ColumnBatch

theorem ofRows_of_lt [Footprint Column] {arena : ColumnArena} {batch : RowBatch}
    (full : arena.room < batch.footprint) :
    (ofRows batch arena).result = .error (.allocation (.capacityExceeded arena.id batch.footprint
        arena.reserved arena.capacity)) ∧
      (ofRows batch arena).arena = arena := by
  obtain ⟨result, left⟩ := Operation.placeRows_of_built batch.columnsOfRows_eq arena
  rw [Operation.storeAll_of_lt full] at result left
  obtain ⟨failed, kept⟩ := Operation.bind_error result
  exact ⟨failed, kept.trans left⟩

private theorem fetchAll_nextHandles (arena : ColumnArena) (requested : UInt64) (columns : List Column) :
    Operation.fetchAll (arena.nextHandles columns.length) (arena.extend requested columns) =
      ⟨arena.extend requested columns, [], .ok columns⟩ := by
  rw [Operation.fetchAll, Arena.mapM_get_extend]
  rfl

/-- With room, the dictionary ids alone decide what placing a row batch comes to; the columns are in
the arena either way. -/
theorem ofRows_of_le [Footprint Column] {arena : ColumnArena} {batch : RowBatch}
    (room : batch.footprint ≤ arena.room) :
    (ofRows batch arena).result =
        (do
          let dictionaries ← (DictionaryProvider.build batch.columns batch.schema.fields).mapError
            ConversionError.malformedInput
          .ok ⟨arena.id, batch.schema, arena.nextHandles batch.schema.width, batch.numRows,
            dictionaries⟩) ∧
      (ofRows batch arena).arena = arena.extend batch.footprint batch.columns := by
  obtain ⟨result, left⟩ := Operation.placeRows_of_room batch.columnsOfRows_eq room
  have fetched := fetchAll_nextHandles arena batch.footprint batch.columns
  rw [RowBatch.footprint] at fetched ⊢
  rw [ofRows, (Operation.bind_ok result).1, (Operation.bind_ok result).2, left,
    (Operation.bind_ok (congrArg Outcome.result fetched)).1,
    (Operation.bind_ok (congrArg Outcome.result fetched)).2, fetched, batch.length_columns]
  dsimp only
  have encoded := DictionaryProvider.tracedBuild_result batch.columns batch.schema.fields
  cases built : DictionaryProvider.build batch.columns batch.schema.fields with
  | error cause =>
    rw [built] at encoded
    exact @Operation.bind_error _ _ _
      (liftM (DictionaryProvider.tracedBuild batch.columns batch.schema.fields)) _ _ _ encoded
  | ok dictionaries =>
    rw [built] at encoded
    exact @Operation.bind_ok _ _ _
      (liftM (DictionaryProvider.tracedBuild batch.columns batch.schema.fields)) _ _ _ encoded

/-- Placing a row batch, by what stands in its way. Without room for the columns it fails and leaves
the arena as it was. With room it fails exactly if two columns declare one dictionary id, and then the
arena holds the columns nevertheless. -/
theorem arena_of_failed_ofRows [Footprint Column] (batch : RowBatch) (arena : ColumnArena) :
    (∀ e, (ofRows batch arena).result = .error e →
      ((ofRows batch arena).arena = arena ↔ arena.room < batch.footprint)) ∧
    (arena.room < batch.footprint →
      ∃ e, (ofRows batch arena).result = .error (.allocation e)) ∧
    (batch.footprint ≤ arena.room → ¬batch.schema.declaredIds.Nodup →
      (∃ id first second,
        (ofRows batch arena).result = .error (.malformedInput (.dictionaryClash id first second))) ∧
      (ofRows batch arena).arena = arena.extend batch.footprint batch.columns) ∧
    (batch.footprint ≤ arena.room → batch.schema.declaredIds.Nodup →
      batch.schema.width < 2 ^ 64 → ∃ placed, (ofRows batch arena).result = .ok placed) := by
  have same : batch.columns.length = batch.schema.fields.length := by simp
  refine ⟨fun e failed => ⟨fun kept => ?_, fun full => (ofRows_of_lt full).2⟩,
    fun full => ⟨_, (ofRows_of_lt full).1⟩, fun room clash => ⟨?_, (ofRows_of_le room).2⟩,
    fun room distinct few => ?_⟩
  · by_contra within
    obtain ⟨result, left⟩ := ofRows_of_le (UInt64.not_lt.mp within)
    -- Nothing was added, so there are no columns, and without columns nothing can clash.
    have none : batch.columns = [] := by
      have items := congrArg Arena.items (left.symm.trans kept)
      simpa [Arena.extend] using items
    have fields : batch.schema.fields = [] := by
      rw [none] at same
      exact List.length_eq_zero_iff.mp same.symm
    rw [none, fields] at result
    cases failed.symm.trans result
  · obtain ⟨id, first, second, failed⟩ :=
      (DictionaryProvider.build_of_stands batch.schema.stands_fields batch.length_columns).2 clash
    exact ⟨id, first, second, by rw [(ofRows_of_le room).1, failed]; rfl⟩
  · obtain ⟨dictionaries, built⟩ := (DictionaryProvider.build_of_stands
      batch.schema.stands_fields batch.length_columns).1 distinct few
    exact ⟨_, by rw [(ofRows_of_le room).1, built]; rfl⟩

def clashing : RowBatch where
  schema := ⟨[⟨"x", .int64, some ⟨5, false⟩⟩, ⟨"y", .int64, some ⟨5, false⟩⟩]⟩
  rows := [[.int64 1, .int64 2]]
  checked := rfl

open NominalFootprint in
/-- The failure that leaves columns behind. -/
theorem ofRows_clashing :
    (∃ e, (ofRows clashing (Arena.new 0 Arena.unlimited)).result = .error e) ∧
      (ofRows clashing (Arena.new 0 Arena.unlimited)).arena.items = clashing.columns ∧
      clashing.columns ≠ [] := by
  have room : clashing.footprint ≤ (Arena.new 0 Arena.unlimited : ColumnArena).room :=
    Arena.le_room_unlimited 0 clashing.footprint
  obtain ⟨result, left⟩ := ofRows_of_le room
  obtain ⟨id, first, second, failed⟩ := (DictionaryProvider.build_of_stands
    clashing.schema.stands_fields clashing.length_columns).2 (by decide)
  refine ⟨⟨_, by rw [result, failed]; rfl⟩, by rw [left]; rfl, ?_⟩
  exact List.ne_nil_of_length_eq_add_one clashing.length_columns

end ColumnBatch

end Columnar
