import Columnar.Converter
import Columnar.Proofs.TableFile.Encodings

/-!
Converters. A converter that places a row batch in an arena stores its columns before it looks at their
dictionary ids, and one that writes it looks at the ids before the file is out and stores last. Both take
the same row batches, and refuse the others with the same error (`rowsToColumns_accords_writeBytes`),
whatever a column counts for in an arena.
-/
namespace Columnar

namespace TableFile

section Plan

variable [Footprint Column] {arena : ColumnArena} {batch : RowBatch} {options : WriteOptions}
  (aligned : options.alignment ∈ WriteOptions.alignments)

include aligned

private theorem plan_of_lt (bounded : Arena.footprints batch.columns < 2 ^ 64)
    (full : arena.room < batch.footprint) :
    (plan arena batch options).result = .error (.allocation (.capacityExceeded arena.id batch.footprint
      arena.reserved arena.capacity)) := by
  unfold RowBatch.footprint at full ⊢
  rw [plan_result, check_eq_ok.mpr aligned, batch.columnsOfRows_eq, ok_bind, ok_bind,
    Arena.plainFootprint_eq bounded, Arena.ensureRoom_of_lt full]
  rfl

private theorem plan_of_clash {cause : Malformation} (room : batch.footprint ≤ arena.room)
    (clash : DictionaryProvider.build batch.columns batch.schema.fields = .error cause) :
    (plan arena batch options).result = .error (.malformedInput cause) := by
  rw [← DictionaryProvider.build_congr (declared_plainFields batch.schema options.typeHints)] at clash
  have room := Arena.ensureRoom_eq_ok.mpr
    (UInt64.le_trans (Arena.plainFootprint_le batch.columns) room)
  rw [plan_result, check_eq_ok.mpr aligned, batch.columnsOfRows_eq, ok_bind, ok_bind, room]
  dsimp only [Except.mapError]
  rw [ok_bind, clash]
  rfl

end Plan

end TableFile

namespace Converter

open ColumnBatch (clashing)
open TableFile (twins)

section Footprints

variable [Footprint Column] {converter : Converter} {id : Nat} {batch : RowBatch}

private theorem rowsToColumns_of_ok {columns : ColumnBatch}
    (placed : (ColumnBatch.ofRows batch (converter.newArena id)).result = .ok columns) :
    (converter.rowsToColumns id batch).result = .ok columns :=
  mapError_eq_ok.mpr placed

private theorem rowsToColumns_of_error {e : ConversionError}
    (refused : (ColumnBatch.ofRows batch (converter.newArena id)).result = .error e) :
    (converter.rowsToColumns id batch).result = .error ⟨.converting, e⟩ := by
  unfold rowsToColumns Operation.mapError
  dsimp only
  rw [refused]
  rfl

private theorem writeBytes_of_error {e : ConversionError}
    (refused : (TableFile.plan (converter.newArena id) batch converter.config.writeOptions).result =
      .error e) :
    converter.writeBytes id batch = .error ⟨.writing batch.numRows, e⟩ := by
  unfold writeBytes write
  rw [TableFile.write_of_unsettled refused]
  rfl

private theorem writeBytes_of_settled {settled : TableFile.Plan}
    (ready : TableFile.Settled (converter.newArena id) batch converter.config.writeOptions settled)
    (room : batch.footprint ≤ (converter.newArena id).room) :
    converter.writeBytes id batch = .ok settled.contents.bytes := by
  have result := ready.writeBytes_result room
  have sink := ready.writeBytes_sink
  unfold TableFile.writeBytes at result sink
  unfold writeBytes write
  dsimp only
  rw [result, sink]
  rfl

section Outcomes

variable (converter : Converter) (batch : RowBatch) (id : Nat)

omit [Footprint Column] in
private theorem room_newArena : (converter.newArena id).room = converter.config.arenaCapacity :=
  Arena.room_new id converter.config.arenaCapacity

private theorem outcomes_of_full (id' : Nat) (bounded : Arena.footprints batch.columns < 2 ^ 64)
    (full : converter.config.arenaCapacity < batch.footprint) :
    (converter.rowsToColumns id batch).result = .error ⟨.converting, .allocation
      (.capacityExceeded id batch.footprint 0 converter.config.arenaCapacity)⟩ ∧
    converter.writeBytes id' batch = .error ⟨.writing batch.numRows, .allocation
      (.capacityExceeded id' batch.footprint 0 converter.config.arenaCapacity)⟩ := by
  constructor
  · apply rowsToColumns_of_error
    apply (ColumnBatch.ofRows_of_lt _).1
    rwa [room_newArena]
  · apply writeBytes_of_error
    apply TableFile.plan_of_lt converter.aligned bounded
    rwa [room_newArena]

private theorem outcomes_of_clash {cause : Malformation} (id' : Nat)
    (fits : batch.footprint ≤ converter.config.arenaCapacity)
    (clash : DictionaryProvider.build batch.columns batch.schema.fields = .error cause) :
    (converter.rowsToColumns id batch).result = .error ⟨.converting, .malformedInput cause⟩ ∧
    converter.writeBytes id' batch = .error ⟨.writing batch.numRows, .malformedInput cause⟩ := by
  constructor
  · apply rowsToColumns_of_error
    rw [(ColumnBatch.ofRows_of_le (by rwa [room_newArena])).1, clash]
    rfl
  · apply writeBytes_of_error
    apply TableFile.plan_of_clash converter.aligned _ clash
    rwa [room_newArena]

private theorem outcomes_of_built {dictionaries : DictionaryProvider} (id' : Nat)
    (fits : batch.footprint ≤ converter.config.arenaCapacity)
    (built : DictionaryProvider.build batch.columns batch.schema.fields = .ok dictionaries) :
    (∃ columns, (converter.rowsToColumns id batch).result = .ok columns) ∧
    ∃ file, converter.writeBytes id' batch = .ok file := by
  constructor
  · have placed := (ColumnBatch.ofRows_of_le
      (show batch.footprint ≤ (converter.newArena id).room by rwa [room_newArena])).1
    rw [built] at placed
    exact ⟨_, rowsToColumns_of_ok placed⟩
  · rw [← DictionaryProvider.build_congr (TableFile.declared_plainFields batch.schema
      converter.config.writeOptions.typeHints)] at built
    have room : batch.footprint ≤ (converter.newArena id').room := by rwa [room_newArena]
    obtain ⟨settled, ready, -⟩ := TableFile.exists_settled_of_built converter.aligned room built
    exact ⟨_, writeBytes_of_settled ready room⟩

end Outcomes

/-- Placing a row batch and writing it go well together, and fail with the same error: without room for
the columns there is no other, and with room it is that two columns declare one dictionary id. -/
theorem rowsToColumns_accords_writeBytes (converter : Converter) (batch : RowBatch) (id id' : Nat)
    (few : batch.schema.width < 2 ^ 64) (bounded : Arena.footprints batch.columns < 2 ^ 64) :
    let placed := (converter.rowsToColumns id batch).result
    let written := converter.writeBytes id' batch
    let capacity := converter.config.arenaCapacity
    ((∃ columns, placed = .ok columns) ↔ ∃ file, written = .ok file) ∧
    (capacity.toNat < Arena.footprints batch.columns →
      placed = .error ⟨.converting,
        .allocation (.capacityExceeded id batch.footprint 0 capacity)⟩ ∧
      written = .error ⟨.writing batch.numRows,
        .allocation (.capacityExceeded id' batch.footprint 0 capacity)⟩) ∧
    (Arena.footprints batch.columns ≤ capacity.toNat → ¬batch.schema.declaredIds.Nodup →
      ∃ clash first second,
        placed = .error ⟨.converting, .malformedInput (.dictionaryClash clash first second)⟩ ∧
        written = .error ⟨.writing batch.numRows,
          .malformedInput (.dictionaryClash clash first second)⟩) ∧
    (Arena.footprints batch.columns ≤ capacity.toNat → batch.schema.declaredIds.Nodup →
      (∃ columns, placed = .ok columns) ∧ ∃ file, written = .ok file) := by
  intro placed written capacity
  have footprint : batch.footprint.toNat = Arena.footprints batch.columns := by
    unfold RowBatch.footprint
    rw [Arena.toNat_totalFootprint]
    omega
  have builds := DictionaryProvider.build_of_stands batch.schema.stands_fields batch.length_columns
  rw [← footprint, ← UInt64.lt_iff_toNat_lt, ← UInt64.le_iff_toNat_le]
  have full (above : capacity < batch.footprint) :=
    outcomes_of_full converter batch id id' bounded above
  have clashing (fits : batch.footprint ≤ capacity) (twice : ¬batch.schema.declaredIds.Nodup) :
      ∃ clash first second,
        placed = .error ⟨.converting, .malformedInput (.dictionaryClash clash first second)⟩ ∧
        written = .error ⟨.writing batch.numRows,
          .malformedInput (.dictionaryClash clash first second)⟩ := by
    obtain ⟨clash, first, second, failed⟩ := builds.2 twice
    exact ⟨clash, first, second, outcomes_of_clash converter batch id id' fits failed⟩
  have fitting (fits : batch.footprint ≤ capacity) (distinct : batch.schema.declaredIds.Nodup) :
      (∃ columns, placed = .ok columns) ∧ ∃ file, written = .ok file := by
    obtain ⟨dictionaries, built⟩ := builds.1 distinct few
    exact outcomes_of_built converter batch id id' fits built
  refine ⟨?_, full, clashing, fitting⟩
  by_cases fits : batch.footprint ≤ capacity
  · by_cases distinct : batch.schema.declaredIds.Nodup
    · have both := fitting fits distinct
      exact iff_of_true both.1 both.2
    · obtain ⟨_, _, _, placing, writing⟩ := clashing fits distinct
      rw [placing, writing]
      simp
  · obtain ⟨placing, writing⟩ := full (UInt64.not_le.mp fits)
    change placed = _ at placing
    change written = _ at writing
    rw [placing, writing]
    simp

end Footprints

open NominalFootprint

def ample : Converter :=
  ⟨⟨1024, 64, true⟩, by decide, by decide⟩

def cramped : Converter :=
  ⟨⟨1, 8, false⟩, by decide, by decide⟩

theorem rowsToColumns_accords_writeBytes_clashing :
    clashing.schema.width < 2 ^ 64 ∧ Arena.footprints clashing.columns < 2 ^ 64 ∧
    (∃ e clash first second, e = .malformedInput (.dictionaryClash clash first second) ∧
      (ample.rowsToColumns 0 clashing).result = .error ⟨.converting, e⟩ ∧
      ample.writeBytes 1 clashing = .error ⟨.writing 1, e⟩) ∧
    (cramped.rowsToColumns 0 clashing).result = .error ⟨.converting,
      .allocation (.capacityExceeded 0 clashing.footprint 0 1)⟩ ∧
    cramped.writeBytes 1 clashing = .error ⟨.writing 1,
      .allocation (.capacityExceeded 1 clashing.footprint 0 1)⟩ ∧
    (∃ columns, (ample.rowsToColumns 0 twins).result = .ok columns) ∧
    ∃ file, ample.writeBytes 1 twins = .ok file := by
  have few : clashing.schema.width < 2 ^ 64 := by decide
  have bounded : Arena.footprints clashing.columns < 2 ^ 64 := by decide +kernel
  obtain ⟨-, -, clashes, -⟩ := rowsToColumns_accords_writeBytes ample clashing 0 1 few bounded
  obtain ⟨clash, first, second, placing, writing⟩ := clashes (by decide +kernel) (by decide)
  obtain ⟨-, overflows, -⟩ := rowsToColumns_accords_writeBytes cramped clashing 0 1 few bounded
  obtain ⟨full, full'⟩ := overflows (by decide +kernel)
  obtain ⟨-, -, -, fits⟩ := rowsToColumns_accords_writeBytes ample twins 0 1 (by decide)
    (by decide +kernel)
  exact ⟨few, bounded, ⟨_, clash, first, second, rfl, placing, writing⟩, full, full',
    fits (by decide +kernel) (by decide)⟩

end Converter

end Columnar
