import Columnar.Proofs.Batch.Agreement
import Columnar.Proofs.Matrix
import Columnar.Proofs.Schema.Compatible

/-!
Column batches as matrices. Making a matrix looks at the columns of a batch and
`FileSchema.isMatrixCompatible` at the fields of a schema; of a batch that came from the schema both say
the same (`toMatrix_iff_compatible`).
-/
namespace Columnar

theorem FileSchema.isMatrixCompatible_of_stands {schema : FileSchema} {specs : List ColumnSpec}
    (stands : schema.fields.mapM ColumnSpec.ofField = .ok specs) :
    schema.isMatrixCompatible = true ↔ ∀ spec ∈ specs, spec.type.isNumeric = true :=
  isMatrixCompatible_of_standsFor
    ((mapM_eq_ok.mp stands).imp fun _ _ => Field.ofField_eq_ok_iff.mp)

private theorem Column.numeric_of_suits {specs : List ColumnSpec} {columns : List Column}
    (suits : List.Forall₂ Suits specs columns) :
    (∀ column ∈ columns, column.type.isNumeric = true) ↔
      ∀ spec ∈ specs, spec.type.isNumeric = true := by
  induction suits with
  | nil => simp
  | cons own _ ih => rw [List.forall_mem_cons, List.forall_mem_cons, own.type, ih]

namespace ColumnBatch

/-- The file schemas that column batches come from: that of the rows it was made of, or that of the file
it was read from. The arena is the one that is left. -/
inductive CameFrom : FileSchema → ColumnBatch → ColumnArena → Prop
  | rows [Footprint Column] {rows : RowBatch} {arena : ColumnArena} {batch : ColumnBatch}
    (ok : (ofRows rows arena).result = .ok batch) :
    CameFrom rows.schema.toFile batch (ofRows rows arena).arena
  | file [Footprint Column] {budget : Flatbuffer.Budget} {source : Source} {arena : ColumnArena}
    {batch : ColumnBatch} {reader : Ipc.FileReader}
    (opened : Ipc.FileReader.openSource budget source = .ok reader)
    (ok : (TableFile.readWithin budget source arena).result = .ok batch) :
    CameFrom reader.schema batch (TableFile.readWithin budget source arena).arena

section CameFrom

variable {schema : FileSchema} {batch : ColumnBatch} {arena later : ColumnArena}

theorem CameFrom.made (came : CameFrom schema batch arena) : Made batch arena := by
  cases came with
  | rows ok => exact .ofRows ok
  | file opened ok => exact .read ok

theorem CameFrom.stands (came : CameFrom schema batch arena) :
    schema.fields.mapM ColumnSpec.ofField = .ok batch.schema.columns := by
  cases came with
  | @rows _ rows arena batch ok =>
    have same : batch.schema = rows.schema := by
      by_cases full : arena.room < rows.footprint
      · cases (ofRows_of_lt full).1.symm.trans ok
      · have result := (ofRows_of_le (UInt64.not_lt.mp full)).1
        obtain ⟨dictionaries, -, same⟩ := bind_eq_ok.mp (result.symm.trans ok)
        obtain rfl := Except.ok.inj same
        rfl
    rw [same]
    exact rows.schema.stands_fields
  | file opened ok =>
    obtain ⟨found, read, -, rfl⟩ := TableFile.readWithin_eq_ok.mp ok
    obtain ⟨reader, storages, first, off⟩ := TableFile.exists_readOff read
    obtain rfl := Except.ok.inj (off.opened.symm.trans opened)
    exact off.stands

private theorem Resolves.toMatrix_result {columns : List Column}
    (resolves : Resolves batch arena columns) :
    (batch.toMatrix arena).result = Matrix.ofColumnsWithRows columns batch.rowCount := by
  unfold toMatrix
  rw [Traced.bind_of_ok (resolves.columns_eq), Matrix.tracedWithRows_result]

/-- As long as the arena is not released, a batch can be made a matrix exactly if the schema that it came
from is compatible with that. The matrix has a row for each row of the batch and a column for each of its
columns. -/
theorem toMatrix_iff_compatible (came : CameFrom schema batch arena)
    (kept : Arena.Kept arena later) :
    ((∃ matrix, (batch.toMatrix later).result = .ok matrix) ↔ schema.isMatrixCompatible = true) ∧
      ∀ matrix, (batch.toMatrix later).result = .ok matrix →
        matrix.shape = (batch.rowCount, batch.width) := by
  obtain ⟨columns, resolves⟩ := came.made.resolves
  have resolves := resolves.kept kept
  have numeric : (∀ column ∈ columns, column.type.isNumeric = true) ↔
      schema.isMatrixCompatible = true := by
    rw [FileSchema.isMatrixCompatible_of_stands came.stands]
    exact Column.numeric_of_suits resolves.table.kinds
  rw [resolves.toMatrix_result, resolves.width_eq, ← numeric]
  constructor
  · constructor
    · rintro ⟨matrix, ok⟩
      exact (Matrix.ofColumnsWithRows_eq_ok.mp ok).1
    · intro all
      exact ⟨_, Matrix.ofColumnsWithRows_eq_ok.mpr ⟨all, resolves.table.lengths, rfl⟩⟩
  · intro matrix ok
    obtain ⟨-, -, rfl⟩ := Matrix.ofColumnsWithRows_eq_ok.mp ok
    rfl

end CameFrom

def measured : RowBatch where
  schema := ⟨[⟨"n", .int64, none⟩, ⟨"x", .float32, some ⟨-1, true⟩⟩]⟩
  rows := [[.int64 3, .null]]
  checked := rfl

open NominalFootprint TableFile in
/-- A batch of numbers made of rows becomes a matrix, one with texts read from a file does not. -/
theorem toMatrix_measured_twins :
    let arena : ColumnArena := Arena.new 0 Arena.unlimited
    (∃ batch matrix, (ofRows measured arena).result = .ok batch ∧
      measured.schema.toFile.isMatrixCompatible = true ∧
      (batch.toMatrix ((ofRows measured arena).arena.insert
        (Column.nulls "z" .boolean 3)).2).result = .ok matrix ∧
      matrix.shape = (1, 2)) ∧
    ∃ batch, (readBytes twinsFile arena).result = .ok batch ∧
      ¬∃ matrix, (batch.toMatrix (readBytes twinsFile arena).arena).result = .ok matrix := by
  intro arena
  have room : measured.footprint ≤ arena.room := Arena.le_room_unlimited 0 measured.footprint
  obtain ⟨dictionaries, built⟩ := (DictionaryProvider.build_of_stands measured.schema.stands_fields
    measured.length_columns).1 (by decide) (by decide)
  have made := (ofRows_of_le room).1
  rw [built] at made
  obtain ⟨matrices, shape⟩ := toMatrix_iff_compatible (.rows made)
    (.insert .same (Column.nulls "z" .boolean 3))
  have numeric : measured.schema.toFile.isMatrixCompatible = true :=
    (FileSchema.isMatrixCompatible_of_stands measured.schema.stands_fields).mpr (by decide)
  obtain ⟨matrix, materialised⟩ := matrices.mpr numeric
  obtain ⟨dictionaries', found⟩ := contents_twinsFile
  have read := (readWithin_of_contents found (Arena.le_room_unlimited 0 twins.footprint)).1
  obtain ⟨reader, storages, first, off⟩ := exists_readOff found
  have texts : ¬∀ spec ∈ twins.schema.columns, spec.type.isNumeric = true := by decide
  rw [← FileSchema.isMatrixCompatible_of_stands off.stands] at texts
  exact ⟨⟨_, matrix, made, numeric, materialised, shape matrix materialised⟩,
    ⟨_, read, mt (toMatrix_iff_compatible (.file off.opened read) .same).1.mp texts⟩⟩

end ColumnBatch

end Columnar
