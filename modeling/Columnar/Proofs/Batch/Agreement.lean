import Columnar.Proofs.TableFile.RoundTrip

/-!
Column batches, however they were made. A batch that was made of rows and one that was read from a file
are tables in their arenas alike, so that all ways to read them agree as long as the arena is not
released (`reads_of_made`).
-/
namespace Columnar.ColumnBatch

/-- The ways a column batch comes about, with the arena that is left. -/
inductive Made : ColumnBatch → ColumnArena → Prop
  | ofRows [Footprint Column] {rows : RowBatch} {arena : ColumnArena} {batch : ColumnBatch}
    (ok : (ofRows rows arena).result = .ok batch) : Made batch (ofRows rows arena).arena
  | read [Footprint Column] {budget : Flatbuffer.Budget} {source : Source} {arena : ColumnArena}
    {batch : ColumnBatch} (ok : (TableFile.readWithin budget source arena).result = .ok batch) :
    Made batch (TableFile.readWithin budget source arena).arena

variable {batch : ColumnBatch} {arena later : ColumnArena}

theorem Made.resolves (made : Made batch arena) : ∃ columns, Resolves batch arena columns := by
  cases made with
  | ofRows ok => exact ⟨_, resolves_of_ofRows ok⟩
  | read ok =>
    obtain ⟨found, -, resolves, -⟩ := TableFile.resolves_of_readWithin ok
    exact ⟨_, resolves⟩

/-- All ways to read a column batch are bounded alike and agree, as long as the arena it was made in is
not released. A batch without columns gives any count of empty rows, memory set aside. -/
theorem reads_of_made (made : Made batch arena) (kept : Arena.Kept arena later) :
    Reads batch later := by
  obtain ⟨columns, resolves⟩ := made.resolves
  exact (resolves.kept kept).reads

open NominalFootprint TableFile in
/-- A batch of rows, one more column having been stored since, and a batch of a file. -/
theorem reads_twins :
    let arena : ColumnArena := Arena.new 0 Arena.unlimited
    (∃ batch, (ofRows twins arena).result = .ok batch ∧
      Reads batch ((ofRows twins arena).arena.insert (Column.nulls "z" .boolean 3)).2) ∧
    ∃ batch, (readBytes twinsFile arena).result = .ok batch ∧
      Reads batch (readBytes twinsFile arena).arena := by
  intro arena
  have room : twins.footprint ≤ arena.room := Arena.le_room_unlimited 0 twins.footprint
  obtain ⟨dictionaries, built⟩ := (DictionaryProvider.build_of_stands twins.schema.stands_fields
    twins.length_columns).1 (by decide) (by decide)
  have made := (ofRows_of_le room).1
  rw [built] at made
  obtain ⟨dictionaries', found⟩ := contents_twinsFile
  have read := (readWithin_of_contents found room).1
  exact ⟨⟨_, made, reads_of_made (.ofRows made) (.insert .same _)⟩,
    ⟨_, read, reads_of_made (.read read) .same⟩⟩

end Columnar.ColumnBatch
