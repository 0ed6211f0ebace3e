import Columnar.Proofs.Arena.Kept
import Columnar.Proofs.Batch.Table

/-!
Reading a column batch. A batch that finds the columns of a table in an arena (`Resolves`) finds them
as long as the arena is not released, and then all ways to read it are bounded alike and agree
(`Resolves.reads`).
-/
namespace Columnar.ColumnBatch

/-- Whether a column batch finds the columns of a table in an arena. -/
structure Resolves (batch : ColumnBatch) (arena : ColumnArena) (columns : List Column) : Prop where
  found : batch.handles.mapM arena.get = .ok columns
  table : IsTable batch.schema batch.rowCount columns batch.dictionaries

/-- Whether an access succeeds if its indices are inside, and otherwise fails for one that is out of
range. -/
structure Bounded {α : Type} (inside : Prop) (result : Except ConversionError α) : Prop where
  success : inside → ∃ value, result = .ok value
  failure : ¬inside → ∃ target index length,
    result = .error (.indexOutOfRange target index length) ∧ length ≤ index

/-- How the ways to read a column batch hang together. -/
structure Reads (batch : ColumnBatch) (arena : ColumnArena) : Prop where
  width : batch.width = batch.schema.width
  kinds : ∀ (position : Nat) (spec : ColumnSpec), batch.schema.columns[position]? = some spec →
    ∃ column, batch.column arena position = .ok column ∧ Column.Suits spec column ∧
      column.length = batch.rowCount
  encodings : (batch.dictionaries.entries.map (·.position)).Perm (List.range batch.width)
  encoded : ∀ entry ∈ batch.dictionaries.entries,
    batch.column arena entry.position = .ok entry.column
  column : ∀ position, Bounded (position < batch.width) (batch.column arena position)
  cell : ∀ row position, Bounded (row < batch.rowCount ∧ position < batch.width)
    (batch.cell arena row position)
  row : ∀ index, Bounded (index < batch.rowCount) (batch.row arena index)
  rows : ∃ whole, batch.toRowBatch arena = .ok whole ∧ whole.schema = batch.schema ∧
    whole.numRows = batch.rowCount ∧
    (∀ (index : Nat) (cells : Row), whole.rows[index]? = some cells →
      batch.row arena index = .ok cells ∧
        (List.range batch.width).mapM (batch.cell arena index) = .ok cells) ∧
    (0 < batch.width → (batch.columns arena >>= Transpose.rowsOfColumns) = .ok whole.rows)

theorem columns_of_get {batch : ColumnBatch} {arena : ColumnArena} {columns : List Column}
    (found : batch.handles.mapM arena.get = .ok columns) : batch.columns arena = .ok columns := by
  obtain ⟨same, each⟩ := List.forall₂_iff_get.mp (mapM_eq_ok.mp found)
  rw [ColumnBatch.columns, mapM_eq_ok, List.forall₂_iff_get]
  refine ⟨by simpa [width] using same, fun index left right => ?_⟩
  have inside : index < batch.handles.length := same ▸ right
  have got := each index inside right
  rw [List.get_eq_getElem] at got
  rw [List.get_eq_getElem, List.getElem_range, column, List.getElem?_eq_getElem inside]
  dsimp only
  rw [got]
  rfl

namespace Resolves

variable {batch : ColumnBatch} {arena later : ColumnArena} {columns : List Column}

theorem kept (resolves : Resolves batch arena columns) (kept : Arena.Kept arena later) :
    Resolves batch later columns :=
  ⟨kept.mapM_get resolves.found, resolves.table⟩

variable (resolves : Resolves batch arena columns)

include resolves

theorem width_eq : batch.width = columns.length :=
  (mapM_eq_ok.mp resolves.found).length_eq

theorem columns_eq : batch.columns arena = .ok columns :=
  columns_of_get resolves.found

theorem column_eq (position : Nat) :
    batch.column arena position =
      match columns[position]? with
      | some column => .ok column
      | none => .error (.indexOutOfRange "columns" position batch.width) := by
  obtain ⟨same, each⟩ := List.forall₂_iff_get.mp (mapM_eq_ok.mp resolves.found)
  rw [column]
  by_cases inside : position < columns.length
  · have got := each position (same ▸ inside) inside
    rw [List.get_eq_getElem, List.get_eq_getElem] at got
    rw [List.getElem?_eq_getElem inside, List.getElem?_eq_getElem (same ▸ inside)]
    dsimp only
    rw [got]
    rfl
  · rw [List.getElem?_eq_none (Nat.not_lt.mp inside),
      List.getElem?_eq_none (same ▸ Nat.not_lt.mp inside)]

private theorem column_of_lt {position : Nat} (inside : position < columns.length) :
    batch.column arena position = .ok columns[position] := by
  rw [resolves.column_eq, List.getElem?_eq_getElem inside]

theorem column_bounded (position : Nat) :
    Bounded (position < batch.width) (batch.column arena position) := by
  rw [resolves.width_eq]
  constructor
  · intro inside
    exact ⟨_, resolves.column_of_lt inside⟩
  · intro outside
    have beyond := Nat.not_lt.mp outside
    refine ⟨"columns", position, batch.width, ?_, resolves.width_eq ▸ beyond⟩
    rw [resolves.column_eq, List.getElem?_eq_none beyond]

private theorem cell_of_lt {position : Nat} (inside : position < columns.length) (row : Nat) :
    batch.cell arena row position = columns[position].cell row := by
  rw [cell, resolves.column_of_lt inside, ok_bind]

theorem cell_bounded (row position : Nat) :
    Bounded (row < batch.rowCount ∧ position < batch.width) (batch.cell arena row position) := by
  rw [resolves.width_eq]
  constructor
  · rintro ⟨above, inside⟩
    rw [resolves.cell_of_lt inside]
    rw [← resolves.table.lengths _ (List.getElem_mem inside)] at above
    exact ⟨_, Transpose.cell_of_lt above⟩
  · intro outside
    by_cases inside : position < columns.length
    · have below : batch.rowCount ≤ row := Nat.not_lt.mp fun above => outside ⟨above, inside⟩
      rw [← resolves.table.lengths _ (List.getElem_mem inside)] at below
      refine ⟨columns[position].name, row, columns[position].length, ?_, below⟩
      rw [resolves.cell_of_lt inside]
      exact Transpose.cell_of_le below
    · obtain ⟨target, index, length, failed, beyond⟩ :=
        (resolves.column_bounded position).failure (resolves.width_eq ▸ inside)
      refine ⟨target, index, length, ?_, beyond⟩
      rw [cell, failed]
      rfl

private theorem row_of_lt {index : Nat} (inside : index < batch.rowCount) :
    batch.row arena index = .ok (Transpose.rowAt columns index) := by
  rw [row, if_neg (Nat.not_le.mpr inside), resolves.columns_eq, ok_bind]
  refine Transpose.rowOfColumns_of_lt fun column member => ?_
  rwa [resolves.table.lengths column member]

theorem row_bounded (index : Nat) :
    Bounded (index < batch.rowCount) (batch.row arena index) := by
  constructor
  · intro inside
    exact ⟨_, resolves.row_of_lt inside⟩
  · intro outside
    have beyond := Nat.not_lt.mp outside
    exact ⟨"rows", index, batch.rowCount, by rw [row, if_pos beyond], beyond⟩

private theorem cells_of_lt {index : Nat} (inside : index < batch.rowCount) :
    (List.range batch.width).mapM (batch.cell arena index) =
      .ok (Transpose.rowAt columns index) := by
  rw [resolves.width_eq, mapM_eq_ok, List.forall₂_iff_get]
  refine ⟨by simp [Transpose.rowAt], fun position left right => ?_⟩
  have here : position < columns.length := by simpa using left
  rw [List.get_eq_getElem, List.getElem_range, resolves.cell_of_lt here]
  have above : index < columns[position].length := by
    rwa [resolves.table.lengths _ (List.getElem_mem here)]
  simpa [Transpose.rowAt] using Transpose.cell_of_lt above

theorem toRowBatch_eq : batch.toRowBatch arena = .ok resolves.table.rowBatch := by
  rw [toRowBatch, resolves.columns_eq, ok_bind, Transpose.rowsUpTo_eq resolves.table.lengths, ok_bind]
  exact RowBatch.ofRows_rows _

/-- All ways to read the batch are bounded alike and agree. -/
theorem reads : Reads batch arena := by
  obtain ⟨fields, -, encoded⟩ := resolves.table.encoded
  obtain ⟨entries, built⟩ := DictionaryProvider.built_of_build encoded
  refine ⟨resolves.width_eq.trans resolves.table.width, fun position spec named => ?_, ?_,
    fun entry member => ?_, resolves.column_bounded, resolves.cell_bounded, resolves.row_bounded,
    resolves.table.rowBatch, resolves.toRowBatch_eq, rfl, Transpose.length_rowsOf _ _,
    fun index cells found => ?_, fun some => ?_⟩
  · obtain ⟨inside, rfl⟩ := List.getElem?_eq_some_iff.mp named
    obtain ⟨same, each⟩ := List.forall₂_iff_get.mp resolves.table.kinds
    exact ⟨_, resolves.column_of_lt (same ▸ inside), each position inside _,
      resolves.table.lengths _ (List.getElem_mem _)⟩
  · rw [resolves.width_eq]
    exact built.positions_perm
  · rw [resolves.column_eq, built.column_of_mem member]
  · have inside : index < batch.rowCount := by
      rw [← Transpose.length_rowsOf columns batch.rowCount]
      exact (List.getElem?_eq_some_iff.mp found).1
    obtain rfl := Option.some.inj ((Transpose.rowsOf_getElem? inside).symm.trans found)
    exact ⟨resolves.row_of_lt inside, resolves.cells_of_lt inside⟩
  · rw [resolves.width_eq] at some
    rw [resolves.columns_eq, ok_bind]
    exact Transpose.rowsOfColumns_eq resolves.table.lengths (List.ne_nil_of_length_pos some)

end Resolves

theorem resolves_of_ofRows [Footprint Column] {rows : RowBatch} {arena : ColumnArena} {placed : ColumnBatch}
    (ok : (ofRows rows arena).result = .ok placed) :
    Resolves placed (ofRows rows arena).arena rows.columns := by
  by_cases full : arena.room < rows.footprint
  · rw [(ofRows_of_lt full).1] at ok
    cases ok
  · obtain ⟨result, left⟩ := ofRows_of_le (UInt64.not_lt.mp full)
    obtain ⟨dictionaries, encoded, same⟩ := bind_eq_ok.mp (result.symm.trans ok)
    obtain rfl := Except.ok.inj same
    rw [mapError_eq_ok] at encoded
    rw [left]
    refine ⟨?_, Transpose.suits_of_columnsOfRows rows.columnsOfRows_eq,
      fun column => Transpose.length_of_columnsOfRows rows.columnsOfRows_eq, rows.schema.fields,
      rows.schema.stands_fields, encoded⟩
    rw [← rows.length_columns]
    exact Arena.mapM_get_extend arena rows.footprint rows.columns

end Columnar.ColumnBatch
