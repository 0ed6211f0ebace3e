import Columnar.Proofs.Batch.OfRows

/-!
Tables: columns of a schema that are all of one length, with the encodings of fields that stand for
the schema. Rows are read out of them by position (`rowsUpTo_eq`), fit the schema
(`checkRows_rowsOf`), and have the columns as theirs (`columnsOfRows_rowsOf`).
-/
namespace Columnar

namespace Column

/-- Whether a column has the name and the type that a schema asks for. -/
structure Suits (spec : ColumnSpec) (column : Column) : Prop where
  name : column.name = spec.name
  type : column.type = spec.type

theorem fits_of_mem_cells {column : Column} {cell : Cell} (member : cell ∈ column.cells) :
    cell.fits column.type = true := by
  obtain ⟨name, type, data, stored⟩ := column
  cases data <;> cases type <;> cases stored <;>
  · obtain ⟨slot, -, rfl⟩ := List.mem_map.mp member
    cases slot <;> rfl

private theorem getD_cells_fits (column : Column) (row : Nat) :
    (column.cells.getD row .null).fits column.type = true := by
  rw [List.getD_eq_getElem?_getD]
  cases found : column.cells[row]? with
  | none => rfl
  | some cell => exact fits_of_mem_cells (List.mem_of_getElem? found)

end Column

namespace Transpose

def rowAt (columns : List Column) (row : Nat) : Row :=
  columns.map fun column => column.cells.getD row .null

def rowsOf (columns : List Column) (count : Nat) : List Row :=
  (List.range count).map (rowAt columns)

@[simp] theorem length_rowsOf (columns : List Column) (count : Nat) :
    (rowsOf columns count).length = count := by
  simp [rowsOf]

theorem rowsOf_getElem? {columns : List Column} {count row : Nat} (inside : row < count) :
    (rowsOf columns count)[row]? = some (rowAt columns row) := by
  simp [rowsOf, inside]

theorem cell_of_lt {column : Column} {row : Nat} (inside : row < column.length) :
    column.cell row = .ok (column.cells.getD row .null) := by
  rw [← column.length_cells] at inside
  rw [Column.cell_eq_ok, List.getD_eq_getElem?_getD, List.getElem?_eq_getElem inside]
  rfl

theorem cell_of_le {column : Column} {row : Nat} (beyond : column.length ≤ row) :
    column.cell row = .error (.indexOutOfRange column.name row column.length) := by
  have none : column.data.cell? column.type row = none := by
    rw [ColumnData.cell?_eq, List.getElem?_eq_none]
    rwa [ColumnData.length_cells]
  rw [Column.cell, none]

theorem rowOfColumns_of_lt {columns : List Column} {row : Nat}
    (inside : ∀ column ∈ columns, row < column.length) :
    rowOfColumns columns row = .ok (rowAt columns row) := by
  rw [rowOfColumns, mapM_eq_ok, rowAt, List.forall₂_map_right_iff, List.forall₂_same]
  exact fun column member => cell_of_lt (inside column member)

section Rows

variable {columns : List Column} {count : Nat} (lengths : ∀ column ∈ columns, column.length = count)

include lengths

theorem rowsUpTo_eq : rowsUpTo columns count = .ok (rowsOf columns count) := by
  rw [rowsUpTo, mapM_eq_ok, rowsOf, List.forall₂_map_right_iff, List.forall₂_same]
  intro row member
  refine rowOfColumns_of_lt fun column inside => ?_
  rw [lengths column inside]
  exact List.mem_range.mp member

/-- Without columns there is nothing that tells how many rows there are. -/
theorem rowsOfColumns_eq (some : columns ≠ []) :
    rowsOfColumns columns = .ok (rowsOf columns count) := by
  obtain ⟨first, rest, rfl⟩ := List.exists_cons_of_ne_nil some
  have same : first.length = count := lengths first (by simp)
  have equal : (first :: rest).find? (·.length ≠ first.length) = none := by
    rw [List.find?_eq_none]
    intro column member
    simp [same, lengths column member]
  rw [rowsOfColumns, equal]
  dsimp only
  rw [same, rowsUpTo_eq lengths]

private theorem columnCells_rowsOf {position : Nat} {column : Column}
    (found : columns[position]? = some column) :
    columnCells position (rowsOf columns count) = column.cells := by
  have length : column.cells.length = count :=
    column.length_cells.trans (lengths column (List.mem_of_getElem? found))
  refine List.ext_getElem (by simp [columnCells, length]) fun row left right => ?_
  simp [columnCells, rowsOf, rowAt, found, List.getElem?_eq_getElem right]

theorem columnsOfRows_rowsOf {schema : TableSchema}
    (kinds : List.Forall₂ Column.Suits schema.columns columns) :
    columnsOfRows schema (rowsOf columns count) = .ok columns := by
  have width : columns.length = schema.width := kinds.length_eq.symm
  refine columnsOfRows_eq_ok.mpr ⟨fun cells member => ?_, width,
    fun index spec column found found' => ?_⟩
  · obtain ⟨row, -, rfl⟩ := List.mem_map.mp member
    exact (List.length_map _).trans width
  · obtain ⟨inside, rfl⟩ := List.getElem?_eq_some_iff.mp found
    obtain ⟨inside', rfl⟩ := List.getElem?_eq_some_iff.mp found'
    have suits := (List.forall₂_iff_get.mp kinds).2 index inside inside'
    exact ⟨suits.name, suits.type, (columnCells_rowsOf lengths found').symm⟩

end Rows

section Columns

variable {schema : TableSchema} {rows : List Row} {columns : List Column}
  (built : columnsOfRows schema rows = .ok columns)

include built

theorem suits_of_columnsOfRows : List.Forall₂ Column.Suits schema.columns columns := by
  obtain ⟨-, width, filled⟩ := columnsOfRows_eq_ok.mp built
  refine List.forall₂_iff_get.mpr ⟨width.symm, fun index left right => ?_⟩
  have fills := filled index _ _ (List.getElem?_eq_getElem left) (List.getElem?_eq_getElem right)
  exact ⟨fills.name, fills.type⟩

theorem exists_position_of_columnsOfRows {column : Column} (member : column ∈ columns) :
    ∃ position < schema.width, column.cells = columnCells position rows := by
  obtain ⟨-, width, filled⟩ := columnsOfRows_eq_ok.mp built
  obtain ⟨position, inside, rfl⟩ := List.getElem_of_mem member
  have inside' : position < schema.columns.length := Nat.lt_of_lt_of_eq inside width
  exact ⟨position, inside', (filled position _ _ (List.getElem?_eq_getElem inside')
    (List.getElem?_eq_getElem inside)).cells⟩

theorem length_of_columnsOfRows {column : Column} (member : column ∈ columns) :
    column.length = rows.length := by
  obtain ⟨position, -, cells⟩ := exists_position_of_columnsOfRows built member
  rw [← column.length_cells, cells]
  exact List.length_map _

end Columns

end Transpose

private theorem RowBatch.checkRows_rowsOf {schema : TableSchema} {columns : List Column}
    (kinds : List.Forall₂ Column.Suits schema.columns columns) (count : Nat) :
    checkRows schema (Transpose.rowsOf columns count) = .ok () := by
  refine checkRows_eq_ok.mpr fun cells member => ?_
  obtain ⟨row, -, rfl⟩ := List.mem_map.mp member
  rw [Fits, Transpose.rowAt, List.forall₂_map_left_iff]
  refine kinds.flip.imp fun column spec suits => ?_
  rw [← suits.type]
  exact column.getD_cells_fits row

/-- Whether columns, a count of rows and encodings make up a table of a schema: the columns have the
names and the types of the schema, are all as long as there are rows, and have the encodings that
fields of the schema give them. -/
structure IsTable (schema : TableSchema) (rows : Nat) (columns : List Column)
    (dictionaries : DictionaryProvider) : Prop where
  kinds : List.Forall₂ Column.Suits schema.columns columns
  lengths : ∀ column ∈ columns, column.length = rows
  encoded : ∃ fields, fields.mapM ColumnSpec.ofField = .ok schema.columns ∧
    DictionaryProvider.build columns fields = .ok dictionaries

namespace IsTable

variable {schema : TableSchema} {rows : Nat} {columns : List Column}
  {dictionaries : DictionaryProvider} (table : IsTable schema rows columns dictionaries)

include table

theorem width : columns.length = schema.width :=
  table.kinds.length_eq.symm

def rowBatch : RowBatch :=
  ⟨schema, Transpose.rowsOf columns rows, RowBatch.checkRows_rowsOf table.kinds rows⟩

theorem columns_rowBatch : table.rowBatch.columns = columns := by
  have built := Transpose.columnsOfRows_rowsOf table.lengths table.kinds
  exact Except.ok.inj (table.rowBatch.columnsOfRows_eq.symm.trans built)

end IsTable

end Columnar
