import Columnar.Proofs.Column

/-!
Rows to columns and back, exactly. Rows fit a schema if each has a cell for every column that the
column takes (`checkRows_eq_ok`); such rows always have columns (`exists_columns`), and reading the
columns row by row gives the rows again (`rowsUpTo_columnsOfRows`).
-/
namespace Columnar

namespace RowBatch

/-- Whether a row has one cell for each column and each column takes its cell. -/
def Fits (specs : List ColumnSpec) (cells : Row) : Prop :=
  List.Forall₂ (fun cell spec => Cell.fits cell spec.type = true) cells specs

private theorem misfit?_eq_none {column : Nat} {specs : List ColumnSpec} {cells : Row}
    (width : cells.length = specs.length) :
    misfit? column specs cells = none ↔ Fits specs cells := by
  induction specs generalizing column cells with
  | nil =>
    obtain rfl := List.length_eq_zero_iff.mp width
    exact iff_of_true rfl .nil
  | cons spec specs ih =>
    obtain ⟨cell, rest, rfl⟩ := List.exists_cons_of_length_eq_add_one width
    rw [misfit?, Fits, List.forall₂_cons]
    by_cases fits : cell.fits spec.type = true
    · rw [if_pos fits, ih (Nat.succ.inj width)]
      exact (and_iff_right fits).symm
    · rw [if_neg fits]
      exact iff_of_false (by simp) fun both => fits both.1

theorem checkRow_eq_ok {schema : TableSchema} {row : Nat} {cells : Row} :
    checkRow schema row cells = .ok () ↔ Fits schema.columns cells := by
  rw [checkRow]
  split
  case isTrue other =>
    exact iff_of_false (by simp) fun fits => other fits.length_eq
  case isFalse same =>
    rw [← @misfit?_eq_none 0 _ _ (not_ne_iff.mp same)]
    split <;> simp [*]

theorem checkRows_eq_ok {schema : TableSchema} {rows : List Row} :
    checkRows schema rows = .ok () ↔ ∀ cells ∈ rows, Fits schema.columns cells := by
  suffices from' : ∀ row, checkRowsFrom schema row rows = .ok () ↔
      ∀ cells ∈ rows, Fits schema.columns cells from from' 0
  induction rows with
  | nil => simp [checkRowsFrom]
  | cons cells rest ih =>
    intro row
    rw [checkRowsFrom, List.forall_mem_cons, ← @checkRow_eq_ok schema row, ← ih (row + 1)]
    split <;> simp [*]

theorem fits_of_mem (batch : RowBatch) {cells : Row} (member : cells ∈ batch.rows) :
    Fits batch.schema.columns cells :=
  checkRows_eq_ok.mp batch.checked cells member

theorem ofRows_rows {schema : TableSchema} {rows : List Row}
    (checked : checkRows schema rows = .ok ()) :
    ofRows schema rows = .ok ⟨schema, rows, checked⟩ := by
  rw [ofRows]
  split
  case h_1 => rfl
  case h_2 e failed => cases checked.symm.trans failed

end RowBatch

namespace Transpose

theorem ragged?_eq_none {width row : Nat} {rows : List Row} :
    ragged? width row rows = none ↔ ∀ cells ∈ rows, cells.length = width := by
  induction rows generalizing row with
  | nil => simp [ragged?]
  | cons cells rest ih =>
    rw [ragged?, List.forall_mem_cons]
    split <;> simp [*]

/-- What makes a column the one at a position of a table with the given rows. -/
structure Fills (rows : List Row) (position : Nat) (spec : ColumnSpec) (column : Column) : Prop where
  name : column.name = spec.name
  type : column.type = spec.type
  cells : column.cells = columnCells position rows

theorem columnsFrom_eq_ok {rows : List Row} {position : Nat} {specs : List ColumnSpec}
    {columns : List Column} :
    columnsFrom rows position specs = .ok columns ↔
      columns.length = specs.length ∧
      ∀ (index : Nat) (spec : ColumnSpec) (column : Column), specs[index]? = some spec →
        columns[index]? = some column → Fills rows (position + index) spec column := by
  induction specs generalizing position columns with
  | nil => cases columns <;> simp [columnsFrom]
  | cons spec specs ih =>
    rw [columnsFrom, bind_eq_ok]
    constructor
    · rintro ⟨column, built, rest⟩
      obtain ⟨others, later, same⟩ := bind_eq_ok.mp rest
      obtain rfl := Except.ok.inj same
      obtain ⟨length, filled⟩ := ih.mp later
      refine ⟨by simp [length], fun index => ?_⟩
      cases index with
      | zero =>
        rintro _ _ ⟨rfl⟩ ⟨rfl⟩
        obtain ⟨name, type, cells⟩ := Column.ofCells_eq_ok.mp built
        exact ⟨name, type, cells⟩
      | succ index =>
        intro other column found placed
        have fills := filled index other column (by simpa using found) (by simpa using placed)
        rwa [Nat.add_right_comm] at fills
    · rintro ⟨length, filled⟩
      obtain ⟨column, others, rfl⟩ := List.exists_cons_of_length_eq_add_one length
      have fills := filled 0 spec column rfl rfl
      refine ⟨column, Column.ofCells_eq_ok.mpr ⟨fills.name, fills.type, fills.cells⟩, ?_⟩
      refine bind_eq_ok.mpr ⟨others, ih.mpr ⟨by simpa using length, ?_⟩, rfl⟩
      intro index other column found placed
      have fills := filled (index + 1) other column (by simpa using found) (by simpa using placed)
      rwa [← Nat.add_assoc, Nat.add_right_comm] at fills

theorem columnsOfRows_eq_ok {schema : TableSchema} {rows : List Row} {columns : List Column} :
    columnsOfRows schema rows = .ok columns ↔
      (∀ cells ∈ rows, cells.length = schema.width) ∧ columns.length = schema.width ∧
      ∀ (index : Nat) (spec : ColumnSpec) (column : Column), schema.columns[index]? = some spec →
        columns[index]? = some column → Fills rows index spec column := by
  rw [columnsOfRows]
  cases ragged : ragged? schema.width 0 rows with
  | some found =>
    refine iff_of_false (by simp) fun both => ?_
    simp [ragged?_eq_none.mpr both.1] at ragged
  | none =>
    rw [and_iff_right (ragged?_eq_none.mp ragged)]
    simpa [TableSchema.width] using @columnsFrom_eq_ok rows 0 schema.columns columns

theorem exists_columnsFrom {rows : List Row} {specs : List ColumnSpec} {position : Nat}
    (fitting : ∀ cells ∈ rows, ∀ (index : Nat) (spec : ColumnSpec), specs[index]? = some spec →
      (cells.getD (position + index) .null).fits spec.type = true) :
    ∃ columns, columnsFrom rows position specs = .ok columns := by
  induction specs generalizing position with
  | nil => exact ⟨[], rfl⟩
  | cons spec specs ih =>
    have takes : ∀ cell ∈ columnCells position rows, cell.fits spec.type = true := by
      intro cell member
      obtain ⟨cells, inside, rfl⟩ := List.mem_map.mp member
      exact fitting cells inside 0 spec rfl
    obtain ⟨data, built⟩ := ColumnData.exists_ofCells takes
    let column : Column := ⟨spec.name, spec.type, data, ColumnData.storage_ofCells built⟩
    have made : Column.ofCells position spec.name spec.type (columnCells position rows) = .ok column :=
      Column.ofCells_eq_ok.mpr ⟨rfl, rfl, (ColumnData.ofCells_eq_ok.mp built).2⟩
    obtain ⟨columns, later⟩ := @ih (position + 1) fun cells inside index other found => by
      have fits := fitting cells inside (index + 1) other (by simpa using found)
      rwa [← Nat.add_assoc, Nat.add_right_comm] at fits
    exact ⟨_, bind_eq_ok.mpr ⟨column, made, bind_eq_ok.mpr ⟨columns, later, rfl⟩⟩⟩

theorem exists_columns (batch : RowBatch) :
    ∃ columns, columnsOfRows batch.schema batch.rows = .ok columns := by
  have ragged : ragged? batch.schema.width 0 batch.rows = none :=
    ragged?_eq_none.mpr fun cells member => (batch.fits_of_mem member).length_eq
  rw [columnsOfRows, ragged]
  refine exists_columnsFrom fun cells member index spec found => ?_
  have fits := batch.fits_of_mem member
  obtain ⟨inside, rfl⟩ := List.getElem?_eq_some_iff.mp found
  have width : index < cells.length := fits.length_eq ▸ inside
  simpa [width] using (List.forall₂_iff_get.mp fits).2 index width inside

theorem rowOfColumns_eq_ok {columns : List Column} {row : Nat} {cells : Row} :
    rowOfColumns columns row = .ok cells ↔
      List.Forall₂ (fun column cell => column.cells[row]? = some cell) columns cells := by
  simp only [rowOfColumns, mapM_eq_ok, Column.cell_eq_ok]

theorem rowsUpTo_columnsOfRows {schema : TableSchema} {rows : List Row} {columns : List Column}
    (built : columnsOfRows schema rows = .ok columns) :
    rowsUpTo columns rows.length = .ok rows := by
  obtain ⟨widths, width, filled⟩ := columnsOfRows_eq_ok.mp built
  rw [rowsUpTo, mapM_eq_ok, List.forall₂_iff_get]
  refine ⟨by simp, fun row _ inside => ?_⟩
  rw [List.get_eq_getElem, List.getElem_range, List.get_eq_getElem, rowOfColumns_eq_ok,
    List.forall₂_iff_get]
  have wide : rows[row].length = schema.width := widths _ (List.getElem_mem inside)
  refine ⟨width.trans wide.symm, fun index left right => ?_⟩
  have spec := List.getElem?_eq_getElem (l := schema.columns) (wide ▸ right)
  have fills := filled index _ _ spec (List.getElem?_eq_getElem left)
  simp [fills.cells, columnCells, inside, right]

end Transpose

end Columnar
