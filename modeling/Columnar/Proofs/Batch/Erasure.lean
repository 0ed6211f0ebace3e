import Columnar.Proofs.Batch.OfRows
import Mathlib.Data.List.GetD

/-!
What is left of a table without hints. Types that are stored alike then are one, so that categories
become texts and blobs byte strings (`ColumnType.erased`). Erasing the rows erases the columns and leaves
their data as it is (`columns_erased`), and changes nothing exactly if there are no such columns
(`erased_eq_self_iff`).
-/
namespace Columnar

namespace ColumnType

def erased : ColumnType → ColumnType
  | categorical => text
  | blob => bytes
  | type => type

theorem plainType_storage (type : ColumnType) : type.storage.plainType = type.erased := by
  cases type <;> rfl

@[simp] theorem storage_erased (type : ColumnType) : type.erased.storage = type.storage := by
  rw [← plainType_storage, StorageType.storage_plainType]

private theorem erased_eq_self_iff {type : ColumnType} :
    type.erased = type ↔ type ≠ categorical ∧ type ≠ blob := by
  cases type <;> decide

end ColumnType

namespace Cell

def erased : Cell → Cell
  | categorical value => text value
  | blob value => bytes value
  | cell => cell

private theorem fits_erased {cell : Cell} {type : ColumnType} (fits : cell.fits type = true) :
    cell.erased.fits type.erased = true := by
  cases cell
  case null => rfl
  all_goals
    obtain rfl := of_decide_eq_true fits
    rfl

private theorem erased_of_fits {cell : Cell} {type : ColumnType} (fits : cell.fits type = true)
    (same : type.erased = type) : cell.erased = cell := by
  cases cell
  case categorical =>
    obtain rfl := of_decide_eq_true fits
    cases same
  case blob =>
    obtain rfl := of_decide_eq_true fits
    cases same
  all_goals rfl

end Cell

def Row.erased (cells : Row) : Row :=
  cells.map Cell.erased

def ColumnSpec.erased (spec : ColumnSpec) : ColumnSpec :=
  { spec with type := spec.type.erased }

private theorem ColumnSpec.erased_eq_self_iff {spec : ColumnSpec} :
    spec.erased = spec ↔ spec.type.erased = spec.type := by
  cases spec
  simp [erased]

def TableSchema.erased (schema : TableSchema) : TableSchema :=
  ⟨schema.columns.map ColumnSpec.erased⟩

namespace Column

def erased (column : Column) : Column :=
  ⟨column.name, column.type.erased, column.data,
    column.stored.trans column.type.storage_erased.symm⟩

private theorem cells_erased (column : Column) : column.erased.cells = column.cells.map Cell.erased := by
  have slots {α : Type} (toCell toCell' : α → Cell) (own : ∀ a, toCell a = (toCell' a).erased)
      (slots : List (Option α)) : ColumnData.slotCells toCell slots =
        (ColumnData.slotCells toCell' slots).map Cell.erased := by
    rw [ColumnData.slotCells, ColumnData.slotCells, List.map_map]
    refine List.map_congr_left fun slot _ => ?_
    cases slot with
    | none => rfl
    | some a => exact own a
  obtain ⟨name, type, data, stored⟩ := column
  cases data <;> cases type <;> cases stored <;>
  · refine slots _ _ ?_ _
    exact fun _ => rfl

end Column

namespace RowBatch

private theorem fits_erased {specs : List ColumnSpec} {cells : Row} (fits : Fits specs cells) :
    Fits (specs.map ColumnSpec.erased) cells.erased := by
  rw [Fits, Row.erased, List.forall₂_map_left_iff, List.forall₂_map_right_iff]
  exact fits.imp fun _ _ own => Cell.fits_erased own

def erased (batch : RowBatch) : RowBatch where
  schema := batch.schema.erased
  rows := batch.rows.map Row.erased
  checked := by
    refine checkRows_eq_ok.mpr fun cells member => ?_
    obtain ⟨own, inside, rfl⟩ := List.mem_map.mp member
    exact fits_erased (batch.fits_of_mem inside)

private theorem columnCells_erased (position : Nat) (rows : List Row) :
    Transpose.columnCells position (rows.map Row.erased) =
      (Transpose.columnCells position rows).map Cell.erased := by
  rw [Transpose.columnCells, Transpose.columnCells, List.map_map, List.map_map]
  exact List.map_congr_left fun cells _ => @List.getD_map _ _ cells .null position Cell.erased

/-- Erasing the rows erases the columns. -/
theorem columns_erased (batch : RowBatch) : batch.erased.columns = batch.columns.map Column.erased := by
  obtain ⟨widths, width, filled⟩ := Transpose.columnsOfRows_eq_ok.mp batch.columnsOfRows_eq
  refine Except.ok.inj (batch.erased.columnsOfRows_eq.symm.trans
    (Transpose.columnsOfRows_eq_ok.mpr ⟨fun cells member => ?_, ?_, fun index spec column => ?_⟩))
  · exact (batch.erased.fits_of_mem member).length_eq
  · rw [List.length_map, width]
    exact (List.length_map _).symm
  · intro found found'
    obtain ⟨spec, own, rfl⟩ := Option.map_eq_some_iff.mp (List.getElem?_map.symm.trans found)
    obtain ⟨column, own', rfl⟩ := Option.map_eq_some_iff.mp (List.getElem?_map.symm.trans found')
    have fills := filled index spec column own own'
    refine ⟨fills.name, congrArg ColumnType.erased fills.type, ?_⟩
    rw [Column.cells_erased, fills.cells]
    exact (columnCells_erased index batch.rows).symm

private theorem erased_of_fits {specs : List ColumnSpec} {cells : Row} (fits : Fits specs cells)
    (plain : ∀ spec ∈ specs, spec.type.erased = spec.type) : cells.erased = cells := by
  induction fits with
  | nil => rfl
  | cons own _ ih =>
    obtain ⟨first, rest⟩ := List.forall_mem_cons.mp plain
    exact congrArg₂ List.cons (Cell.erased_of_fits own first) (ih rest)

/-- Without hints nothing is lost exactly if no column has categories or blobs. -/
theorem erased_eq_self_iff {batch : RowBatch} :
    batch.erased = batch ↔
      ∀ spec ∈ batch.schema.columns, spec.type ≠ .categorical ∧ spec.type ≠ .blob := by
  simp only [← ColumnType.erased_eq_self_iff, ← ColumnSpec.erased_eq_self_iff]
  constructor
  · intro same
    have columns := congrArg (·.schema.columns) same
    exact List.map_inj_left.mp (columns.trans (List.map_id _).symm)
  · intro plain
    have columns : batch.schema.columns.map ColumnSpec.erased = batch.schema.columns :=
      (List.map_congr_left plain).trans (List.map_id _)
    have rows : batch.rows.map Row.erased = batch.rows := by
      refine (List.map_congr_left fun cells member => ?_).trans (List.map_id _)
      exact erased_of_fits (batch.fits_of_mem member)
        fun spec inside => ColumnSpec.erased_eq_self_iff.mp (plain spec inside)
    obtain ⟨⟨specs⟩, rows', checked⟩ := batch
    simp only [erased, TableSchema.erased, columns, rows]

end RowBatch

end Columnar
