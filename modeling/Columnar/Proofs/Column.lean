import Columnar.Column.Build
import Columnar.Proofs.Sequence

/-!
Columns as lists of cells. `ColumnData.cells` is the view of a column in a given type: reading a slot
is looking into it (`cell?_eq`), and a column is built of cells exactly if it shows them again
(`ofCells_eq_ok`).
-/
namespace Columnar

namespace ColumnData

def slotCells {α : Type} (toCell : α → Cell) (slots : List (Option α)) : List Cell :=
  slots.map fun slot => slot.elim Cell.null toCell

def cells (type : ColumnType) : ColumnData → List Cell
  | int32 slots => slotCells .int32 slots
  | int64 slots => slotCells .int64 slots
  | float32 slots => slotCells .float32 slots
  | float64 slots => slotCells .float64 slots
  | boolean slots => slotCells .boolean slots
  | utf8 slots => slotCells (textCell type) slots
  | timestampMillis slots => slotCells .timestamp slots
  | binary slots => slotCells (bytesCell type) slots

@[simp] theorem length_cells (type : ColumnType) (data : ColumnData) :
    (data.cells type).length = data.length := by
  cases data <;> simp [cells, slotCells, length]

theorem cell?_eq (type : ColumnType) (data : ColumnData) (row : Nat) :
    data.cell? type row = (data.cells type)[row]? := by
  cases data <;> simp [cell?, cells, slotCells, slotCell]

private theorem count_null_slotCells {α : Type} {toCell : α → Cell}
    (proper : ∀ a, (toCell a).isNull = false) (slots : List (Option α)) :
    (slotCells toCell slots).count .null = (slots.map (·.isSome)).count false := by
  induction slots with
  | nil => rfl
  | cons slot rest ih =>
    rw [slotCells, List.map_cons, List.map_cons, List.count_cons, List.count_cons, ← ih, slotCells]
    cases slot with
    | none => rfl
    | some a =>
      have present : toCell a ≠ .null := by
        intro null
        simpa [null, Cell.isNull] using proper a
      simp [present]

theorem count_null_cells (type : ColumnType) (data : ColumnData) :
    (data.cells type).count .null = data.nullCount := by
  cases data with
  | utf8 slots =>
    refine count_null_slotCells (fun text => ?_) slots
    rw [textCell]
    split <;> rfl
  | binary slots =>
    refine count_null_slotCells (fun bytes => ?_) slots
    rw [bytesCell]
    split <;> rfl
  | _ slots => exact count_null_slotCells (fun _ => rfl) slots

section Collect

variable {α : Type} {value? : Cell → Option α} {toCell : α → Cell}

theorem collect_slotCells (values : ∀ a, value? (toCell a) = some a)
    (proper : ∀ a, (toCell a).isNull = false) (row : Nat) (slots : List (Option α)) :
    collect value? row (slotCells toCell slots) = .ok slots := by
  induction slots generalizing row with
  | nil => rfl
  | cons slot rest ih =>
    have tail := ih (row + 1)
    rw [slotCells] at tail
    cases slot with
    | none => simp [slotCells, collect, Cell.isNull, tail, Except.map]
    | some a => simp [slotCells, collect, proper, values, tail, Except.map]

private theorem slotCells_of_collect (values : ∀ cell a, value? cell = some a → cell = toCell a)
    {row : Nat} {cells : List Cell} {slots : List (Option α)}
    (collected : collect value? row cells = .ok slots) : slotCells toCell slots = cells := by
  induction cells generalizing row slots with
  | nil =>
    obtain rfl := Except.ok.inj collected
    rfl
  | cons cell rest ih =>
    rw [collect] at collected
    split at collected
    case isTrue null =>
      obtain ⟨others, later, rfl⟩ := map_eq_ok.mp collected
      have empty : cell = .null := by cases cell <;> simp_all [Cell.isNull]
      rw [← ih later, empty]
      rfl
    case isFalse =>
      split at collected
      case h_1 a found =>
        obtain ⟨others, later, rfl⟩ := map_eq_ok.mp collected
        rw [← ih later, values cell a found]
        rfl
      case h_2 => cases collected

private theorem exists_slots {row : Nat} {cells : List Cell}
    (fitting : ∀ cell ∈ cells, cell = .null ∨ (value? cell).isSome = true) :
    ∃ slots, collect value? row cells = .ok slots := by
  induction cells generalizing row with
  | nil => exact ⟨[], rfl⟩
  | cons cell rest ih =>
    obtain ⟨slots, later⟩ := @ih (row + 1) fun other member => fitting other (by simp [member])
    rw [collect]
    split
    case isTrue => exact ⟨none :: slots, by rw [later]; rfl⟩
    case isFalse present =>
      rcases fitting cell (by simp) with rfl | given
      · exact absurd rfl present
      · obtain ⟨a, found⟩ := Option.isSome_iff_exists.mp given
        exact ⟨some a :: slots, by rw [found, later]; rfl⟩

end Collect

theorem ofCells_cells {type : ColumnType} {data : ColumnData} (stored : data.storage = type.storage) :
    ofCells type (data.cells type) = .ok data := by
  have built {α : Type} {value? : Cell → Option α} {toCell : α → Cell}
      (make : List (Option α) → ColumnData) (slots : List (Option α))
      (values : ∀ a, value? (toCell a) = some a) (proper : ∀ a, (toCell a).isNull = false) :
      (collect value? 0 (slotCells toCell slots)).map make = .ok (make slots) := by
    rw [collect_slotCells values proper]
    rfl
  cases data <;> cases type <;> cases stored <;>
    exact built _ _ (fun _ => rfl) fun _ => rfl

theorem cells_of_ofCells {type : ColumnType} {cells : List Cell} {data : ColumnData}
    (built : ofCells type cells = .ok data) : data.cells type = cells := by
  cases type <;>
  · obtain ⟨slots, collected, rfl⟩ := map_eq_ok.mp built
    refine slotCells_of_collect (fun cell a found => ?_) collected
    cases cell <;> cases found
    rfl

/-- A column of a type is built of cells exactly if it is stored as the type says and shows the cells
again. -/
theorem ofCells_eq_ok {type : ColumnType} {cells : List Cell} {data : ColumnData} :
    ofCells type cells = .ok data ↔ data.storage = type.storage ∧ data.cells type = cells := by
  constructor
  · intro built
    exact ⟨storage_ofCells built, cells_of_ofCells built⟩
  · rintro ⟨stored, rfl⟩
    exact ofCells_cells stored

theorem exists_ofCells {type : ColumnType} {cells : List Cell}
    (fitting : ∀ cell ∈ cells, cell.fits type = true) : ∃ data, ofCells type cells = .ok data := by
  have filled {α : Type} {value? : Cell → Option α} (make : List (Option α) → ColumnData)
      (own : ∀ cell : Cell, cell.fits type = true → cell = .null ∨ (value? cell).isSome = true) :
      ∃ data, (collect value? 0 cells).map make = .ok data := by
    obtain ⟨slots, collected⟩ :=
      @exists_slots _ value? 0 _ fun cell member => own cell (fitting cell member)
    exact ⟨make slots, by rw [collected]; rfl⟩
  cases type <;>
  · refine filled _ fun cell fits => ?_
    cases cell <;> cases fits
    · exact .inl rfl
    · exact .inr rfl

end ColumnData

namespace Column

def cells (column : Column) : List Cell :=
  column.data.cells column.type

@[simp] theorem length_cells (column : Column) : column.cells.length = column.length :=
  ColumnData.length_cells column.type column.data

@[simp] theorem count_null_cells (column : Column) :
    column.cells.count .null = column.nullCount :=
  column.data.count_null_cells column.type

theorem cell_eq_ok {column : Column} {row : Nat} {cell : Cell} :
    column.cell row = .ok cell ↔ column.cells[row]? = some cell := by
  rw [Column.cell, ColumnData.cell?_eq, cells]
  split <;> simp [*]

/-- A column is built of cells exactly if it has the name and the type and shows the cells again. -/
theorem ofCells_eq_ok {position : Nat} {name : String} {type : ColumnType} {cells : List Cell}
    {column : Column} :
    ofCells position name type cells = .ok column ↔
      column.name = name ∧ column.type = type ∧ column.cells = cells := by
  rw [ofCells]
  split
  case h_1 data built =>
    constructor
    · intro ok
      obtain rfl := Except.ok.inj ok
      exact ⟨rfl, rfl, (ColumnData.ofCells_eq_ok.mp built).2⟩
    · rintro ⟨rfl, rfl, shown⟩
      have again := ColumnData.ofCells_eq_ok.mpr ⟨column.stored, shown⟩
      obtain rfl := Except.ok.inj (built.symm.trans again)
      rfl
  case h_2 cause failed =>
    refine iff_of_false (fun ok => nomatch ok) ?_
    rintro ⟨rfl, rfl, shown⟩
    cases failed.symm.trans (ColumnData.ofCells_eq_ok.mpr ⟨column.stored, shown⟩)

end Column

end Columnar
