import Columnar.Operation
import Columnar.Proofs.Arena.Room
import Columnar.Proofs.Batch.Table
import Columnar.Proofs.Misfits

/-!
Ways to place a column in an arena. Native values, millisecond counts and a number of nulls each come to the
column that their cells come to (`factories_agree`), and a column of cells is refused for the first cell of
another type. What has been made becomes the next item of the arena if that has room for it, and otherwise
nothing changes (`Operation.Allocates`).
-/
namespace Columnar

def NativeValues.cells : NativeValues → List Cell
  | int32 values => values.map .int32
  | int64 values => values.map .int64
  | float32 values => values.map .float32
  | float64 values => values.map .float64
  | boolean values => values.map .boolean
  | text values => values.map .text
  | bytes values => values.map .bytes

private theorem NativeValues.count_null_cells (values : NativeValues) :
    values.cells.count .null = 0 := by
  cases values <;> simp [cells, List.count_eq_zero]

namespace Column

/-- Whether a column has a name and a type and holds the given cells: as many slots and nulls as there are,
each cell at its place, and nothing behind them. -/
structure Holds (column : Column) (title : String) (kind : ColumnType) (cells : List Cell) : Prop where
  name : column.name = title
  type : column.type = kind
  length : column.length = cells.length
  nulls : column.nullCount = cells.count .null
  inside : ∀ row cell, column.cell row = .ok cell ↔ cells[row]? = some cell
  beyond : ∀ row, cells.length ≤ row →
    column.cell row = .error (.indexOutOfRange title row cells.length)

private theorem holds_of_cells {column : Column} {cells : List Cell} (shown : column.cells = cells) :
    column.Holds column.name column.type cells := by
  subst shown
  refine ⟨rfl, rfl, column.length_cells.symm, column.count_null_cells.symm,
    fun row cell => cell_eq_ok, fun row beyond => ?_⟩
  rw [length_cells] at beyond ⊢
  exact Transpose.cell_of_le beyond

private theorem cells_ofNative (name : String) (values : NativeValues) :
    (ofNative name values).cells = values.cells := by
  cases values <;> exact List.map_map

private theorem cells_ofTimestamps (name : String) (millis : List Int64) :
    (ofTimestamps name millis).cells = millis.map .timestamp :=
  List.map_map

private theorem cells_nulls (name : String) (type : ColumnType) (count : Nat) :
    (nulls name type count).cells = List.replicate count .null := by
  cases type <;> exact List.map_replicate

end Column

namespace Operation

section Allocates

variable [Footprint Column]

/-- What an operation does that places a column: with room for it in the arena the column becomes the next
item and is found there; without, the operation fails for that reason and changes nothing. -/
structure Allocates (operation : Operation ConversionError Handle) (column : Column) : Prop where
  stored : ∀ arena : ColumnArena, Footprint.bytes column ≤ arena.room →
    (operation arena).result = .ok (arena.handle arena.size) ∧
      (operation arena).arena = arena.extend (Footprint.bytes column) [column] ∧
      (operation arena).arena.get (arena.handle arena.size) = .ok column
  refused : ∀ arena : ColumnArena, arena.room < Footprint.bytes column →
    (operation arena).result = .error (.allocation (.capacityExceeded arena.id
        (Footprint.bytes column) arena.reserved arena.capacity)) ∧
      (operation arena).arena = arena

theorem allocates_store (column : Column) : Allocates (store column) column := by
  constructor
  · intro arena room
    rw [store, Arena.insert_of_room (Arena.ensureRoom_eq_ok.mpr room)]
    exact ⟨rfl, rfl, arena.get_extend _ [column] 0 Nat.zero_lt_one⟩
  · intro arena full
    rw [store, Arena.insert_of_refusal (Arena.ensureRoom_of_lt full)]
    exact ⟨rfl, rfl⟩

theorem Allocates.congr {first second : Operation ConversionError Handle} {column : Column}
    (same : ∀ arena, (first arena).result = (second arena).result ∧
      (first arena).arena = (second arena).arena)
    (allocates : Allocates second column) : Allocates first column := by
  constructor
  · intro arena room
    rw [(same arena).1, (same arena).2]
    exact allocates.stored arena room
  · intro arena full
    rw [(same arena).1, (same arena).2]
    exact allocates.refused arena full

theorem allocates_cells {name : String} {type : ColumnType} {cells : List Cell} {column : Column}
    (built : Column.ofCells 0 name type cells = .ok column) :
    Allocates (allocateCells name type cells) column :=
  (allocates_store column).congr fun arena =>
    @bind_ok _ _ _ (liftM (Column.ofCells 0 name type cells)) _ arena _ built

private theorem allocateCells_of_misfit {name : String} {type : ColumnType} {cells : List Cell}
    {row : Nat} {cell : Cell} (first : IsLeast (places (·.fits type = false) cells) row)
    (here : cells[row]? = some cell) (arena : ColumnArena) :
    (allocateCells name type cells arena).result =
        .error (.typeCoercion row 0 name type cell.typeName) ∧
      (allocateCells name type cells arena).arena = arena := by
  obtain ⟨before, after, rfl, rfl, fit⟩ := split_of_isLeast_places first here
  obtain ⟨other, found, wrong⟩ := first.1
  obtain rfl := Option.some.inj (here.symm.trans found)
  have fits : ∀ other ∈ before, other.fits type = true := fun other member => by
    simpa using fit other member
  have failed := @ColumnData.ofCells_of_misfit type before after cell fits wrong
  exact @bind_error _ _ _ (liftM (Column.ofCells 0 name type (before ++ cell :: after))) _ arena _
    (Column.ofCells_of_error failed)

end Allocates

/-- Whether a way to allocate gives a column, whatever columns count for in an arena. -/
def Gives (factory : [Footprint Column] → Operation ConversionError Handle) (column : Column) : Prop :=
  ∀ [Footprint Column], Allocates factory column

theorem gives_cells {column : Column} {cells : List Cell} (shown : column.cells = cells) :
    Gives (allocateCells column.name column.type cells) column := by
  intro counted
  exact allocates_cells (Column.ofCells_eq_ok.mpr ⟨rfl, rfl, shown⟩)

/-- Native values, millisecond counts and nulls give the column that their cells give. It is given by cells
of its type and nulls, in any order. Other cells are refused for the first one of another type, whether the
arena has room or not, and nothing changes. -/
theorem factories_agree (name : String) :
    (∀ values : NativeValues, ∃ column : Column,
      column.Holds name values.type values.cells ∧ column.nullCount = 0 ∧
        Gives (allocateNative name values) column ∧
        Gives (allocateCells name values.type values.cells) column) ∧
    (∀ millis : List Int64, ∃ column : Column,
      column.Holds name .timestamp (millis.map .timestamp) ∧ column.nullCount = 0 ∧
        Gives (allocateTimestamps name millis) column ∧
        Gives (allocateCells name .timestamp (millis.map .timestamp)) column) ∧
    (∀ (type : ColumnType) (count : Nat), ∃ column : Column,
      column.Holds name type (List.replicate count .null) ∧ column.nullCount = count ∧
        Gives (allocateNulls name type count) column ∧
        Gives (allocateCells name type (List.replicate count .null)) column) ∧
    ∀ (type : ColumnType) (cells : List Cell),
      ((∀ cell ∈ cells, cell.fits type = true) → ∃ column : Column,
        column.Holds name type cells ∧ Gives (allocateCells name type cells) column) ∧
      ∀ row cell, IsLeast (places (·.fits type = false) cells) row → cells[row]? = some cell →
        ∀ [Footprint Column] (arena : ColumnArena),
          (allocateCells name type cells arena).result =
              .error (.typeCoercion row 0 name type cell.typeName) ∧
            (allocateCells name type cells arena).arena = arena := by
  refine ⟨fun values => ?_, fun millis => ?_, fun type count => ?_, fun type cells => ⟨?_, ?_⟩⟩
  · have shown := Column.cells_ofNative name values
    have holds := Column.holds_of_cells shown
    exact ⟨_, holds, holds.nulls.trans values.count_null_cells, allocates_store _, gives_cells shown⟩
  · have shown := Column.cells_ofTimestamps name millis
    have holds := Column.holds_of_cells shown
    refine ⟨_, holds, holds.nulls.trans ?_, allocates_store _, gives_cells shown⟩
    simp [List.count_eq_zero]
  · have shown := Column.cells_nulls name type count
    have holds := Column.holds_of_cells shown
    refine ⟨_, holds, holds.nulls.trans ?_, allocates_store _, gives_cells shown⟩
    exact List.count_replicate_self
  · intro fits
    obtain ⟨data, built⟩ := ColumnData.exists_ofCells fits
    obtain ⟨stored, shown⟩ := ColumnData.ofCells_eq_ok.mp built
    let column : Column := ⟨name, type, data, stored⟩
    exact ⟨column, Column.holds_of_cells shown, @gives_cells column cells shown⟩
  · intro row cell first here counted arena
    exact allocateCells_of_misfit first here arena

open NominalFootprint in
/-- The payload of a NaN and the sign of a zero are kept. A third cell of another type is refused, also in
an arena that has no room. -/
theorem factories_agree_payload :
    (∃ column : Column,
      column.Holds "f" .float32 [.float32 0xffc00001, .float32 0x80000000] ∧ column.nullCount = 0 ∧
        Gives (allocateNative "f" (.float32 [0xffc00001, 0x80000000])) column ∧
        Gives (allocateCells "f" .float32 [.float32 0xffc00001, .float32 0x80000000]) column) ∧
    (∀ cell ∈ [Cell.blob [7], .null], cell.fits .blob = true) ∧
    (∃ column : Column, column.Holds "f" .blob [.blob [7], .null] ∧
      Gives (allocateCells "f" .blob [.blob [7], .null]) column) ∧
    IsLeast (places (·.fits .int64 = false) [Cell.int64 1, .null, .int32 1, .text "1"]) 2 ∧
    (allocateCells "f" .int64 [.int64 1, .null, .int32 1, .text "1"] (Arena.new 0 0)).result =
      .error (.typeCoercion 2 0 "f" .int64 "integer32") := by
  obtain ⟨native, -, -, cells⟩ := factories_agree "f"
  have fits : ∀ cell ∈ [Cell.blob [7], .null], cell.fits .blob = true := by decide
  have first : IsLeast (places (·.fits .int64 = false) [Cell.int64 1, .null, .int32 1, .text "1"]) 2 := by
    refine ⟨⟨.int32 1, rfl, rfl⟩, ?_⟩
    rintro (_ | _ | row) ⟨cell, here, wrong⟩
    · cases here
      cases wrong
    · cases here
      cases wrong
    · exact Nat.le_add_left 2 row
  exact ⟨native (.float32 [0xffc00001, 0x80000000]), fits, (cells .blob _).1 fits, first,
    ((cells .int64 _).2 2 (.int32 1) first rfl _).1⟩

end Operation

end Columnar
