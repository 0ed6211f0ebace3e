import Columnar.Proofs.Misfits
import Columnar.Proofs.TableFile.RoundTrip

/-!
Rows as columns of an arena. Rows that are placed in an arena with room are found there column by
column and cell by cell (`Transposed`), and a write leaves the arena as placing its rows would. The
columns give the rows back, and columns of one length are themselves the columns of the rows that are
read out of them.
-/
namespace Columnar

/-- Whether a column is the one that rows have at a position. -/
structure Carries (rows : List Row) (position : Nat) (spec : ColumnSpec) (column : Column) :
    Prop where
  name : column.name = spec.name
  type : column.type = spec.type
  length : column.length = rows.length
  nulls : column.nullCount = rows.countP fun cells => cells[position]? = some .null
  cells : ∀ (row : Nat) (cells : Row), rows[row]? = some cells →
    ∃ cell, cells[position]? = some cell ∧ column.cell row = .ok cell

/-- Whether handles are those of the columns of rows, one for each column of the schema and in that
order. -/
structure Transposed (schema : TableSchema) (rows : List Row) (arena : ColumnArena)
    (handles : List Handle) : Prop where
  width : handles.length = schema.width
  carries : ∀ (position : Nat) (spec : ColumnSpec), schema.columns[position]? = some spec →
    ∃ handle column, handles[position]? = some handle ∧ arena.get handle = .ok column ∧
      Carries rows position spec column
  restored : ∃ columns, handles.mapM arena.get = .ok columns ∧
    (0 < schema.width → Transpose.rowsOfColumns columns = .ok rows)

namespace Transpose

private theorem Fills.carries {rows : List Row} {position : Nat} {spec : ColumnSpec} {column : Column}
    (fills : Fills rows position spec column) (wide : ∀ cells ∈ rows, position < cells.length) :
    Carries rows position spec column where
  name := fills.name
  type := fills.type
  length := by
    rw [← column.length_cells, fills.cells]
    exact List.length_map _
  nulls := by
    rw [← column.count_null_cells, fills.cells, columnCells, List.count_eq_countP, List.countP_map]
    refine List.countP_congr fun cells member => ?_
    simp [wide cells member]
  cells := by
    intro row cells here
    have inside := wide cells (List.mem_of_getElem? here)
    refine ⟨cells[position], List.getElem?_eq_getElem inside, Column.cell_eq_ok.mpr ?_⟩
    simp [fills.cells, columnCells, here, inside]

private theorem transposed_of_fetched {schema : TableSchema} {rows : List Row} {columns : List Column}
    {arena : ColumnArena} {handles : List Handle} (built : columnsOfRows schema rows = .ok columns)
    (fetched : handles.mapM arena.get = .ok columns) : Transposed schema rows arena handles := by
  obtain ⟨wide, width, filled⟩ := columnsOfRows_eq_ok.mp built
  obtain ⟨issued, each⟩ := List.forall₂_iff_get.mp (mapM_eq_ok.mp fetched)
  refine ⟨issued.trans width, fun position spec asked => ?_, columns, fetched, fun some => ?_⟩
  · have inside : position < schema.width := (List.getElem?_eq_some_iff.mp asked).1
    have left : position < handles.length := by rwa [issued, width]
    have right : position < columns.length := by rwa [width]
    refine ⟨handles[position], columns[position], List.getElem?_eq_getElem left,
      each position left right, ?_⟩
    apply (filled position spec _ asked (List.getElem?_eq_getElem right)).carries
    intro cells member
    rwa [wide cells member]
  · have lengths : ∀ column ∈ columns, column.length = rows.length :=
      fun column => length_of_columnsOfRows built
    have same := (rowsUpTo_eq lengths).symm.trans (rowsUpTo_columnsOfRows built)
    rw [← width] at some
    rw [rowsOfColumns_eq lengths (List.ne_nil_of_length_pos some), same]

section Columns

variable {columns : List Column} {rows : List Row}

private theorem lengths_of_rowsOfColumns (read : rowsOfColumns columns = .ok rows) :
    ∀ column ∈ columns, column.length = rows.length := by
  cases columns with
  | nil => simp
  | cons first rest =>
    rw [rowsOfColumns] at read
    split at read
    case h_1 => cases read
    case h_2 equal =>
      rw [rowsUpTo, mapM_eq_ok] at read
      have count : first.length = rows.length := by simpa using read.length_eq
      intro column member
      rw [← count]
      simpa using List.find?_eq_none.mp equal column member

theorem exists_rowsOfColumns_iff (some : columns ≠ []) :
    (∃ rows, rowsOfColumns columns = .ok rows) ↔
      ∀ column ∈ columns, ∀ other ∈ columns, column.length = other.length := by
  constructor
  · intro read column member other member'
    obtain ⟨rows, read⟩ := read
    have lengths := lengths_of_rowsOfColumns read
    rw [lengths column member, lengths other member']
  · intro equal
    obtain ⟨first, member⟩ := List.exists_mem_of_ne_nil columns some
    exact ⟨_, rowsOfColumns_eq (fun column member' => equal column member' first member) some⟩

theorem columnsOfRows_of_rowsOfColumns {schema : TableSchema} (some : columns ≠ [])
    (kinds : List.Forall₂ Column.Suits schema.columns columns)
    (read : rowsOfColumns columns = .ok rows) : columnsOfRows schema rows = .ok columns := by
  have lengths := lengths_of_rowsOfColumns read
  rw [rowsOfColumns_eq lengths some] at read
  rw [← Except.ok.inj read]
  exact columnsOfRows_rowsOf lengths kinds

end Columns

end Transpose

namespace TableFile

open Operation (placeRows)

section Placing

variable [Footprint Column]

/-- A write that succeeds had room for the columns and leaves what placing the rows would. -/
theorem write_eq_placeRows {σ : Type} {sink : Sink σ} {arena : ColumnArena} {batch : RowBatch}
    {options : WriteOptions} {state : σ} {handles : List Handle}
    (ok : (write sink arena batch options state).result = .ok handles) :
    (placeRows batch.schema batch.rows arena).result = .ok handles ∧
      (write sink arena batch options state).arena =
        (placeRows batch.schema batch.rows arena).arena ∧
      batch.footprint ≤ arena.room := by
  cases planned : (plan arena batch options).result with
  | error e =>
    rw [write_of_unsettled planned] at ok
    cases ok
  | ok settled =>
    have ready := plan_eq_ok.mp planned
    cases emitted : sink.emit state settled.contents.emissions with
    | mk answer next =>
    cases answer with
    | error cause =>
      rw [write_of_failed planned emitted] at ok
      cases ok
    | ok done =>
      have kept := ok
      rw [write_of_emitted planned emitted] at kept
      have room := room_of_keep kept
      obtain ⟨result, left⟩ := Operation.placeRows_of_room ready.columns room
      rw [write_of_room planned room emitted] at ok ⊢
      rw [result, left, ready.fills.1, RowBatch.footprint, ← ready.columns_eq]
      exact ⟨ok, rfl, room⟩

private theorem exists_placed {schema : TableSchema} {rows : List Row} {columns : List Column}
    {arena : ColumnArena} (built : Transpose.columnsOfRows schema rows = .ok columns)
    (room : Arena.totalFootprint columns ≤ arena.room) :
    ∃ handles, (placeRows schema rows arena).result = .ok handles ∧
      handles.mapM (placeRows schema rows arena).arena.get = .ok columns := by
  obtain ⟨result, left⟩ := Operation.placeRows_of_room built room
  rw [left]
  exact ⟨_, result, Arena.mapM_get_extend arena _ columns⟩

private theorem exists_transposed {schema : TableSchema} {rows : List Row} {columns : List Column}
    {arena : ColumnArena} (built : Transpose.columnsOfRows schema rows = .ok columns)
    (room : Arena.totalFootprint columns ≤ arena.room) :
    ∃ handles, (placeRows schema rows arena).result = .ok handles ∧
      Transposed schema rows (placeRows schema rows arena).arena handles := by
  obtain ⟨handles, result, fetched⟩ := exists_placed built room
  exact ⟨handles, result, Transpose.transposed_of_fetched built fetched⟩

/-- Transposing loses nothing. Rows placed in an arena with room are found there as columns, and a
write that succeeds leaves the same. Columns that are all of one length, and no others, are read as
rows, which give the same columns when they are placed under any schema of their names and types. -/
theorem transposition_exact :
    (∀ (schema : TableSchema) (rows : List Row) (arena : ColumnArena),
      (∀ cells ∈ rows, RowFits schema cells) →
      (∀ columns, Transpose.columnsOfRows schema rows = .ok columns →
        Arena.totalFootprint columns ≤ arena.room) →
        let placed := placeRows schema rows arena
        ∃ handles, placed.result = .ok handles ∧ Transposed schema rows placed.arena handles) ∧
    (∀ (σ : Type) (sink : Sink σ) (arena : ColumnArena) (batch : RowBatch) (options : WriteOptions)
      (state : σ) (handles : List Handle),
      (write sink arena batch options state).result = .ok handles →
        let placed := placeRows batch.schema batch.rows arena
        placed.result = .ok handles ∧ (write sink arena batch options state).arena = placed.arena ∧
          Transposed batch.schema batch.rows placed.arena handles) ∧
    (∀ columns : List Column, columns ≠ [] →
      ((∃ rows, Transpose.rowsOfColumns columns = .ok rows) ↔
        ∀ column ∈ columns, ∀ other ∈ columns, column.length = other.length) ∧
      ∀ (rows : List Row) (schema : TableSchema) (arena : ColumnArena),
        Transpose.rowsOfColumns columns = .ok rows →
        List.Forall₂ Column.Suits schema.columns columns →
        Arena.totalFootprint columns ≤ arena.room →
          let placed := placeRows schema rows arena
          ∃ handles, placed.result = .ok handles ∧ handles.mapM placed.arena.get = .ok columns) := by
  refine ⟨?_, ?_, fun columns some => ⟨Transpose.exists_rowsOfColumns_iff some, ?_⟩⟩
  · intro schema rows arena fit room
    obtain ⟨columns, built⟩ := (Transpose.columnsOfRows_iff schema rows).1.mpr fit
    exact exists_transposed built (room columns built)
  · intro σ sink arena batch options state handles ok
    obtain ⟨result, left, room⟩ := write_eq_placeRows ok
    obtain ⟨again, result', transposed⟩ := exists_transposed batch.columnsOfRows_eq room
    obtain rfl := Except.ok.inj (result.symm.trans result')
    exact ⟨result, left, transposed⟩
  · intro rows schema arena read kinds room
    exact exists_placed (Transpose.columnsOfRows_of_rowsOfColumns some kinds read) room

end Placing

open NominalFootprint in
/-- A column of numbers and one of nulls, read as rows. -/
theorem transposition_exact_twins :
    let arena : ColumnArena := Arena.new 0 Arena.unlimited
    let placed := placeRows twins.schema twins.rows arena
    let columns := [Column.ofNative "n" (.int32 [1, -1]), Column.nulls "s" .text 2]
    let rows : List Row := [[.int32 1, .null], [.int32 (-1), .null]]
    let schema : TableSchema := ⟨[⟨"n", .integer32, none⟩, ⟨"s", .text, none⟩]⟩
    (∀ cells ∈ twins.rows, RowFits twins.schema cells) ∧
      (∃ handles, placed.result = .ok handles ∧
        Transposed twins.schema twins.rows placed.arena handles) ∧
      (∃ handles, (writeBytes arena twins .standard).result = .ok handles ∧
        (writeBytes arena twins .standard).arena = placed.arena) ∧
      Transpose.rowsOfColumns columns = .ok rows ∧
      ∃ handles, (placeRows schema rows arena).result = .ok handles ∧
        handles.mapM (placeRows schema rows arena).arena.get = .ok columns := by
  intro arena placed columns rows schema
  obtain ⟨exact, kept, whole⟩ := @transposition_exact _
  have fit := RowBatch.checkRows_eq_ok_iff.mp twins.checked
  have room : twins.footprint ≤ arena.room := Arena.le_room_unlimited 0 twins.footprint
  have read : Transpose.rowsOfColumns columns = .ok rows := rfl
  refine ⟨fit, exact _ _ arena fit ?_, ?_, read, ?_⟩
  · intro columns built
    obtain rfl := Except.ok.inj (twins.columnsOfRows_eq.symm.trans built)
    exact room
  · obtain ⟨settled, ready, -, -⟩ := exists_settled_twins
    have wrote := ready.writeBytes_result room
    exact ⟨_, wrote, (kept _ _ arena twins .standard [] _ wrote).2.1⟩
  · have kinds : List.Forall₂ Column.Suits schema.columns columns :=
      .cons ⟨rfl, rfl⟩ (.cons ⟨rfl, rfl⟩ .nil)
    have room := @Arena.le_room_unlimited Column 0 (Arena.totalFootprint columns)
    exact (whole columns (List.cons_ne_nil _ _)).2 rows schema arena read kinds room

end TableFile

end Columnar
