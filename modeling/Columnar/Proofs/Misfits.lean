import Columnar.Proofs.Transpose
import Mathlib.Order.Lattice.Nat

/-!
Rows that do not fit a schema. Checking rows and building their columns refuse the same rows, and
report different faults in them. Rows are checked one after the other, each for its width and then
for its cells (`RowFault`), whereas columns are built one after the other once all rows have the
width (`ColumnFault`).
-/
namespace Columnar

def places {α : Type} (holds : α → Prop) (xs : List α) : Set Nat :=
  {index | ∃ x, xs[index]? = some x ∧ holds x}

section Places

variable {α : Type} {holds : α → Prop} {xs : List α}

variable (holds) in
private theorem exists_isLeast_places {x : α} (member : x ∈ xs) (own : holds x) :
    ∃ index, IsLeast (places holds xs) index := by
  obtain ⟨index, here⟩ := List.getElem?_of_mem member
  exact ⟨_, isLeast_csInf ⟨index, x, here, own⟩⟩

private theorem take_cons_drop {index : Nat} {x : α} (here : xs[index]? = some x) :
    xs = xs.take index ++ x :: xs.drop (index + 1) := by
  obtain ⟨inside, rfl⟩ := List.getElem?_eq_some_iff.mp here
  rw [← List.drop_eq_getElem_cons inside, List.take_append_drop]

theorem split_of_isLeast_places {index : Nat} {x : α} (least : IsLeast (places holds xs) index)
    (here : xs[index]? = some x) :
    ∃ before after, xs = before ++ x :: after ∧ before.length = index ∧
      ∀ y ∈ before, ¬holds y := by
  refine ⟨xs.take index, xs.drop (index + 1), take_cons_drop here, ?_, ?_⟩
  · exact List.length_take_of_le (List.getElem?_eq_some_iff.mp here).1.le
  · intro y member own
    obtain ⟨earlier, found⟩ := List.getElem?_of_mem member
    rw [List.getElem?_take] at found
    split at found
    case isTrue below => exact absurd (least.2 ⟨y, found, own⟩) (Nat.not_le.mpr below)
    case isFalse => cases found

end Places

/-- Whether a row has a cell for each column of a schema, which is null or of the column's type. -/
structure RowFits (schema : TableSchema) (cells : Row) : Prop where
  width : cells.length = schema.width
  own : ∀ (column : Nat) (spec : ColumnSpec) (cell : Cell), schema.columns[column]? = some spec →
    cells[column]? = some cell → cell = .null ∨ cell.columnType? = some spec.type

/-- A cell of a row that is of another type than its column. -/
structure Misfit (schema : TableSchema) (cells : Row) (column : Nat) (spec : ColumnSpec)
    (own : ColumnType) : Prop where
  asked : schema.columns[column]? = some spec
  given : ∃ cell, cells[column]? = some cell ∧ cell.columnType? = some own
  other : own ≠ spec.type

def misfits (schema : TableSchema) (cells : Row) : Set Nat :=
  {column | ∃ spec own, Misfit schema cells column spec own}

/-- What is found when rows are checked: the first row that does not fit, for its width or else for
its first misfit. -/
inductive RowFault (schema : TableSchema) (rows : List Row) : ConversionError → Prop where
  | width {row : Nat} {cells : Row} (first : IsLeast (places (¬RowFits schema ·) rows) row)
    (here : rows[row]? = some cells) (width : cells.length ≠ schema.width) :
    RowFault schema rows (.rowWidth row schema.width cells.length)
  | misfit {row column : Nat} {cells : Row} {spec : ColumnSpec} {own : ColumnType}
    (first : IsLeast (places (¬RowFits schema ·) rows) row) (here : rows[row]? = some cells)
    (width : cells.length = schema.width) (least : IsLeast (misfits schema cells) column)
    (misfit : Misfit schema cells column spec own) :
    RowFault schema rows (.typeCoercion row column spec.name spec.type own.hint)

/-- What is found when columns are built: the first row of another width, or else the first misfit of
the first column that has one. -/
inductive ColumnFault (schema : TableSchema) (rows : List Row) : ConversionError → Prop where
  | width {row : Nat} {cells : Row}
    (first : IsLeast (places (·.length ≠ schema.width) rows) row) (here : rows[row]? = some cells) :
    ColumnFault schema rows (.rowWidth row schema.width cells.length)
  | misfit {row column : Nat} {cells : Row} {spec : ColumnSpec} {own : ColumnType}
    (width : ∀ cells ∈ rows, cells.length = schema.width)
    (least : IsLeast {column | ∃ cells ∈ rows, column ∈ misfits schema cells} column)
    (first : IsLeast (places (column ∈ misfits schema ·) rows) row)
    (here : rows[row]? = some cells) (misfit : Misfit schema cells column spec own) :
    ColumnFault schema rows (.typeCoercion row column spec.name spec.type own.hint)

namespace Cell

private theorem fits_eq_true {cell : Cell} {type : ColumnType} :
    cell.fits type = true ↔ cell = .null ∨ cell.columnType? = some type := by
  cases cell <;> simp [fits, columnType?]

private theorem fits_eq_false {cell : Cell} {type : ColumnType} :
    cell.fits type = false ↔ ∃ own, cell.columnType? = some own ∧ own ≠ type := by
  cases cell <;> simp [fits, columnType?]

end Cell

section Fits

variable {schema : TableSchema} {cells : Row} {column : Nat}

private theorem rowFits_iff : RowFits schema cells ↔ RowBatch.Fits schema.columns cells := by
  rw [RowBatch.Fits, List.forall₂_iff_get]
  constructor
  · intro fits
    refine ⟨fits.width, fun index left right => Cell.fits_eq_true.mpr ?_⟩
    exact fits.own index _ _ (List.getElem?_eq_getElem right) (List.getElem?_eq_getElem left)
  · intro fits
    refine ⟨fits.1, fun column spec cell found here => ?_⟩
    obtain ⟨right, rfl⟩ := List.getElem?_eq_some_iff.mp found
    obtain ⟨left, rfl⟩ := List.getElem?_eq_some_iff.mp here
    exact Cell.fits_eq_true.mp (fits.2 column left right)

private theorem fits_of_not_mem_misfits {spec : ColumnSpec} {cell : Cell}
    (none : column ∉ misfits schema cells) (found : schema.columns[column]? = some spec)
    (here : cells[column]? = some cell) : cell.fits spec.type = true := by
  rw [← Bool.not_eq_false, Cell.fits_eq_false]
  rintro ⟨own, typed, other⟩
  exact none ⟨spec, own, found, ⟨cell, here, typed⟩, other⟩

private theorem exists_mem_misfits (width : cells.length = schema.width)
    (unfit : ¬RowFits schema cells) :
    (misfits schema cells).Nonempty := by
  by_contra empty
  refine unfit ⟨width, fun column spec cell found here => Cell.fits_eq_true.mp ?_⟩
  exact fits_of_not_mem_misfits (fun member => empty ⟨column, member⟩) found here

end Fits

namespace RowBatch

variable {schema : TableSchema}

private theorem checkRowsFrom_append {row : Nat} {before rest : List Row}
    (fit : ∀ cells ∈ before, RowFits schema cells) :
    checkRowsFrom schema row (before ++ rest) =
      checkRowsFrom schema (row + before.length) rest := by
  induction before generalizing row with
  | nil => rfl
  | cons cells before ih =>
    obtain ⟨own, others⟩ := List.forall_mem_cons.mp fit
    have checked : checkRow schema row cells = .ok () := checkRow_eq_ok.mpr (rowFits_iff.mp own)
    rw [List.cons_append, checkRowsFrom, checked]
    dsimp only
    rw [ih others, List.length_cons, Nat.add_assoc, Nat.add_comm 1]

private theorem misfit?_eq_some {start column : Nat} {specs : List ColumnSpec} {cells : Row}
    {spec : ColumnSpec} {cell : Cell} (asked : specs[column]? = some spec)
    (given : cells[column]? = some cell) (wrong : cell.fits spec.type = false)
    (earlier : ∀ before < column, ∀ spec cell, specs[before]? = some spec →
      cells[before]? = some cell → cell.fits spec.type = true) :
    misfit? start specs cells = some (start + column, spec, cell) := by
  induction column generalizing start specs cells with
  | zero =>
    obtain ⟨specs, rfl⟩ := List.head?_eq_some_iff.mp (List.head?_eq_getElem?.trans asked)
    obtain ⟨cells, rfl⟩ := List.head?_eq_some_iff.mp (List.head?_eq_getElem?.trans given)
    simp [misfit?, wrong]
  | succ column ih =>
    cases specs with
    | nil => cases asked
    | cons first specs =>
    cases cells with
    | nil => cases given
    | cons head cells =>
      have fits : head.fits first.type = true := earlier 0 (by simp) first head rfl rfl
      rw [misfit?, if_pos fits, Nat.add_comm column, ← Nat.add_assoc]
      refine ih asked given fun before below spec cell found here => ?_
      exact earlier (before + 1) (Nat.succ_lt_succ below) spec cell found here

private theorem checkRow_of_misfit {row column : Nat} {cells : Row} {spec : ColumnSpec}
    {own : ColumnType} (width : cells.length = schema.width)
    (least : IsLeast (misfits schema cells) column) (misfit : Misfit schema cells column spec own) :
    checkRow schema row cells = .error (.typeCoercion row column spec.name spec.type own.hint) := by
  obtain ⟨cell, here, typed⟩ := misfit.given
  have wrong : cell.fits spec.type = false := Cell.fits_eq_false.mpr ⟨own, typed, misfit.other⟩
  have found : misfit? 0 schema.columns cells = some (0 + column, spec, cell) := by
    refine misfit?_eq_some misfit.asked here wrong fun before below spec cell found here => ?_
    exact fits_of_not_mem_misfits (fun member => Nat.not_le.mpr below (least.2 member)) found here
  rw [checkRow, if_neg (not_not.mpr width), found, Nat.zero_add]
  dsimp only
  rw [Cell.typeName, typed]

private theorem checkRows_of_rowFault {rows : List Row} {e : ConversionError}
    (fault : RowFault schema rows e) : checkRows schema rows = .error e := by
  have scan {row : Nat} {cells : Row} (first : IsLeast (places (¬RowFits schema ·) rows) row)
      (here : rows[row]? = some cells) (failed : checkRow schema row cells = .error e) :
      checkRows schema rows = .error e := by
    obtain ⟨before, after, shape, length, fit⟩ := split_of_isLeast_places first here
    rw [checkRows, shape, checkRowsFrom_append fun cells member => not_not.mp (fit cells member),
      Nat.zero_add, length, checkRowsFrom, failed]
  cases fault with
  | width first here width => exact scan first here (if_pos width)
  | misfit first here width least misfit =>
    exact scan first here (checkRow_of_misfit width least misfit)

private theorem fit_or_rowFault (schema : TableSchema) (rows : List Row) :
    (∀ cells ∈ rows, RowFits schema cells) ∨ ∃ e, RowFault schema rows e := by
  by_cases fit : ∀ cells ∈ rows, RowFits schema cells
  · exact .inl fit
  · push Not at fit
    obtain ⟨other, member, unfit⟩ := fit
    obtain ⟨row, first⟩ := exists_isLeast_places (¬RowFits schema ·) member unfit
    obtain ⟨cells, here, unfit⟩ := first.1
    by_cases width : cells.length = schema.width
    · have least := isLeast_csInf (exists_mem_misfits width unfit)
      obtain ⟨spec, own, misfit⟩ := least.1
      exact .inr ⟨_, .misfit first here width least misfit⟩
    · exact .inr ⟨_, .width first here width⟩

theorem checkRows_eq_ok_iff {rows : List Row} :
    checkRows schema rows = .ok () ↔ ∀ cells ∈ rows, RowFits schema cells := by
  simp only [checkRows_eq_ok, rowFits_iff]

theorem checkRows_eq_error_iff {rows : List Row} {e : ConversionError} :
    checkRows schema rows = .error e ↔ RowFault schema rows e := by
  apply (outcome_iff (fit_or_rowFault schema rows) ?_ ?_).2
  · intro fit
    exact ⟨(), checkRows_eq_ok_iff.mpr fit⟩
  · intro e
    exact checkRows_of_rowFault

theorem exists_ofRows_iff {rows : List Row} :
    (∃ batch, ofRows schema rows = .ok batch) ↔ checkRows schema rows = .ok () := by
  rw [ofRows]
  split <;> simp [*]

theorem ofRows_eq_error_iff {rows : List Row} {e : ConversionError} :
    ofRows schema rows = .error e ↔ checkRows schema rows = .error e := by
  rw [ofRows]
  split <;> simp [*]

end RowBatch

namespace ColumnData

private theorem collect_of_misfit {α : Type} {value? : Cell → Option α} {row : Nat} {cell : Cell}
    {before after : List Cell}
    (fitting : ∀ cell ∈ before, cell = .null ∨ (value? cell).isSome = true)
    (present : cell.isNull = false) (none : value? cell = none) :
    collect value? row (before ++ cell :: after) = .error (row + before.length, cell) := by
  induction before generalizing row with
  | nil => simp [collect, present, none]
  | cons head before ih =>
    obtain ⟨own, others⟩ := List.forall_mem_cons.mp fitting
    have later : collect value? (row + 1) (before ++ cell :: after) =
        .error (row + (head :: before).length, cell) := by
      rw [ih others, List.length_cons, Nat.add_assoc, Nat.add_comm 1]
    rw [List.cons_append, collect, later]
    rcases own with rfl | given
    · rfl
    · obtain ⟨a, found⟩ := Option.isSome_iff_exists.mp given
      rw [found]
      split <;> rfl

theorem ofCells_of_misfit {type : ColumnType} {before after : List Cell} {cell : Cell}
    (fitting : ∀ cell ∈ before, cell.fits type = true) (wrong : cell.fits type = false) :
    ofCells type (before ++ cell :: after) = .error (before.length, cell) := by
  have refused {α : Type} {value? : Cell → Option α} (make : List (Option α) → ColumnData)
      (own : ∀ cell : Cell, cell.fits type = true → cell = .null ∨ (value? cell).isSome = true)
      (present : cell.isNull = false) (none : value? cell = none) :
      (collect value? 0 (before ++ cell :: after)).map make = .error (before.length, cell) := by
    rw [collect_of_misfit (fun cell member => own cell (fitting cell member)) present none,
      Nat.zero_add]
    rfl
  -- The branches differ in the kind of cell that they take, and in nothing else.
  cases type <;>
  · refine refused _ (fun cell fits => ?_) ?_ ?_
    · cases cell <;> cases fits
      · exact .inl rfl
      · exact .inr rfl
    · cases cell <;> first | rfl | cases wrong
    · cases cell <;> first | rfl | cases wrong

end ColumnData

theorem Column.ofCells_of_error {position row : Nat} {name : String} {type : ColumnType}
    {cells : List Cell} {cell : Cell} (failed : ColumnData.ofCells type cells = .error (row, cell)) :
    ofCells position name type cells = .error (.typeCoercion row position name type cell.typeName) := by
  rw [ofCells]
  split
  case h_1 data built => cases failed.symm.trans built
  case h_2 row cell failed' =>
    obtain ⟨rfl, rfl⟩ := Prod.mk.inj (Except.error.inj (failed.symm.trans failed'))
    rfl

namespace Transpose

variable {schema : TableSchema} {rows : List Row}

private theorem ragged?_append {width row : Nat} {before rest : List Row}
    (wide : ∀ cells ∈ before, cells.length = width) :
    ragged? width row (before ++ rest) = ragged? width (row + before.length) rest := by
  induction before generalizing row with
  | nil => rfl
  | cons cells before ih =>
    obtain ⟨own, others⟩ := List.forall_mem_cons.mp wide
    rw [List.cons_append, ragged?, if_pos own, ih others, List.length_cons, Nat.add_assoc,
      Nat.add_comm 1]

private theorem columnsFrom_append {position : Nat} {specs more : List ColumnSpec}
    {columns : List Column} (built : columnsFrom rows position specs = .ok columns) :
    columnsFrom rows position (specs ++ more) =
      (columnsFrom rows (position + specs.length) more).map (columns ++ ·) := by
  induction specs generalizing position columns with
  | nil =>
    obtain rfl := Except.ok.inj built
    rw [List.nil_append]
    exact (congrFun Except.map_id _).symm
  | cons spec specs ih =>
    obtain ⟨column, own, rest⟩ := bind_eq_ok.mp built
    obtain ⟨others, later, same⟩ := bind_eq_ok.mp rest
    obtain rfl := Except.ok.inj same
    rw [List.cons_append, columnsFrom, own, ok_bind, ih later, List.length_cons, Nat.add_assoc,
      Nat.add_comm 1]
    cases columnsFrom rows (position + (specs.length + 1)) more <;> rfl

private theorem columnCells_append (position : Nat) (before : List Row) (cells : Row)
    (after : List Row) :
    columnCells position (before ++ cells :: after) = columnCells position before ++
      cells.getD position .null :: columnCells position after := by
  simp [columnCells]

private theorem getD_fits_of_not_mem_misfits {column : Nat} {spec : ColumnSpec} {cells : Row}
    (none : column ∉ misfits schema cells) (asked : schema.columns[column]? = some spec) :
    (cells.getD column .null).fits spec.type = true := by
  rw [List.getD_eq_getElem?_getD]
  cases here : cells[column]? with
  | none => rfl
  | some cell => exact fits_of_not_mem_misfits none asked here

private theorem columnsOfRows_of_width {row : Nat} {cells : Row}
    (first : IsLeast (places (·.length ≠ schema.width) rows) row) (here : rows[row]? = some cells) :
    columnsOfRows schema rows = .error (.rowWidth row schema.width cells.length) := by
  obtain ⟨other, found, width⟩ := first.1
  obtain rfl := Option.some.inj (here.symm.trans found)
  obtain ⟨before, after, shape, length, wide⟩ := split_of_isLeast_places first here
  have ragged : ragged? schema.width 0 rows = some (row, cells.length) := by
    rw [shape, ragged?_append fun cells member => not_not.mp (wide cells member), Nat.zero_add,
      length, ragged?, if_neg width]
  rw [columnsOfRows, ragged]

private theorem ofCells_of_misfit {row column : Nat} {cells : Row} {spec : ColumnSpec}
    {own : ColumnType} (first : IsLeast (places (column ∈ misfits schema ·) rows) row)
    (here : rows[row]? = some cells) (misfit : Misfit schema cells column spec own) :
    Column.ofCells column spec.name spec.type (columnCells column rows) =
      .error (.typeCoercion row column spec.name spec.type own.hint) := by
  obtain ⟨before, after, rfl, length, earlier⟩ := split_of_isLeast_places first here
  obtain ⟨cell, found, typed⟩ := misfit.given
  have failed : ColumnData.ofCells spec.type (columnCells column (before ++ cells :: after)) =
      .error (row, cell) := by
    rw [columnCells_append, List.getD_eq_getElem?_getD, found, Option.getD_some, ← length,
      ← List.length_map]
    refine ColumnData.ofCells_of_misfit (fun other member => ?_)
      (Cell.fits_eq_false.mpr ⟨own, typed, misfit.other⟩)
    obtain ⟨cells, inside, rfl⟩ := List.mem_map.mp member
    exact getD_fits_of_not_mem_misfits (earlier cells inside) misfit.asked
  rw [Column.ofCells_of_error failed, Cell.typeName, typed]

private theorem columnsOfRows_of_misfit {row column : Nat} {cells : Row} {spec : ColumnSpec}
    {own : ColumnType} (width : ∀ cells ∈ rows, cells.length = schema.width)
    (least : IsLeast {column | ∃ cells ∈ rows, column ∈ misfits schema cells} column)
    (first : IsLeast (places (column ∈ misfits schema ·) rows) row)
    (here : rows[row]? = some cells) (misfit : Misfit schema cells column spec own) :
    columnsOfRows schema rows = .error (.typeCoercion row column spec.name spec.type own.hint) := by
  have inside : column < schema.columns.length := (List.getElem?_eq_some_iff.mp misfit.asked).1
  have earlier : ∃ columns, columnsFrom rows 0 (schema.columns.take column) = .ok columns := by
    refine exists_columnsFrom fun cells member before spec found => ?_
    rw [List.getElem?_take] at found
    split at found
    case isFalse => cases found
    case isTrue below =>
      rw [Nat.zero_add]
      refine getD_fits_of_not_mem_misfits (fun wrong => ?_) found
      exact Nat.not_le.mpr below (least.2 ⟨cells, member, wrong⟩)
  obtain ⟨columns, built⟩ := earlier
  rw [columnsOfRows, ragged?_eq_none.mpr width]
  dsimp only
  rw [take_cons_drop misfit.asked, columnsFrom_append built, Nat.zero_add, List.length_take_of_le inside.le,
    columnsFrom, ofCells_of_misfit first here misfit]
  rfl

private theorem columnsOfRows_of_columnFault {e : ConversionError} (fault : ColumnFault schema rows e) :
    columnsOfRows schema rows = .error e := by
  cases fault with
  | width first here => exact columnsOfRows_of_width first here
  | misfit width least first here misfit =>
    exact columnsOfRows_of_misfit width least first here misfit

private theorem fit_or_columnFault (schema : TableSchema) (rows : List Row) :
    (∀ cells ∈ rows, RowFits schema cells) ∨ ∃ e, ColumnFault schema rows e := by
  by_cases width : ∀ cells ∈ rows, cells.length = schema.width
  · by_cases fit : ∀ cells ∈ rows, RowFits schema cells
    · exact .inl fit
    · push Not at fit
      obtain ⟨other, member, unfit⟩ := fit
      obtain ⟨some, wrong⟩ := exists_mem_misfits (width other member) unfit
      have least := isLeast_csInf (⟨some, other, member, wrong⟩ :
        {column | ∃ cells ∈ rows, column ∈ misfits schema cells}.Nonempty)
      obtain ⟨other, member, wrong⟩ := least.1
      obtain ⟨row, first⟩ := exists_isLeast_places (_ ∈ misfits schema ·) member wrong
      obtain ⟨cells, here, spec, own, misfit⟩ := first.1
      exact .inr ⟨_, .misfit width least first here misfit⟩
  · push Not at width
    obtain ⟨other, member, width⟩ := width
    obtain ⟨row, first⟩ := exists_isLeast_places (·.length ≠ schema.width) member width
    obtain ⟨cells, here, -⟩ := first.1
    exact .inr ⟨_, .width first here⟩

theorem columnsOfRows_iff (schema : TableSchema) (rows : List Row) :
    ((∃ columns, columnsOfRows schema rows = .ok columns) ↔ ∀ cells ∈ rows, RowFits schema cells) ∧
    ∀ e, columnsOfRows schema rows = .error e ↔ ColumnFault schema rows e := by
  apply outcome_iff (fit_or_columnFault schema rows)
  · intro fit
    exact exists_columns ⟨schema, rows, RowBatch.checkRows_eq_ok_iff.mpr fit⟩
  · intro e
    exact columnsOfRows_of_columnFault

/-- Rows can be checked, and have columns, exactly if all of them fit the schema. What is reported of
other rows is the first fault in the order in which they are looked at. -/
theorem rows_accepted_alike (schema : TableSchema) (rows : List Row) :
    ((∃ batch, RowBatch.ofRows schema rows = .ok batch) ↔ RowBatch.checkRows schema rows = .ok ()) ∧
    (RowBatch.checkRows schema rows = .ok () ↔ ∃ columns, columnsOfRows schema rows = .ok columns) ∧
    ((∃ columns, columnsOfRows schema rows = .ok columns) ↔ ∀ cells ∈ rows, RowFits schema cells) ∧
    (∀ e, RowBatch.ofRows schema rows = .error e ↔ RowBatch.checkRows schema rows = .error e) ∧
    (∀ e, RowBatch.checkRows schema rows = .error e ↔ RowFault schema rows e) ∧
    (∀ e, columnsOfRows schema rows = .error e ↔ ColumnFault schema rows e) := by
  obtain ⟨built, failed⟩ := columnsOfRows_iff schema rows
  refine ⟨RowBatch.exists_ofRows_iff, ?_, built, ?_, ?_, failed⟩
  · rw [built, RowBatch.checkRows_eq_ok_iff]
  · intro e
    exact RowBatch.ofRows_eq_error_iff
  · intro e
    exact RowBatch.checkRows_eq_error_iff

/-- A misfit in the first row and a second row that is too short: the misfit comes first among the
rows, the width before any column. -/
example :
    let schema : TableSchema := ⟨[⟨"a", .int64, none⟩, ⟨"b", .text, none⟩]⟩
    let rows : List Row := [[.int64 1, .categorical "x"], [.null]]
    RowBatch.checkRows schema rows = .error (.typeCoercion 0 1 "b" .text "categorical") ∧
      columnsOfRows schema rows = .error (.rowWidth 1 2 1) :=
  ⟨rfl, rfl⟩

end Transpose

end Columnar
