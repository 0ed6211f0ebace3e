import Columnar.Proofs.Column
import Columnar.Proofs.Matrix.Filling

/-!
Matrices of columns. The words of columns of one length are found again by row and column
(`getElem?_interleave`), so that a matrix shows at every place what the cell there comes to (`Shown`).
Columns that are no matrix are refused with the first one that is not of numbers or, if all
are, with the first one of another length (`Matrix.Fault`).
-/
namespace Columnar

/-- Whether a word is what a matrix shows for a cell: some NaN for a null, otherwise its number. -/
inductive Shown : Cell → UInt64 → Prop
  | null {word : UInt64} (nan : Binary64.isNaN word = true) : Shown .null word
  | number {cell : Cell} {word : UInt64} (number : cell.toBinary64? = some word) : Shown cell word

def ColumnType.numeric : List ColumnType :=
  [.integer32, .int64, .float32, .float64]

theorem ColumnType.isNumeric_iff {type : ColumnType} :
    type.isNumeric = true ↔ type ∈ ColumnType.numeric := by
  cases type <;> decide

namespace Matrix

private theorem shown_of_number {cell : Cell} (known : cell = .null ∨ cell.toBinary64?.isSome = true) :
    Shown cell (cell.toBinary64?.getD Binary64.nan) := by
  obtain rfl | number := known
  · exact .null (by decide)
  · obtain ⟨word, found⟩ := Option.isSome_iff_exists.mp number
    rw [found]
    exact .number found

private theorem widened_eq {column : Column} (numeric : column.type.isNumeric = true) :
    widened column.data = column.cells.map fun cell => cell.toBinary64?.getD Binary64.nan := by
  obtain ⟨name, type, data, stored⟩ := column
  have slots {α : Type} {toCell : α → Cell} {word : α → UInt64}
      (number : ∀ a, (toCell a).toBinary64? = some (word a)) (slots : List (Option α)) :
      slots.map (fun slot => slot.elim Binary64.nan word) =
        (ColumnData.slotCells toCell slots).map fun cell => cell.toBinary64?.getD Binary64.nan := by
    rw [ColumnData.slotCells, List.map_map]
    apply List.map_congr_left
    rintro (_ | a) _
    · rfl
    · simp [number]
  cases type <;> cases numeric <;> cases data <;> cases stored
  · exact slots (fun _ => rfl) _
  · exact slots (fun _ => rfl) _
  · exact slots (fun _ => rfl) _
  · rename_i words
    rw [widened, Column.cells, ColumnData.cells, ← slots (fun _ => rfl) words]
    apply List.map_congr_left
    rintro (_ | word) _ <;> rfl

private theorem known_of_numeric {column : Column} (numeric : column.type.isNumeric = true) :
    ∀ cell ∈ column.cells, cell = .null ∨ cell.toBinary64?.isSome = true := by
  obtain ⟨name, type, data, stored⟩ := column
  intro cell member
  cases type <;> cases numeric <;> cases data <;> cases stored <;>
  · obtain ⟨slot, -, rfl⟩ := List.mem_map.mp member
    cases slot with
    | none => exact .inl rfl
    | some a => exact .inr rfl

/-- Whether columns make a matrix of `rows` rows. -/
structure Tabular (columns : List Column) (rows : Nat) : Prop where
  numeric : ∀ column ∈ columns, column.type ∈ ColumnType.numeric
  even : ∀ column ∈ columns, column.length = rows

/-- What is wrong with columns that make no matrix of `rows` rows: the first one that is not of numbers,
whatever their lengths, or else the first one of another length. -/
inductive Fault (columns : List Column) (rows : Nat) : ConversionError → Prop
  | type {before after : List Column} {column : Column} (shape : columns = before ++ column :: after)
      (numeric : ∀ other ∈ before, other.type ∈ ColumnType.numeric)
      (odd : column.type ∉ ColumnType.numeric) :
      Fault columns rows (.unsupportedColumnType column.name column.type)
  | length {before after : List Column} {column : Column} (shape : columns = before ++ column :: after)
      (numeric : ∀ other ∈ columns, other.type ∈ ColumnType.numeric)
      (even : ∀ other ∈ before, other.length = rows) (odd : column.length ≠ rows) :
      Fault columns rows (.malformedInput (.matrixColumn column.name column.length rows))

/-- Whether a matrix shows, at each of its places, the cell of the columns there. -/
def Shows (matrix : Matrix) (columns : List Column) : Prop :=
  ∀ row < matrix.rows, ∀ (col : Nat) (column : Column), columns[col]? = some column →
    ∃ cell word, column.cell row = .ok cell ∧ matrix.get? row col = some word ∧ Shown cell word

theorem ofColumnsWithRows_eq_ok {columns : List Column} {rows : Nat} {matrix : Matrix} :
    ofColumnsWithRows columns rows = .ok matrix ↔
      (∀ column ∈ columns, column.type.isNumeric = true) ∧
        (∀ column ∈ columns, column.length = rows) ∧
        matrix = ⟨rows, columns.length, entries rows columns⟩ := by
  unfold ofColumnsWithRows
  constructor
  · intro ok
    split at ok
    case h_1 => cases ok
    case h_2 numeric =>
      split at ok
      case h_1 => cases ok
      case h_2 even =>
        refine ⟨?_, ?_, (Except.ok.inj ok).symm⟩
        · simpa using numeric
        · simpa using even
  · rintro ⟨numeric, even, rfl⟩
    have numeric' : columns.find? (!·.type.isNumeric) = none := by simpa using numeric
    have even' : columns.find? (·.length ≠ rows) = none := by simpa using even
    rw [numeric', even']

@[simp] theorem tracedWithRows_result (columns : List Column) (rows : Nat) :
    (tracedWithRows columns rows).result = ofColumnsWithRows columns rows := by
  simp [tracedWithRows]

theorem ofColumnsWithRows_of_tabular {columns : List Column} {rows : Nat}
    (tabular : Tabular columns rows) :
    ofColumnsWithRows columns rows = .ok ⟨rows, columns.length, entries rows columns⟩ := by
  refine ofColumnsWithRows_eq_ok.mpr ⟨?_, tabular.even, rfl⟩
  intro column member
  exact ColumnType.isNumeric_iff.mpr (tabular.numeric column member)

theorem ofColumnsWithRows_of_fault {columns : List Column} {rows : Nat} {e : ConversionError}
    (fault : Fault columns rows e) : ofColumnsWithRows columns rows = .error e := by
  cases fault with
  | @type before after column shape numeric odd =>
    have found : columns.find? (!·.type.isNumeric) = some column := by
      rw [List.find?_eq_some_iff_append]
      refine ⟨by simpa [← ColumnType.isNumeric_iff] using odd, before, after, shape, ?_⟩
      simpa [ColumnType.isNumeric_iff] using numeric
    rw [ofColumnsWithRows, found]
  | @length before after column shape numeric even odd =>
    have sound : columns.find? (!·.type.isNumeric) = none := by
      simpa [ColumnType.isNumeric_iff] using numeric
    have found : columns.find? (·.length ≠ rows) = some column := by
      rw [List.find?_eq_some_iff_append]
      exact ⟨by simpa using odd, before, after, shape, by simpa using even⟩
    rw [ofColumnsWithRows, sound, found]

theorem tabular_or_fault (columns : List Column) (rows : Nat) :
    Tabular columns rows ∨ ∃ e, Fault columns rows e := by
  cases typed : columns.find? (!·.type.isNumeric) with
  | some column =>
    obtain ⟨odd, before, after, shape, numeric⟩ := List.find?_eq_some_iff_append.mp typed
    refine .inr ⟨_, .type shape ?_ ?_⟩
    · simpa [ColumnType.isNumeric_iff] using numeric
    · simpa [← ColumnType.isNumeric_iff] using odd
  | none =>
    have numeric : ∀ column ∈ columns, column.type ∈ ColumnType.numeric := by
      simpa [ColumnType.isNumeric_iff] using typed
    cases sized : columns.find? (·.length ≠ rows) with
    | some column =>
      obtain ⟨odd, before, after, shape, even⟩ := List.find?_eq_some_iff_append.mp sized
      exact .inr ⟨_, .length shape numeric (by simpa using even) (by simpa using odd)⟩
    | none => exact .inl ⟨numeric, by simpa using sized⟩

section Tabular

variable {columns : List Column} {rows : Nat} (tabular : Tabular columns rows)

include tabular

private theorem even_widened :
    ∀ words ∈ columns.map (fun column => widened column.data), words.length = rows := by
  intro words member
  obtain ⟨column, own, rfl⟩ := List.mem_map.mp member
  rw [widened_eq (ColumnType.isNumeric_iff.mpr (tabular.numeric column own)), List.length_map,
    Column.length_cells, tabular.even column own]

theorem length_entries : (entries rows columns).length = rows * columns.length := by
  rw [entries_eq_interleave (even_widened tabular), length_interleave (even_widened tabular),
    List.length_map]

theorem shows_of_tabular : Shows ⟨rows, columns.length, entries rows columns⟩ columns := by
  intro row below col column found
  obtain ⟨inside, -⟩ := List.getElem?_eq_some_iff.mp found
  have member := List.mem_of_getElem? found
  have numeric := ColumnType.isNumeric_iff.mpr (tabular.numeric column member)
  have present : row < column.cells.length := by
    rw [Column.length_cells, tabular.even column member]
    exact below
  have cell := List.getElem?_eq_getElem present
  refine ⟨_, _, Column.cell_eq_ok.mpr cell, ?_,
    shown_of_number (known_of_numeric numeric _ (List.getElem_mem present))⟩
  have word := getElem?_interleave (even_widened tabular) below (by simpa using inside)
  rw [List.length_map, List.getElem?_map, found] at word
  rw [get?, if_pos ⟨below, inside⟩, entries_eq_interleave (even_widened tabular), word]
  simp [widened_eq numeric, cell]

end Tabular

/-- Columns make a matrix exactly if all are of numbers and of the length asked for, and are refused for
the first fault otherwise. The matrix has a row for each of their rows and a column for each of them, and
shows their cells. Without a length asked for it is that of the first column; a batch asks for its own,
which counts also without columns. -/
theorem ofColumnsWithRows_shows (columns : List Column) (rows : Nat) :
    ((∃ matrix, ofColumnsWithRows columns rows = .ok matrix) ↔ Tabular columns rows) ∧
      (∀ e, ofColumnsWithRows columns rows = .error e ↔ Fault columns rows e) ∧
      (∀ matrix, ofColumnsWithRows columns rows = .ok matrix →
        matrix.shape = (rows, columns.length) ∧
          matrix.data.length = rows * columns.length ∧ matrix.Shows columns) ∧
      (tracedOfColumns columns).result =
        ofColumnsWithRows columns ((columns.head?.map Column.length).getD 0) ∧
      ∀ (batch : ColumnBatch) (arena : ColumnArena),
        (batch.toMatrix arena).result =
            (batch.columns arena >>= fun fetched => ofColumnsWithRows fetched batch.rowCount) ∧
          (batch.handles = [] → (batch.toMatrix arena).result = .ok ⟨batch.rowCount, 0, []⟩) := by
  obtain ⟨sound, refused⟩ := outcome_iff (tabular_or_fault columns rows)
    (fun tabular => ⟨_, ofColumnsWithRows_of_tabular tabular⟩) fun e => ofColumnsWithRows_of_fault
  refine ⟨sound, refused, ?_, ?_, fun batch arena => ?_⟩
  · intro matrix ok
    have tabular := sound.mp ⟨matrix, ok⟩
    obtain ⟨-, -, rfl⟩ := ofColumnsWithRows_eq_ok.mp ok
    exact ⟨rfl, length_entries tabular, shows_of_tabular tabular⟩
  · rw [tracedOfColumns, tracedWithRows_result]
    cases columns <;> rfl
  · have asked : (batch.toMatrix arena).result =
        (batch.columns arena >>= fun fetched => ofColumnsWithRows fetched batch.rowCount) := by
      rw [ColumnBatch.toMatrix, Traced.bind_result, Traced.liftM_result]
      simp only [tracedWithRows_result]
    refine ⟨asked, fun none => ?_⟩
    rw [asked, ColumnBatch.columns, ColumnBatch.width, none]
    rfl

def measurements : List Column :=
  [⟨"count", .integer32, .int32 [some 7, none], rfl⟩,
    ⟨"total", .int64, .int64 [none, some (-3)], rfl⟩,
    ⟨"share", .float32, .float32 [some 0x3f000000, some 0xbf800000], rfl⟩]

theorem ofColumnsWithRows_shows_measurements :
    (∃ matrix, ofColumnsWithRows measurements 2 = .ok matrix ∧ matrix.shape = (2, 3) ∧
      matrix.get? 1 1 = some 0xc008000000000000 ∧ matrix.Shows measurements) ∧
    ofColumnsWithRows (measurements ++ [⟨"note", .text, .utf8 [none], rfl⟩]) 5 =
      .error (.unsupportedColumnType "note" .text) ∧
    ofColumnsWithRows (measurements ++ [⟨"rate", .float64, .float64 [none], rfl⟩]) 2 =
      .error (.malformedInput (.matrixColumn "rate" 1 2)) := by
  have word : (Matrix.mk 2 3 (entries 2 measurements)).get? 1 1 = some 0xc008000000000000 := by
    decide +kernel
  obtain ⟨made, -, shown, -⟩ := ofColumnsWithRows_shows measurements 2
  obtain ⟨matrix, ok⟩ := made.mpr ⟨by decide, by decide⟩
  obtain ⟨shape, -, shows⟩ := shown matrix ok
  obtain ⟨-, -, rfl⟩ := ofColumnsWithRows_eq_ok.mp ok
  refine ⟨⟨_, ok, shape, word, shows⟩, ?_, ?_⟩
  · exact ((ofColumnsWithRows_shows _ 5).2.1 _).mpr
      (@Fault.type _ _ measurements [] _ rfl (by decide) (by decide))
  · exact ((ofColumnsWithRows_shows _ 2).2.1 _).mpr
      (@Fault.length _ _ measurements [] _ rfl (by decide) (by decide) (by decide))

end Matrix

end Columnar
