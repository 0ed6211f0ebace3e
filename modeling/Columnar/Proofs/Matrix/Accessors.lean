import Columnar.Proofs.Matrix

/-!
Access to the numbers of a matrix. They stand row after row, and a matrix that has been made has as many of
them as it has places (`Made.filled`). So what is in range is found within the numbers, and all accessors find
the same there (`Accessed`). The offsets on the way are counted in words of 64 bits, and none of them is above
the count of the numbers (`Counted`).
-/
namespace Columnar.Matrix

/-- How matrices are made: of zeros or of columns, with as many rows as a word says. -/
inductive Made : Matrix → Prop where
  | zeros (rows cols : UInt64) : Made (zeros rows.toNat cols.toNat)
  | columns {columns : List Column} {rows : UInt64} {matrix : Matrix}
    (ok : ofColumnsWithRows columns rows.toNat = .ok matrix) : Made matrix

def InRange (matrix : Matrix) (row col : Nat) : Prop :=
  row < matrix.rows ∧ col < matrix.cols

/-- What the accessors answer for a row and a column, and how far into the numbers they look. -/
structure Accessed (matrix : Matrix) (row col : Nat) : Prop where
  got : (∃ number, matrix.get? row col = some number) ↔ matrix.InRange row col
  whole : (∃ numbers, matrix.row? row = some numbers) ↔ row < matrix.rows
  width : ∀ numbers, matrix.row? row = some numbers → numbers.length = matrix.cols
  refused : ∀ bad, matrix.entry row col = .error bad ↔ matrix.get? row col = none ∧ bad = ⟨row, col⟩
  same : ∀ number, matrix.entry row col = .ok number → matrix.get? row col = some number ∧
    (∃ numbers, matrix.row? row = some numbers ∧ numbers[col]? = some number) ∧
    matrix.data[row * matrix.cols + col]? = some number
  place : matrix.InRange row col → row * matrix.cols + col < matrix.data.length
  stop : row < matrix.rows → (row + 1) * matrix.cols ≤ matrix.data.length

/-- The offset of a place, as words of 64 bits count it; a row ends at `rowEnd`. -/
def offset (matrix : Matrix) (row col : UInt64) : UInt64 :=
  row * UInt64.ofNat matrix.cols + col

def rowEnd (matrix : Matrix) (row : UInt64) : UInt64 :=
  (row + 1) * UInt64.ofNat matrix.cols

/-- Whether words count the offsets of a row and of its places as they are, none being too great. -/
structure Counted (matrix : Matrix) (row : UInt64) : Prop where
  next : (row + 1).toNat = row.toNat + 1
  start : (matrix.offset row 0).toNat = row.toNat * matrix.cols
  place : ∀ col : UInt64, col.toNat < matrix.cols →
    (matrix.offset row col).toNat = row.toNat * matrix.cols + col.toNat
  stop : (matrix.rowEnd row).toNat = (row.toNat + 1) * matrix.cols

private theorem get?_of_outside {matrix : Matrix} {row col : Nat} (outside : ¬matrix.InRange row col) :
    matrix.get? row col = none :=
  if_neg outside

private theorem entry_of_outside {matrix : Matrix} {row col : Nat} (outside : ¬matrix.InRange row col) :
    matrix.entry row col = .error ⟨row, col⟩ :=
  if_neg outside

private theorem row?_eq_some {matrix : Matrix} {row : Nat} {numbers : List UInt64} :
    matrix.row? row = some numbers ↔
      row < matrix.rows ∧ (matrix.data.drop (row * matrix.cols)).take matrix.cols = numbers := by
  simp [row?]

private theorem flatten_rows {matrix : Matrix} {count : Nat} (most : count ≤ matrix.rows) :
    ((List.range count).filterMap matrix.row?).flatten = matrix.data.take (count * matrix.cols) := by
  induction count with
  | zero => simp
  | succ count ih =>
    rw [List.range_succ, List.filterMap_append, List.flatten_append, ih (Nat.le_of_succ_le most),
      Nat.succ_mul, List.take_add, List.filterMap_cons_some (row?_eq_some.mpr ⟨most, rfl⟩)]
    simp

section Filled

variable {matrix : Matrix} (filled : matrix.data.length = matrix.rows * matrix.cols)

include filled

private theorem rowEnd_le {row : Nat} (below : row < matrix.rows) :
    (row + 1) * matrix.cols ≤ matrix.data.length := by
  rw [filled]
  exact Nat.mul_le_mul_right matrix.cols below

private theorem offset_lt {row col : Nat} (inside : matrix.InRange row col) :
    row * matrix.cols + col < matrix.data.length :=
  calc row * matrix.cols + col
    _ < row * matrix.cols + matrix.cols := Nat.add_lt_add_left inside.2 _
    _ = (row + 1) * matrix.cols := (Nat.succ_mul row matrix.cols).symm
    _ ≤ matrix.data.length := rowEnd_le filled inside.1

private theorem length_row {row : Nat} (below : row < matrix.rows) :
    ((matrix.data.drop (row * matrix.cols)).take matrix.cols).length = matrix.cols := by
  have stop := rowEnd_le filled below
  rw [Nat.succ_mul] at stop
  rw [List.length_take, List.length_drop]
  omega

private theorem exists_number {row col : Nat} (inside : matrix.InRange row col) :
    ∃ number, matrix.data[row * matrix.cols + col]? = some number ∧
      matrix.get? row col = some number ∧ matrix.entry row col = .ok number ∧
      ∃ numbers, matrix.row? row = some numbers ∧ numbers[col]? = some number := by
  have here := List.getElem?_eq_getElem (offset_lt filled inside)
  refine ⟨_, here, ?_, ?_, _, row?_eq_some.mpr ⟨inside.1, rfl⟩, ?_⟩
  · rw [get?, here]
    exact if_pos inside
  · rw [entry, here]
    exact if_pos inside
  · rw [List.getElem?_take_of_lt inside.2, List.getElem?_drop, here]

private theorem accessed_of_filled (row col : Nat) : Accessed matrix row col where
  got := by
    by_cases inside : matrix.InRange row col
    · obtain ⟨number, -, got, -⟩ := exists_number filled inside
      exact iff_of_true ⟨number, got⟩ inside
    · exact iff_of_false (by simp [get?_of_outside inside]) inside
  whole := by simp [row?_eq_some]
  width numbers shown := by
    obtain ⟨below, rfl⟩ := row?_eq_some.mp shown
    exact length_row filled below
  refused bad := by
    by_cases inside : matrix.InRange row col
    · obtain ⟨number, -, got, read, -⟩ := exists_number filled inside
      simp [got, read]
    · simp [get?_of_outside inside, entry_of_outside inside, eq_comm]
  same number read := by
    by_cases inside : matrix.InRange row col
    · obtain ⟨own, here, got, read', shown⟩ := exists_number filled inside
      obtain rfl := Except.ok.inj (read'.symm.trans read)
      exact ⟨got, shown, here⟩
    · cases (entry_of_outside inside).symm.trans read
  place := offset_lt filled
  stop := rowEnd_le filled

private theorem counted_of_filled (word : matrix.rows < 2 ^ 64) (few : matrix.data.length < 2 ^ 64)
    {row : UInt64} (below : row.toNat < matrix.rows) : Counted matrix row := by
  -- The whole row lies within the numbers, so neither its places nor its end are above their count.
  have stop : row.toNat * matrix.cols + matrix.cols < 2 ^ 64 := by
    rw [← Nat.add_one_mul]
    exact Nat.lt_of_le_of_lt (rowEnd_le filled below) few
  have cols : (UInt64.ofNat matrix.cols).toNat = matrix.cols := by
    rw [UInt64.toNat_ofNat', Nat.mod_eq_of_lt (by omega)]
  have next : (row + 1).toNat = row.toNat + 1 := by
    rw [UInt64.toNat_add, UInt64.toNat_one, Nat.mod_eq_of_lt (by omega)]
  have place (col : UInt64) (inside : col.toNat ≤ matrix.cols) :
      (matrix.offset row col).toNat = row.toNat * matrix.cols + col.toNat := by
    rw [offset, UInt64.toNat_add, UInt64.toNat_mul, cols, Nat.mod_add_mod,
      Nat.mod_eq_of_lt (by omega)]
  refine ⟨next, place 0 (Nat.zero_le _), fun col inside => place col (Nat.le_of_lt inside), ?_⟩
  rw [rowEnd, UInt64.toNat_mul, next, cols, Nat.add_one_mul, Nat.mod_eq_of_lt stop]

end Filled

private theorem Made.filled {matrix : Matrix} (made : Made matrix) :
    matrix.data.length = matrix.rows * matrix.cols := by
  cases made with
  | zeros rows cols => exact List.length_replicate
  | columns ok =>
    obtain ⟨numeric, even, rfl⟩ := ofColumnsWithRows_eq_ok.mp ok
    exact length_entries ⟨fun column member => ColumnType.isNumeric_iff.mp (numeric column member), even⟩

private theorem Made.rows_lt {matrix : Matrix} (made : Made matrix) : matrix.rows < 2 ^ 64 := by
  cases made with
  | zeros rows cols => exact rows.toNat_lt
  | @columns _ rows _ ok =>
    obtain ⟨-, -, rfl⟩ := ofColumnsWithRows_eq_ok.mp ok
    exact rows.toNat_lt

/-- A matrix has a number for each of its places. All accessors find it there, and nothing elsewhere, and
its rows one after the other are its numbers. Where a word counts the numbers, as it does in any memory,
words count all offsets on the way as well. -/
theorem accessors_agree {matrix : Matrix} (made : Made matrix) :
    matrix.data.length = matrix.rows * matrix.cols ∧
      (∀ row col, Accessed matrix row col) ∧
      (matrix.data.length < 2 ^ 64 → ∀ row : UInt64, row.toNat < matrix.rows → Counted matrix row) ∧
      ((List.range matrix.rows).filterMap matrix.row?).flatten = matrix.data := by
  have filled := made.filled
  refine ⟨filled, accessed_of_filled filled, fun few row below => ?_, ?_⟩
  · exact counted_of_filled filled made.rows_lt few below
  · rw [flatten_rows (Nat.le_refl _), ← filled, List.take_length]

def numberless : Matrix :=
  zeros (2 ^ 64 - 1) 0

/-- Of as many rows without a number as a word can say, the last is there and is counted. -/
theorem accessors_agree_numberless :
    Made numberless ∧ numberless.data.length < 2 ^ 64 ∧
      numberless.row? (2 ^ 64 - 2) = some [] ∧ numberless.row? (2 ^ 64 - 1) = none ∧
      numberless.entry 0 0 = .error ⟨0, 0⟩ ∧ Counted numberless 0xfffffffffffffffe ∧
      ((List.range numberless.rows).filterMap numberless.row?).flatten = [] ∧
    ∃ matrix, ofColumnsWithRows measurements 2 = .ok matrix ∧ Made matrix ∧
      matrix.entry 1 1 = .ok 0xc008000000000000 ∧ Accessed matrix 1 1 ∧ Counted matrix 1 := by
  have made : Made numberless := .zeros 0xffffffffffffffff 0
  obtain ⟨-, -, counted, rows⟩ := accessors_agree made
  have few : numberless.data.length < 2 ^ 64 := by decide
  have measured : ofColumnsWithRows measurements 2 = .ok ⟨2, 3, entries 2 measurements⟩ := rfl
  have made' : Made ⟨2, 3, entries 2 measurements⟩ := @Made.columns measurements 2 _ measured
  obtain ⟨length, accessed, counted', -⟩ := accessors_agree made'
  refine ⟨made, few, rfl, rfl, rfl, counted few _ (by decide), rows, _, measured, made', ?_,
    accessed 1 1, counted' ?_ 1 ?_⟩
  · decide +kernel
  · rw [length]
    decide
  · decide

end Columnar.Matrix
