import Columnar.Binary64.Shortest
import Columnar.Column
import Columnar.Trace

/-!
Dense matrices of binary64 numbers, row after row. `ofColumnsWithRows` widens columns of numbers; a null
becomes a NaN. The accessors `get?`, `row?` and `entry` agree on which indices are in range.
-/
namespace Columnar

/-- `rows` times `cols` numbers, row after row. -/
structure Matrix where
  rows : Nat
  cols : Nat
  data : List UInt64
  deriving DecidableEq, Repr

namespace Matrix

def zeros (rows cols : Nat) : Matrix :=
  ⟨rows, cols, List.replicate (rows * cols) 0⟩

/-- The greatest count of numbers that memory can hold. -/
def maxEntries : Nat :=
  2 ^ 60 - 1

def zeros? (rows cols : Nat) : Option Matrix :=
  if rows * cols ≤ maxEntries then some (zeros rows cols) else none

def shape (matrix : Matrix) : Nat × Nat :=
  (matrix.rows, matrix.cols)

def get? (matrix : Matrix) (row col : Nat) : Option UInt64 :=
  if row < matrix.rows ∧ col < matrix.cols then matrix.data[row * matrix.cols + col]?
  else none

def row? (matrix : Matrix) (row : Nat) : Option (List UInt64) :=
  if row < matrix.rows then some ((matrix.data.drop (row * matrix.cols)).take matrix.cols)
  else none

structure OutOfBounds where
  row : Nat
  col : Nat
  deriving DecidableEq, Repr

def OutOfBounds.message (bad : OutOfBounds) : String :=
  s!"matrix index ({bad.row}, {bad.col}) out of bounds"

def entry (matrix : Matrix) (row col : Nat) : Except OutOfBounds UInt64 :=
  if row < matrix.rows ∧ col < matrix.cols then
    match matrix.data[row * matrix.cols + col]? with
    | some value => .ok value
    | none => .error ⟨row, col⟩
  else .error ⟨row, col⟩

def equal (a b : Matrix) : Bool :=
  a.rows = b.rows && a.cols = b.cols && a.data.length = b.data.length &&
    (a.data.zip b.data).all fun (x, y) => Binary64.equal x y

/-- The first `count` rows of numbers that stand in rows of `width`. -/
def rowTexts (width : Nat) : Nat → List UInt64 → List String
  | 0, _ => []
  | count + 1, data =>
    ("[" ++ ", ".intercalate ((data.take width).map Binary64.text) ++ "]\n") ::
      rowTexts width count (data.drop width)

def text (matrix : Matrix) : String :=
  String.join (rowTexts matrix.cols matrix.rows matrix.data)

def widened : ColumnData → List UInt64
  | .int32 slots => slots.map fun slot => slot.elim Binary64.nan (Binary64.ofInt ·.toInt)
  | .int64 slots => slots.map fun slot => slot.elim Binary64.nan (Binary64.ofInt ·.toInt)
  | .float32 slots => slots.map fun slot => slot.elim Binary64.nan Binary64.ofBinary32
  | .float64 slots => slots.map fun slot => slot.getD Binary64.nan
  | _ => []

/-- Writes the words of column `col` into full rows of `width` words, from row `row` on. -/
def fillColumn (width col : Nat) : Nat → List UInt64 → Array UInt64 → Array UInt64
  | _, [], data => data
  | row, word :: rest, data =>
    fillColumn width col (row + 1) rest (data.setIfInBounds (row * width + col) word)

/-- Writes one column after the other, from column `col` on. -/
def fill (width : Nat) : Nat → List (List UInt64) → Array UInt64 → Array UInt64
  | _, [], data => data
  | col, words :: rest, data => fill width (col + 1) rest (fillColumn width col 0 words data)

def entries (rows : Nat) (columns : List Column) : List UInt64 :=
  (fill columns.length 0 (columns.map fun column => widened column.data)
    (zeros rows columns.length).data.toArray).toList

/-- The matrix of columns of numbers that all have `rows` slots. -/
def ofColumnsWithRows (columns : List Column) (rows : Nat) : Except ConversionError Matrix :=
  match columns.find? (!·.type.isNumeric) with
  | some column => .error (.unsupportedColumnType column.name column.type)
  | none =>
    match columns.find? (·.length ≠ rows) with
    | some column => .error (.malformedInput (.matrixColumn column.name column.length rows))
    | none => .ok ⟨rows, columns.length, entries rows columns⟩

def tracedWithRows (columns : List Column) (rows : Nat) : Conversion Matrix := do
  let matrix ← ofColumnsWithRows columns rows
  Traced.report (.materialised rows columns.length)
  pure matrix

/-- The matrix of columns of numbers, with as many rows as the first column has slots. -/
def tracedOfColumns (columns : List Column) : Conversion Matrix :=
  tracedWithRows columns (columns.head?.elim 0 (·.length))

end Matrix

end Columnar
