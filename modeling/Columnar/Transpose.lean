import Columnar.Column.Build
import Columnar.RowBatch
import Columnar.Trace

/-!
Rows to columns and back. `columnsOfRows` looks at the widths of all rows before it looks at any
cell, and then fills the columns one after the other. `rowsOfColumns` needs columns of one length.
-/
namespace Columnar

namespace Transpose

/-- The first row, from position `row` on, that is not `width` cells wide, with its width. -/
def ragged? (width : Nat) : Nat → List Row → Option (Nat × Nat)
  | _, [] => none
  | row, cells :: rest =>
    if cells.length = width then ragged? width (row + 1) rest else some (row, cells.length)

def columnCells (position : Nat) (rows : List Row) : List Cell :=
  rows.map fun cells => cells.getD position .null

def columnsFrom (rows : List Row) : Nat → List ColumnSpec → Except ConversionError (List Column)
  | _, [] => .ok []
  | position, spec :: specs => do
    let column ← Column.ofCells position spec.name spec.type (columnCells position rows)
    let rest ← columnsFrom rows (position + 1) specs
    .ok (column :: rest)

def columnsOfRows (schema : TableSchema) (rows : List Row) :
    Except ConversionError (List Column) :=
  match ragged? schema.width 0 rows with
  | some (row, width) => .error (.rowWidth row schema.width width)
  | none => columnsFrom rows 0 schema.columns

def tracedColumns (schema : TableSchema) (rows : List Row) : Conversion (List Column) := do
  let columns ← columnsOfRows schema rows
  Traced.report (.transposed rows.length columns.length)
  pure columns

def rowOfColumns (columns : List Column) (row : Nat) : Except ConversionError Row :=
  columns.mapM (·.cell row)

def rowsUpTo (columns : List Column) (count : Nat) : Except ConversionError (List Row) :=
  (List.range count).mapM (rowOfColumns columns)

/-- The rows of the given columns, which all have to be as long as the first. -/
def rowsOfColumns (columns : List Column) : Except ConversionError (List Row) :=
  match columns with
  | [] => .ok []
  | first :: _ =>
    match columns.find? (·.length ≠ first.length) with
    | some column =>
      .error (.malformedInput (.unequalColumn column.name column.length first.length))
    | none => rowsUpTo columns first.length

end Transpose

end Columnar
