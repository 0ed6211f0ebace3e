import Columnar.Cell
import Columnar.Schema

/-!
Row batches: rows that have been checked against a schema. Every row has one cell per column and
every cell fits its column; `checkRows` names the first row that does not, and in it the width before
any cell.
-/
namespace Columnar

namespace RowBatch

/-- The first cell that does not fit its column, with its position, from `column` on. -/
def misfit? : Nat → List ColumnSpec → Row → Option (Nat × ColumnSpec × Cell)
  | column, spec :: specs, cell :: cells =>
    if cell.fits spec.type then misfit? (column + 1) specs cells
    else some (column, spec, cell)
  | _, _, _ => none

def checkRow (schema : TableSchema) (row : Nat) (cells : Row) : Except ConversionError Unit :=
  if cells.length ≠ schema.width then .error (.rowWidth row schema.width cells.length)
  else match misfit? 0 schema.columns cells with
    | some (column, spec, cell) =>
      .error (.typeCoercion row column spec.name spec.type cell.typeName)
    | none => .ok ()

def checkRowsFrom (schema : TableSchema) : Nat → List Row → Except ConversionError Unit
  | _, [] => .ok ()
  | row, cells :: rest =>
    match checkRow schema row cells with
    | .ok () => checkRowsFrom schema (row + 1) rest
    | .error e => .error e

def checkRows (schema : TableSchema) (rows : List Row) : Except ConversionError Unit :=
  checkRowsFrom schema 0 rows

end RowBatch

structure RowBatch where
  schema : TableSchema
  rows : List Row
  checked : RowBatch.checkRows schema rows = .ok ()

namespace RowBatch

def ofRows (schema : TableSchema) (rows : List Row) : Except ConversionError RowBatch :=
  match checked : checkRows schema rows with
  | .ok () => .ok ⟨schema, rows, checked⟩
  | .error e => .error e

def numRows (batch : RowBatch) : Nat :=
  batch.rows.length

def equal (a b : RowBatch) : Bool :=
  a.schema = b.schema && a.rows.length = b.rows.length &&
    (a.rows.zip b.rows).all fun (x, y) => Row.equal x y

end RowBatch

end Columnar
