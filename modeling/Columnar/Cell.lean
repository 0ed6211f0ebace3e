import Columnar.Binary64
import Columnar.Bytes
import Columnar.ColumnType

/-!
Cells: the values of a row. A cell that is not null has one column type and fits no other; a null
fits every column. Equality of cells keeps all bits of a number apart, `Cell.equal` compares numbers
as numbers.
-/
namespace Columnar

inductive Cell where
  | null
  | int32 (value : Int32)
  | int64 (value : Int64)
  | float32 (value : UInt32)
  | float64 (value : UInt64)
  | boolean (value : Bool)
  | text (value : String)
  | categorical (value : String)
  | timestamp (millis : Int64)
  | bytes (value : Bytes)
  | blob (value : Bytes)
  deriving DecidableEq, Repr, Inhabited

abbrev Row := List Cell

namespace Cell

def columnType? : Cell → Option ColumnType
  | null => none
  | int32 _ => some .integer32
  | int64 _ => some .int64
  | float32 _ => some .float32
  | float64 _ => some .float64
  | boolean _ => some .boolean
  | text _ => some .text
  | categorical _ => some .categorical
  | timestamp _ => some .timestamp
  | bytes _ => some .bytes
  | blob _ => some .blob

def typeName (cell : Cell) : String :=
  match cell.columnType? with
  | some type => type.hint
  | none => "null"

def fits (cell : Cell) (type : ColumnType) : Bool :=
  match cell.columnType? with
  | some own => own = type
  | none => true

def isNull : Cell → Bool
  | null => true
  | _ => false

def toBinary64? : Cell → Option UInt64
  | int32 value => some (Binary64.ofInt value.toInt)
  | int64 value => some (Binary64.ofInt value.toInt)
  | float32 value => some (Binary64.ofBinary32 value)
  | float64 value => some value
  | _ => none

/-- Equality of cells with numbers compared as numbers: no NaN equals itself, the zeros are equal. -/
def equal : Cell → Cell → Bool
  | float32 a, float32 b => Binary32.equal a b
  | float64 a, float64 b => Binary64.equal a b
  | a, b => a = b

end Cell

def Row.equal (a b : Row) : Bool :=
  a.length = b.length && (a.zip b).all fun (x, y) => x.equal y

end Columnar
