import Columnar.Column

/-!
Ways to make a column: of cells, of values of one native kind, or of nulls only. The texts and byte strings
of a column may be of any length here, also of more than 2 ^ 31 bytes in all, where signed offsets cannot
divide them any more.
-/
namespace Columnar

inductive NativeValues where
  | int32 (values : List Int32)
  | int64 (values : List Int64)
  | float32 (values : List UInt32)
  | float64 (values : List UInt64)
  | boolean (values : List Bool)
  | text (values : List String)
  | bytes (values : List Bytes)
  deriving DecidableEq, Repr

namespace NativeValues

def type : NativeValues → ColumnType
  | int32 _ => .integer32
  | int64 _ => .int64
  | float32 _ => .float32
  | float64 _ => .float64
  | boolean _ => .boolean
  | text _ => .text
  | bytes _ => .bytes

def data : NativeValues → ColumnData
  | int32 values => .int32 (values.map some)
  | int64 values => .int64 (values.map some)
  | float32 values => .float32 (values.map some)
  | float64 values => .float64 (values.map some)
  | boolean values => .boolean (values.map some)
  | text values => .utf8 (values.map some)
  | bytes values => .binary (values.map some)

theorem storage_data (values : NativeValues) : values.data.storage = values.type.storage := by
  cases values <;> rfl

end NativeValues

namespace Column

def nulls (name : String) (type : ColumnType) (count : Nat) : Column :=
  ⟨name, type, ColumnData.nulls type.storage count, ColumnData.storage_nulls _ _⟩

def ofCells (position : Nat) (name : String) (type : ColumnType) (cells : List Cell) :
    Except ConversionError Column :=
  match built : ColumnData.ofCells type cells with
  | .ok data => .ok ⟨name, type, data, ColumnData.storage_ofCells built⟩
  | .error (row, cell) => .error (.typeCoercion row position name type cell.typeName)

def ofNative (name : String) (values : NativeValues) : Column :=
  ⟨name, values.type, values.data, values.storage_data⟩

def ofTimestamps (name : String) (millis : List Int64) : Column :=
  ⟨name, .timestamp, .timestampMillis (millis.map some), rfl⟩

end Column

/-- The bytes that a column's values take, without those that say where each begins. -/
def ColumnData.valueBytes : ColumnData → Nat
  | int32 slots => 4 * slots.length
  | int64 slots => 8 * slots.length
  | float32 slots => 4 * slots.length
  | float64 slots => 8 * slots.length
  | boolean slots => (slots.length + 7) / 8
  | utf8 slots => (slots.map fun slot => (slot.elim 0 (·.utf8ByteSize))).sum
  | timestampMillis slots => 8 * slots.length
  | binary slots => (slots.map fun slot => (slot.elim 0 (·.length))).sum

/-- A size for a column: its values, a bit and an offset per slot, and a fixed part for the column
itself. -/
def Column.nominalBytes (column : Column) : Nat :=
  128 + (column.length + 7) / 8 + 4 * column.length + column.data.valueBytes

namespace NominalFootprint

/-- One way to count a column, to run operations with. What a column really counts for is up to how its
memory came about, which a column does not tell: one that was read shares the memory of its batch. So
nothing but runs on given inputs makes use of it. -/
scoped instance : Footprint Column where
  bytes column := UInt64.ofNat column.nominalBytes

end NominalFootprint

end Columnar
