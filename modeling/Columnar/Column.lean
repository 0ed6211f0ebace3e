import Columnar.Cell
import Columnar.Error

/-!
Columns. The data of a column is one list of slots of one storage, a slot being empty where the
column is null. A `Column` adds a name and a column type of that storage, and `Column.cell` reads a
slot as a cell of the type.
-/
namespace Columnar

inductive ColumnData where
  | int32 (slots : List (Option Int32))
  | int64 (slots : List (Option Int64))
  | float32 (slots : List (Option UInt32))
  | float64 (slots : List (Option UInt64))
  | boolean (slots : List (Option Bool))
  | utf8 (slots : List (Option String))
  | timestampMillis (slots : List (Option Int64))
  | binary (slots : List (Option Bytes))
  deriving DecidableEq, Repr

namespace ColumnData

def storage : ColumnData → StorageType
  | int32 _ => .int32
  | int64 _ => .int64
  | float32 _ => .float32
  | float64 _ => .float64
  | boolean _ => .boolean
  | utf8 _ => .utf8
  | timestampMillis _ => .timestampMillis
  | binary _ => .binary

def length : ColumnData → Nat
  | int32 slots => slots.length
  | int64 slots => slots.length
  | float32 slots => slots.length
  | float64 slots => slots.length
  | boolean slots => slots.length
  | utf8 slots => slots.length
  | timestampMillis slots => slots.length
  | binary slots => slots.length

def validity : ColumnData → List Bool
  | int32 slots => slots.map (·.isSome)
  | int64 slots => slots.map (·.isSome)
  | float32 slots => slots.map (·.isSome)
  | float64 slots => slots.map (·.isSome)
  | boolean slots => slots.map (·.isSome)
  | utf8 slots => slots.map (·.isSome)
  | timestampMillis slots => slots.map (·.isSome)
  | binary slots => slots.map (·.isSome)

def nullCount (data : ColumnData) : Nat :=
  data.validity.count false

def nulls (storage : StorageType) (count : Nat) : ColumnData :=
  match storage with
  | .int32 => .int32 (List.replicate count none)
  | .int64 => .int64 (List.replicate count none)
  | .float32 => .float32 (List.replicate count none)
  | .float64 => .float64 (List.replicate count none)
  | .boolean => .boolean (List.replicate count none)
  | .utf8 => .utf8 (List.replicate count none)
  | .timestampMillis => .timestampMillis (List.replicate count none)
  | .binary => .binary (List.replicate count none)

def textCell (type : ColumnType) (text : String) : Cell :=
  if type = .categorical then .categorical text else .text text

def bytesCell (type : ColumnType) (bytes : Bytes) : Cell :=
  if type = .blob then .blob bytes else .bytes bytes

def slotCell {α : Type} (toCell : α → Cell) (slots : List (Option α)) (row : Nat) : Option Cell :=
  slots[row]?.map fun slot => slot.elim Cell.null toCell

def cell? (type : ColumnType) (data : ColumnData) (row : Nat) : Option Cell :=
  match data with
  | int32 slots => slotCell .int32 slots row
  | int64 slots => slotCell .int64 slots row
  | float32 slots => slotCell .float32 slots row
  | float64 slots => slotCell .float64 slots row
  | boolean slots => slotCell .boolean slots row
  | utf8 slots => slotCell (textCell type) slots row
  | timestampMillis slots => slotCell .timestamp slots row
  | binary slots => slotCell (bytesCell type) slots row

/-- The cells as slots: what `value?` gives for each, nothing for a null; otherwise the first row
whose cell has no value, with that cell. -/
def collect {α : Type} (value? : Cell → Option α) :
    Nat → List Cell → Except (Nat × Cell) (List (Option α))
  | _, [] => .ok []
  | row, cell :: rest =>
    if cell.isNull then (collect value? (row + 1) rest).map (none :: ·)
    else match value? cell with
      | some value => (collect value? (row + 1) rest).map (some value :: ·)
      | none => .error (row, cell)

/-- The data of a column of the given type with the given cells; otherwise the first row whose cell
does not belong to the type. -/
def ofCells (type : ColumnType) (cells : List Cell) : Except (Nat × Cell) ColumnData :=
  match type with
  | .integer32 =>
    (collect (fun | .int32 value => some value | _ => none) 0 cells).map .int32
  | .int64 =>
    (collect (fun | .int64 value => some value | _ => none) 0 cells).map .int64
  | .float32 =>
    (collect (fun | .float32 value => some value | _ => none) 0 cells).map .float32
  | .float64 =>
    (collect (fun | .float64 value => some value | _ => none) 0 cells).map .float64
  | .boolean =>
    (collect (fun | .boolean value => some value | _ => none) 0 cells).map .boolean
  | .text =>
    (collect (fun | .text value => some value | _ => none) 0 cells).map .utf8
  | .categorical =>
    (collect (fun | .categorical value => some value | _ => none) 0 cells).map .utf8
  | .timestamp =>
    (collect (fun | .timestamp value => some value | _ => none) 0 cells).map .timestampMillis
  | .bytes =>
    (collect (fun | .bytes value => some value | _ => none) 0 cells).map .binary
  | .blob =>
    (collect (fun | .blob value => some value | _ => none) 0 cells).map .binary

private theorem exists_of_map_eq_ok {ε α β : Type} {f : α → β} {x : Except ε α} {b : β}
    (mapped : x.map f = .ok b) : ∃ a, f a = b := by
  cases x with
  | error e => cases mapped
  | ok a => exact ⟨a, Except.ok.inj mapped⟩

theorem storage_ofCells {type : ColumnType} {cells : List Cell} {data : ColumnData}
    (built : ofCells type cells = .ok data) : data.storage = type.storage := by
  cases type <;> obtain ⟨slots, rfl⟩ := exists_of_map_eq_ok built <;> rfl

theorem storage_nulls (storage : StorageType) (count : Nat) :
    (nulls storage count).storage = storage := by
  cases storage <;> rfl

end ColumnData

structure Column where
  name : String
  type : ColumnType
  data : ColumnData
  stored : data.storage = type.storage
  deriving DecidableEq, Repr

namespace Column

def ofData (name : String) (type : ColumnType) (data : ColumnData) :
    Except ConversionError Column :=
  if stored : data.storage = type.storage then .ok ⟨name, type, data, stored⟩
  else .error (.unsupportedDataType name data.storage.dataType)

def length (column : Column) : Nat :=
  column.data.length

def isEmpty (column : Column) : Bool :=
  column.length = 0

def nullCount (column : Column) : Nat :=
  column.data.nullCount

def cell (column : Column) (row : Nat) : Except ConversionError Cell :=
  match column.data.cell? column.type row with
  | some cell => .ok cell
  | none => .error (.indexOutOfRange column.name row column.length)

end Column

end Columnar
