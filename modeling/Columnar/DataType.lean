import Columnar.ColumnType
import Columnar.Metadata
import Columnar.Text.Quoted

/-!
The data types a file may give its columns, and the fields that carry them. Only the types that some
`StorageType` stands for can be converted; the others are here because a file may have them and a
message then has to name them. `DataType.describe` writes a type as messages show it.
-/
namespace Columnar

inductive TimeUnit where
  | second
  | millisecond
  | microsecond
  | nanosecond
  deriving DecidableEq, Repr, Inhabited

inductive IntervalUnit where
  | yearMonth
  | dayTime
  | monthDayNano
  deriving DecidableEq, Repr, Inhabited

inductive UnionMode where
  | sparse
  | dense
  deriving DecidableEq, Repr, Inhabited

mutual

inductive DataType where
  | null
  | boolean
  | int8
  | int16
  | int32
  | int64
  | uint8
  | uint16
  | uint32
  | uint64
  | float16
  | float32
  | float64
  | timestamp (unit : TimeUnit) (zone : Option String)
  | date32
  | date64
  | time32 (unit : TimeUnit)
  | time64 (unit : TimeUnit)
  | duration (unit : TimeUnit)
  | interval (unit : IntervalUnit)
  | binary
  | fixedSizeBinary (width : Int)
  | largeBinary
  | binaryView
  | utf8
  | largeUtf8
  | utf8View
  | list (item : Field)
  | fixedSizeList (item : Field) (size : Int)
  | largeList (item : Field)
  | struct (fields : List Field)
  | union (members : List (Int × Field)) (mode : UnionMode)
  | dictionary (key value : DataType)
  | decimal128 (precision scale : Int)
  | decimal256 (precision scale : Int)
  | map (entries : Field) (sorted : Bool)
  | runEndEncoded (ends values : Field)

/-- A named column of a file: its type, whether its slots may be null, the dictionary a
dictionary-coded column refers to, and its metadata. -/
structure Field where
  name : String
  dataType : DataType
  nullable : Bool
  dictionaryId : Int64
  dictionaryOrdered : Bool
  metadata : Metadata

end

deriving instance BEq for DataType, Field

instance : Inhabited DataType := ⟨.null⟩

namespace TimeUnit

def describe : TimeUnit → String
  | second => "Second"
  | millisecond => "Millisecond"
  | microsecond => "Microsecond"
  | nanosecond => "Nanosecond"

end TimeUnit

namespace IntervalUnit

def describe : IntervalUnit → String
  | yearMonth => "YearMonth"
  | dayTime => "DayTime"
  | monthDayNano => "MonthDayNano"

end IntervalUnit

namespace UnionMode

def describe : UnionMode → String
  | sparse => "Sparse"
  | dense => "Dense"

end UnionMode

def Metadata.describe (metadata : Metadata) : String :=
  let entries := metadata.entries.map fun (key, value) =>
    Quoted.quote key ++ ": " ++ Quoted.quote value
  "\x7b" ++ ", ".intercalate entries ++ "\x7d"

mutual

def DataType.describe : DataType → String
  | .null => "Null"
  | .boolean => "Boolean"
  | .int8 => "Int8"
  | .int16 => "Int16"
  | .int32 => "Int32"
  | .int64 => "Int64"
  | .uint8 => "UInt8"
  | .uint16 => "UInt16"
  | .uint32 => "UInt32"
  | .uint64 => "UInt64"
  | .float16 => "Float16"
  | .float32 => "Float32"
  | .float64 => "Float64"
  | .timestamp unit none => s!"Timestamp({unit.describe}, None)"
  | .timestamp unit (some zone) => s!"Timestamp({unit.describe}, Some({Quoted.quote zone}))"
  | .date32 => "Date32"
  | .date64 => "Date64"
  | .time32 unit => s!"Time32({unit.describe})"
  | .time64 unit => s!"Time64({unit.describe})"
  | .duration unit => s!"Duration({unit.describe})"
  | .interval unit => s!"Interval({unit.describe})"
  | .binary => "Binary"
  | .fixedSizeBinary width => s!"FixedSizeBinary({width})"
  | .largeBinary => "LargeBinary"
  | .binaryView => "BinaryView"
  | .utf8 => "Utf8"
  | .largeUtf8 => "LargeUtf8"
  | .utf8View => "Utf8View"
  | .list item => s!"List({item.describe})"
  | .fixedSizeList item size => s!"FixedSizeList({item.describe}, {size})"
  | .largeList item => s!"LargeList({item.describe})"
  | .struct fields => "Struct([" ++ ", ".intercalate (Field.describeAll fields) ++ "])"
  | .union members mode =>
    "Union([" ++ ", ".intercalate (Field.describeMembers members) ++ "], " ++ mode.describe ++ ")"
  | .dictionary key value => s!"Dictionary({key.describe}, {value.describe})"
  | .decimal128 precision scale => s!"Decimal128({precision}, {scale})"
  | .decimal256 precision scale => s!"Decimal256({precision}, {scale})"
  | .map entries sorted => s!"Map({entries.describe}, {sorted})"
  | .runEndEncoded ends values => s!"RunEndEncoded({ends.describe}, {values.describe})"

def Field.describe : Field → String
  | ⟨name, dataType, nullable, id, ordered, metadata⟩ =>
    s!"Field \x7b name: {Quoted.quote name}, data_type: {dataType.describe}, " ++
    s!"nullable: {nullable}, dict_id: {id.toInt}, dict_is_ordered: {ordered}, " ++
    s!"metadata: {metadata.describe} \x7d"

def Field.describeAll : List Field → List String
  | [] => []
  | field :: rest => field.describe :: Field.describeAll rest

def Field.describeMembers : List (Int × Field) → List String
  | [] => []
  | (id, field) :: rest => s!"({id}, {field.describe})" :: Field.describeMembers rest

end

def StorageType.dataType : StorageType → DataType
  | int32 => .int32
  | int64 => .int64
  | float32 => .float32
  | float64 => .float64
  | boolean => .boolean
  | utf8 => .utf8
  | timestampMillis => .timestamp .millisecond none
  | binary => .binary

/-- The storage that takes the values of a type over unchanged. A date in milliseconds and a
timestamp in milliseconds of any zone are the same count. -/
def DataType.storage? : DataType → Option StorageType
  | .int32 => some .int32
  | .int64 => some .int64
  | .float32 => some .float32
  | .float64 => some .float64
  | .boolean => some .boolean
  | .utf8 => some .utf8
  | .timestamp .millisecond _ | .date64 => some .timestampMillis
  | .binary => some .binary
  | _ => none

@[simp] theorem StorageType.storage?_dataType (storage : StorageType) :
    storage.dataType.storage? = some storage := by
  cases storage <;> rfl

def ColumnType.dataType (type : ColumnType) : DataType :=
  type.storage.dataType

namespace Field

def plain (name : String) (dataType : DataType) : Field :=
  ⟨name, dataType, true, 0, false, ∅⟩

end Field

end Columnar
