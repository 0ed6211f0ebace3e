/-!
The ten types of a column. Several of them are stored alike, so each has a `hint`, a text that names
it among all (`ofHint?_hint`), and a `storage`, the form its values take in a file.
-/
namespace Columnar

inductive StorageType where
  | int32
  | int64
  | float32
  | float64
  | boolean
  | utf8
  | timestampMillis
  | binary
  deriving DecidableEq, Repr, Inhabited

inductive ColumnType where
  | integer32
  | int64
  | float32
  | float64
  | boolean
  | text
  | categorical
  | timestamp
  | bytes
  | blob
  deriving DecidableEq, Repr, Inhabited

namespace ColumnType

def all : List ColumnType :=
  [integer32, int64, float32, float64, boolean, text, categorical, timestamp, bytes, blob]

def hint : ColumnType → String
  | integer32 => "integer32"
  | int64 => "int64"
  | float32 => "float32"
  | float64 => "float64"
  | boolean => "boolean"
  | text => "string"
  | categorical => "categorical"
  | timestamp => "timestamp_millis"
  | bytes => "bytes"
  | blob => "blob"

def name : ColumnType → String
  | integer32 => "Integer32"
  | int64 => "Int64"
  | float32 => "Float32"
  | float64 => "Float64"
  | boolean => "Boolean"
  | text => "Utf8String"
  | categorical => "CategoricalString"
  | timestamp => "TimestampMillis"
  | bytes => "RawBytes"
  | blob => "OpaqueBlob"

def ofHint? (hint : String) : Option ColumnType :=
  all.find? (·.hint = hint)

def storage : ColumnType → StorageType
  | integer32 => .int32
  | int64 => .int64
  | float32 => .float32
  | float64 => .float64
  | boolean => .boolean
  | text | categorical => .utf8
  | timestamp => .timestampMillis
  | bytes | blob => .binary

def bitWidth? : ColumnType → Option Nat
  | boolean => some 1
  | integer32 | float32 => some 32
  | int64 | float64 | timestamp => some 64
  | text | categorical | bytes | blob => none

def isNumeric : ColumnType → Bool
  | integer32 | int64 | float32 | float64 => true
  | _ => false

theorem mem_all (type : ColumnType) : type ∈ all := by
  cases type <;> decide

@[simp] theorem ofHint?_hint (type : ColumnType) : ofHint? type.hint = some type := by
  cases type <;> decide

theorem hint_of_ofHint? {hint : String} {type : ColumnType} (found : ofHint? hint = some type) :
    type.hint = hint := by
  simpa using List.find?_some found

end ColumnType

def StorageType.plainType : StorageType → ColumnType
  | int32 => .integer32
  | int64 => .int64
  | float32 => .float32
  | float64 => .float64
  | boolean => .boolean
  | utf8 => .text
  | timestampMillis => .timestamp
  | binary => .bytes

@[simp] theorem StorageType.storage_plainType (storage : StorageType) :
    storage.plainType.storage = storage := by
  cases storage <;> rfl

end Columnar
