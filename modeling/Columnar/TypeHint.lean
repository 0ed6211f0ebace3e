import Columnar.Error

/-!
Column types on fields. A field made for a column names the column type in its metadata, because
several types are stored alike. Read back, a hint counts if it agrees with the stored form, a field
without a hint has the plain type of its stored form, and a field of any other type has none.
-/
namespace Columnar

namespace TypeHint

def key : String :=
  "colframe:column_type"

end TypeHint

namespace Field

def ofColumn (name : String) (type : ColumnType) : Field :=
  { plain name type.dataType with metadata := Metadata.empty.insert TypeHint.key type.hint }

def withoutHint (field : Field) : Field :=
  { field with metadata := field.metadata.erase TypeHint.key }

def hintedType (field : Field) (storage : StorageType) (hint : String) :
    Except ConversionError ColumnType :=
  match ColumnType.ofHint? hint with
  | none => .error (.unknownTypeHint field.name hint)
  | some type =>
    if type.storage = storage then .ok type
    else .error (.unknownTypeHint field.name s!"{hint} (field is {field.dataType.describe})")

def columnType (field : Field) : Except ConversionError ColumnType :=
  match field.dataType.storage? with
  | none => .error (.unsupportedDataType field.name field.dataType)
  | some storage =>
    match field.metadata.get? TypeHint.key with
    | none => .ok storage.plainType
    | some hint => field.hintedType storage hint

end Field

end Columnar
