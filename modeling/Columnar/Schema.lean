import Columnar.Dictionary.Encoding

/-!
Schemas. A `TableSchema` lists the columns of a table: name, column type and declared dictionary
encoding. A `FileSchema` lists the fields of a file. `TableSchema.toFile` and `TableSchema.ofFile`
go from one to the other.
-/
namespace Columnar

structure ColumnSpec where
  name : String
  type : ColumnType
  dictionary : Option DictionaryEncoding
  deriving DecidableEq, Repr, Inhabited

structure TableSchema where
  columns : List ColumnSpec
  deriving DecidableEq, Repr, Inhabited

structure FileSchema where
  fields : List Field
  metadata : Metadata

namespace ColumnSpec

def toField (column : ColumnSpec) : Field :=
  let field := Field.ofColumn column.name column.type
  match column.dictionary with
  | some encoding => encoding.annotate field false
  | none => field

def ofField (field : Field) : Except ConversionError ColumnSpec := do
  let type ← field.columnType
  match DictionaryEncoding.declared field with
  | .ok dictionary => .ok ⟨field.name, type, dictionary⟩
  | .error cause => .error (.malformedInput cause)

end ColumnSpec

namespace TableSchema

def empty : TableSchema :=
  ⟨[]⟩

def addColumn (schema : TableSchema) (name : String) (type : ColumnType)
    (dictionary : Option DictionaryEncoding) : TableSchema :=
  ⟨schema.columns ++ [⟨name, type, dictionary⟩]⟩

def width (schema : TableSchema) : Nat :=
  schema.columns.length

def names (schema : TableSchema) : List String :=
  schema.columns.map (·.name)

def types (schema : TableSchema) : List ColumnType :=
  schema.columns.map (·.type)

def indexOf? (schema : TableSchema) (name : String) : Option Nat :=
  schema.columns.findIdx? (·.name = name)

def fields (schema : TableSchema) : List Field :=
  schema.columns.map ColumnSpec.toField

def toFile (schema : TableSchema) : FileSchema :=
  ⟨schema.fields, ∅⟩

def ofFile (schema : FileSchema) : Except ConversionError TableSchema := do
  let columns ← schema.fields.mapM ColumnSpec.ofField
  .ok ⟨columns⟩

end TableSchema

/-- The bytes one row takes in a column of the given type. Texts and byte strings count their offset,
a truth value counts a byte. -/
def DataType.rowWidth : DataType → Nat
  | .boolean | .int8 | .uint8 => 1
  | .int16 | .uint16 | .float16 => 2
  | .int32 | .uint32 | .float32 | .date32 | .utf8 | .binary => 4
  | _ => 8

namespace FileSchema

def rowWidth (schema : FileSchema) : Nat :=
  (schema.fields.map (·.dataType.rowWidth)).sum

def isMatrixCompatible (schema : FileSchema) : Bool :=
  schema.fields.all fun field =>
    match field.columnType with
    | .ok type => type.isNumeric
    | .error _ => false

def field? (schema : FileSchema) (name : String) : Option Field :=
  schema.fields.find? (·.name = name)

def project (schema : FileSchema) (names : List String) : Except ConversionError FileSchema := do
  let count := schema.fields.length
  let fields ← names.mapM fun name =>
    match schema.field? name with
    | some field => .ok field
    | none => .error (.indexOutOfRange s!"column '{name}'" count count)
  .ok ⟨fields, schema.metadata⟩

end FileSchema

end Columnar
