import Columnar.Arena
import Columnar.DataType

/-!
Everything that can make a conversion fail. An error is its cause; `ConversionError.message` words
it. A failure inside the file format itself has no text of its own, except for the two that concern
the end of a file.
-/
namespace Columnar

inductive IoKind where
  | unexpectedEnd
  | invalidInput
  | writeZero
  | interrupted
  | other
  deriving DecidableEq, Repr, Inhabited

structure IoError where
  kind : IoKind
  text : String
  deriving DecidableEq, Repr, Inhabited

inductive FormatError where
  /-- The file does not end in the marker. -/
  | footerMarker
  /-- The length of the footer is negative. -/
  | footerLength (length : Int)
  | undecodable
  /-- A read failed, or ended too early. -/
  | io (cause : IoError)
  | external (text : String)
  /-- A failure of a sink or a source, passed on as an error of other origin. -/
  | externalIo (cause : IoError)
  | invalidArgument (text : String)
  | schema (text : String)
  | compute (text : String)
  deriving DecidableEq, Repr

namespace FormatError

def message? : FormatError → Option String
  | footerMarker => some "Parser error: Arrow file does not contain correct footer"
  | footerLength length => some s!"Parser error: Invalid footer length: {length}"
  | undecodable | io _ => none
  | external text => some ("External error: " ++ text)
  | externalIo cause => some ("External error: " ++ cause.text)
  | invalidArgument text => some ("Invalid argument error: " ++ text)
  | schema text => some ("Schema error: " ++ text)
  | compute text => some ("Compute error: " ++ text)

end FormatError

inductive Malformation where
  | dictionaryId (field text : String)
  | dictionaryOrdering (field text : String)
  | dictionaryClash (id : Int64) (first second : Nat)
  | fieldCount (columns fields : Nat)
  | unequalColumn (column : String) (rows expected : Nat)
  | matrixColumn (column : String) (rows needed : Nat)
  | batchColumn (column : String) (rows declared : Nat)
  | noRecordBatch
  | format (cause : FormatError)
  | other (text : String)
  deriving DecidableEq, Repr

namespace Malformation

def message? : Malformation → Option String
  | dictionaryId field text => some s!"field '{field}' has dictionary id '{text}'"
  | dictionaryOrdering field text => some s!"field '{field}' has dictionary ordering '{text}'"
  | dictionaryClash id first second =>
    some s!"dictionary id {id.toInt} is declared by both column {first} and column {second}"
  | fieldCount columns fields => some s!"{columns} columns but {fields} fields"
  | unequalColumn column rows expected =>
    some s!"column '{column}' has {rows} rows, expected {expected}"
  | matrixColumn column rows needed =>
    some s!"column '{column}' has {rows} rows, matrix needs {needed}"
  | batchColumn column rows declared =>
    some s!"column '{column}' has {rows} rows, batch declares {declared}"
  | noRecordBatch => some "file contains no record batch"
  | format cause => cause.message?
  | other text => some text

end Malformation

inductive ConversionError where
  | unsupportedColumnType (column : String) (type : ColumnType)
  | unsupportedDataType (field : String) (dataType : DataType)
  | unknownTypeHint (field hint : String)
  | typeCoercion (row column : Nat) (name : String) (expected : ColumnType) (actual : String)
  | rowWidth (row expected actual : Nat)
  | indexOutOfRange (target : String) (index length : Nat)
  | malformedInput (cause : Malformation)
  | io (cause : IoError)
  | allocation (cause : ArenaError)
  | format (cause : FormatError)

namespace ConversionError

def message? : ConversionError → Option String
  | unsupportedColumnType column type =>
    some s!"unsupported column type {type.name} for column '{column}'"
  | unsupportedDataType field dataType =>
    some s!"unsupported Arrow type {dataType.describe} for field '{field}'"
  | unknownTypeHint field hint => some s!"unknown column type hint '{hint}' on field '{field}'"
  | typeCoercion row column name expected actual =>
    some s!"row {row}, column {column} ('{name}'): expected {expected.name}, got {actual}"
  | rowWidth row expected actual =>
    some s!"row {row} has {actual} values but the schema has {expected} columns"
  | indexOutOfRange target index length =>
    some s!"index {index} out of range for '{target}' with length {length}"
  | malformedInput cause => cause.message?.map ("malformed input: " ++ ·)
  | io cause => some ("I/O error: " ++ cause.text)
  | allocation cause => some ("allocation failed: " ++ cause.message)
  | format cause => cause.message?.map ("Arrow error: " ++ ·)

def isUnsupportedType : ConversionError → Bool
  | unsupportedColumnType .. | unsupportedDataType .. | unknownTypeHint .. => true
  | _ => false

def isTypeCoercion : ConversionError → Bool
  | typeCoercion .. | rowWidth .. => true
  | _ => false

/-- A failure of the format met while writing: one of the sink is an I/O error. -/
def ofFormat : FormatError → ConversionError
  | .io cause | .externalIo cause => .io cause
  | cause => .format cause

/-- A failure of the format met while reading: one of the source is an I/O error, unless it says
that the bytes are too few or lie elsewhere. -/
def ofRead : FormatError → ConversionError
  | .io cause =>
    if cause.kind = .unexpectedEnd ∨ cause.kind = .invalidInput then
      .malformedInput (.format (.io cause))
    else .io cause
  | cause => .malformedInput (.format cause)

instance : MonadLift (Except ArenaError) (Except ConversionError) where
  monadLift
    | .ok value => .ok value
    | .error cause => .error (.allocation cause)

end ConversionError

end Columnar
