import Columnar.Batch
import Columnar.Ipc.FileReader

/-!
Reading a file as a column batch: its schema as a table schema, its first record batch as columns, and
the dictionary encodings of its fields. The columns are placed in the arena at the very end, so that
a failed read leaves the arena as it was.
-/
namespace Columnar

inductive ReadFailure where
  | failed (cause : ConversionError)
  /-- The file made the reader stop without an error. -/
  | aborted

namespace ReadFailure

def ofFault : Ipc.Fault → ReadFailure
  | .rejected cause => .failed (.ofRead cause)
  | .aborted => .aborted

end ReadFailure

abbrev Reading (α : Type) := Traced ReadFailure α

namespace Reading

def ofDecoded {α : Type} (decoded : Ipc.Decoded α) : Reading α :=
  .ofExcept (decoded.mapError ReadFailure.ofFault)

def ofExcept {α : Type} (result : Except ConversionError α) : Reading α :=
  Traced.ofExcept (result.mapError ReadFailure.failed)

end Reading

namespace TableFile

structure Contents where
  schema : TableSchema
  rows : Nat
  columns : List Column
  dictionaries : DictionaryProvider

def storageOf (field : Field) : Except ConversionError (StorageType × Bool) :=
  match field.dataType.storage? with
  | some storage => .ok (storage, field.nullable)
  | none => .error (.unsupportedDataType field.name field.dataType)

def columnOf (field : Field) (spec : ColumnSpec) (data : ColumnData) : Reading Column := do
  if field.dataType != spec.type.dataType then
    Traced.report (.casting field.name field.dataType spec.type.dataType)
  Reading.ofExcept (Column.ofData field.name spec.type data)

def columnsOf : List Field → List ColumnSpec → List ColumnData → Reading (List Column)
  | field :: fields, spec :: specs, data :: rest => do
    let column ← columnOf field spec data
    let columns ← columnsOf fields specs rest
    pure (column :: columns)
  | _, _, _ => pure []

def warnOfMany (batches : List Ipc.FileBlock) : Reading Unit :=
  if 1 < batches.length then Traced.report (.manyBatches batches.length) else pure ()

/-- Reads what a file holds, each flatbuffer of it within a budget. -/
def contents (budget : Flatbuffer.Budget) (source : Source) : Reading Contents := do
  let reader ← Reading.ofDecoded (Ipc.FileReader.openSource budget source)
  let schema ← Reading.ofExcept (TableSchema.ofFile reader.schema)
  warnOfMany reader.batches
  let storages ← Reading.ofExcept (reader.schema.fields.mapM storageOf)
  match ← Reading.ofDecoded (reader.firstBatch? storages) with
  | none => Reading.ofExcept (.error (.malformedInput .noRecordBatch))
  | some batch => do
    let columns ← columnsOf reader.schema.fields schema.columns batch.columns
    let built := DictionaryProvider.tracedBuild columns reader.schema.fields
    let dictionaries ← (⟨built.events, built.result.mapError .failed⟩ : Reading DictionaryProvider)
    pure ⟨schema, batch.rows, columns, dictionaries⟩

def readWithin [Footprint Column] (budget : Flatbuffer.Budget) (source : Source) :
    Operation ReadFailure ColumnBatch := do
  let contents ← contents budget source
  let handles ← (Operation.storeAll contents.columns).mapError .failed
  Operation.report (.parsed contents.rows handles.length)
  pure ⟨← Operation.arenaId, contents.schema, handles, contents.rows, contents.dictionaries⟩

def read [Footprint Column] (source : Source) : Operation ReadFailure ColumnBatch :=
  readWithin .full source

def readBytes [Footprint Column] (bytes : Bytes) : Operation ReadFailure ColumnBatch :=
  read (Source.ofBytes bytes)

end TableFile

end Columnar
