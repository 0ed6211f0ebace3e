import Columnar.Dictionary.Provider
import Columnar.Ipc.File
import Columnar.Operation

/-!
Writing a row batch as a file. Everything that can fail without the sink is settled first, in `plan`:
the alignment, the columns, the room in the arena and the dictionary encodings. Then the file is
written, and only when it is complete are the columns placed in the arena.
-/
namespace Columnar

/-- How a file is written: at which alignment, and whether its fields name their column types. -/
structure WriteOptions where
  alignment : Nat
  typeHints : Bool
  deriving DecidableEq, Repr

namespace WriteOptions

def standard : WriteOptions :=
  ⟨64, true⟩

def alignments : List Nat :=
  [8, 16, 32, 64]

def check (options : WriteOptions) : Except ConversionError Unit :=
  if options.alignment ∈ alignments then .ok ()
  else .error (.format (.invalidArgument "Alignment should be 8, 16, 32, or 64."))

end WriteOptions

namespace TableFile

structure Plan where
  contents : Ipc.FileContents
  columns : List Column
  dictionaries : DictionaryProvider

/-- The fields of a schema as a file shows them before their encodings are recorded. -/
def plainFields (schema : TableSchema) (typeHints : Bool) : List Field :=
  if typeHints then schema.fields else schema.fields.map Field.withoutHint

def writtenField (field : Field) (column : Column) : Ipc.WrittenField :=
  ⟨field.name, column.type.storage, field.metadata⟩

/-- Settles what is to be written. -/
def plan [Footprint Column] (arena : ColumnArena) (batch : RowBatch) (options : WriteOptions) :
    Conversion Plan := do
  options.check
  let fields := plainFields batch.schema options.typeHints
  let columns ← Transpose.tracedColumns batch.schema batch.rows
  (arena.ensureRoom (Arena.plainFootprint columns)).mapError ConversionError.allocation
  let dictionaries ← DictionaryProvider.tracedBuild columns fields
  let annotated := dictionaries.annotateFields fields
  pure ⟨⟨options.alignment, List.zipWith writtenField annotated columns, batch.numRows,
    columns.map (·.data)⟩, columns, dictionaries⟩

end TableFile

structure WriteOutcome (σ : Type) where
  arena : ColumnArena
  sink : σ
  events : List Event
  result : Except ConversionError (List Handle)

namespace TableFile

def keep {σ : Type} [Footprint Column] (arena : ColumnArena) (state : σ) (events : List Event)
    (columns : List Column) : WriteOutcome σ :=
  let stored := Operation.storeAll columns arena
  ⟨stored.arena, state, events, stored.result⟩

def write {σ : Type} [Footprint Column] (sink : Sink σ) (arena : ColumnArena) (batch : RowBatch)
    (options : WriteOptions) (state : σ) : WriteOutcome σ :=
  let planned := plan arena batch options
  match planned.result with
  | .error e => ⟨arena, state, planned.events, .error e⟩
  | .ok plan =>
    match sink.emit state plan.contents.emissions with
    | (.error cause, state) =>
      ⟨arena, state, planned.events, .error (.ofFormat (.io cause))⟩
    | (.ok (), state) =>
      let framed := Event.framed batch.numRows plan.columns.length plan.dictionaries.size
      keep arena state (planned.events ++ [framed]) plan.columns

def writeBytes [Footprint Column] (arena : ColumnArena) (batch : RowBatch)
    (options : WriteOptions) : WriteOutcome Bytes :=
  write Sink.memory arena batch options []

end TableFile

end Columnar
