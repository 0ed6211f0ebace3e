import Columnar.TableFile.Read
import Columnar.TableFile.Write

/-!
The converter: one configuration for conversions between rows, columns, files and matrices. Every
conversion gets an arena of its own with the configured budget, and an error comes with the stage at
which it arose.
-/
namespace Columnar

structure ConverterConfig where
  arenaCapacity : UInt64
  alignment : Nat
  typeHints : Bool
  deriving DecidableEq, Repr

namespace ConverterConfig

/-- The customary configuration: one gibibyte for an arena, and the customary way to write. -/
def standard : ConverterConfig :=
  ⟨1073741824, WriteOptions.standard.alignment, WriteOptions.standard.typeHints⟩

def writeOptions (config : ConverterConfig) : WriteOptions :=
  ⟨config.alignment, config.typeHints⟩

end ConverterConfig

inductive ConfigError where
  | alignment (given : Nat)
  | noCapacity
  deriving DecidableEq, Repr

def ConfigError.message : ConfigError → String
  | alignment given => s!"ipc_alignment must be 8, 16, 32 or 64, got {given}"
  | noCapacity => "arena_capacity_bytes must be non-zero"

inductive Stage where
  | validating
  | converting
  | writing (rows : Nat)
  | reading
  | materialising
  deriving DecidableEq, Repr

def Stage.text : Stage → String
  | validating => "Validating rows against schema"
  | converting => "Converting rows to columns"
  | writing rows => s!"Writing batch of {rows} rows"
  | reading => "Reading Arrow IPC batch"
  | materialising => "Materialising matrix"

structure Staged (ε : Type) where
  stage : Stage
  cause : ε

structure Converter where
  config : ConverterConfig
  aligned : config.alignment ∈ WriteOptions.alignments
  roomy : config.arenaCapacity ≠ 0

namespace Converter

def new (config : ConverterConfig) : Except ConfigError Converter :=
  if aligned : config.alignment ∈ WriteOptions.alignments then
    if roomy : config.arenaCapacity = 0 then .error .noCapacity
    else .ok ⟨config, aligned, roomy⟩
  else .error (.alignment config.alignment)

def newArena (converter : Converter) (id : Nat) : ColumnArena :=
  Arena.new id converter.config.arenaCapacity

def batch (schema : TableSchema) (rows : List Row) :
    Except (Staged ConversionError) RowBatch :=
  (RowBatch.ofRows schema rows).mapError (Staged.mk .validating)

def rowsToColumns [Footprint Column] (converter : Converter) (id : Nat) (batch : RowBatch) :
    Outcome (Staged ConversionError) ColumnBatch :=
  (ColumnBatch.ofRows batch).mapError (Staged.mk .converting) (converter.newArena id)

def write {σ : Type} [Footprint Column] (converter : Converter) (sink : Sink σ) (id : Nat)
    (batch : RowBatch) (state : σ) : WriteOutcome σ × Except (Staged ConversionError) Unit :=
  let outcome := TableFile.write sink (converter.newArena id) batch converter.config.writeOptions state
  (outcome, (outcome.result.map fun _ => ()).mapError (Staged.mk (.writing batch.numRows)))

def writeBytes [Footprint Column] (converter : Converter) (id : Nat) (batch : RowBatch) :
    Except (Staged ConversionError) Bytes :=
  let (outcome, result) := converter.write Sink.memory id batch []
  result.map fun _ => outcome.sink

def read [Footprint Column] (converter : Converter) (id : Nat) (source : Source) :
    Outcome (Staged ReadFailure) ColumnBatch :=
  let operation : Operation ReadFailure ColumnBatch := do
    let batch ← TableFile.read source
    Operation.report (.read batch.rowCount batch.width)
    pure batch
  operation.mapError (Staged.mk .reading) (converter.newArena id)

def toMatrix (batch : ColumnBatch) (arena : ColumnArena) :
    Traced (Staged ConversionError) Matrix :=
  let built := batch.toMatrix arena
  ⟨built.events, built.result.mapError (Staged.mk .materialising)⟩

end Converter

end Columnar
