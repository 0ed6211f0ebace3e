import Columnar.Dictionary.Provider
import Columnar.Matrix
import Columnar.Operation

/-!
Column batches: a schema, the handles of one column for each of its columns, a row count and the
dictionary encodings. The columns stay in the arena that owns them, so every access asks that arena
and fails once it has been released.
-/
namespace Columnar

structure ColumnBatch where
  arena : Nat
  schema : TableSchema
  handles : List Handle
  rowCount : Nat
  dictionaries : DictionaryProvider
  deriving DecidableEq, Repr

namespace ColumnBatch

def ofRows [Footprint Column] (batch : RowBatch) : Operation ConversionError ColumnBatch := do
  let handles ← Operation.placeRows batch.schema batch.rows
  let columns ← Operation.fetchAll handles
  let dictionaries ← DictionaryProvider.tracedBuild columns batch.schema.fields
  pure ⟨← Operation.arenaId, batch.schema, handles, batch.numRows, dictionaries⟩

def width (batch : ColumnBatch) : Nat :=
  batch.handles.length

def column (batch : ColumnBatch) (arena : ColumnArena) (position : Nat) :
    Except ConversionError Column :=
  match batch.handles[position]? with
  | none => .error (.indexOutOfRange "columns" position batch.width)
  | some handle => (arena.get handle).mapError .allocation

def columns (batch : ColumnBatch) (arena : ColumnArena) : Except ConversionError (List Column) :=
  (List.range batch.width).mapM (batch.column arena)

def cell (batch : ColumnBatch) (arena : ColumnArena) (row position : Nat) :
    Except ConversionError Cell := do
  let column ← batch.column arena position
  column.cell row

def row (batch : ColumnBatch) (arena : ColumnArena) (index : Nat) : Except ConversionError Row := do
  if batch.rowCount ≤ index then .error (.indexOutOfRange "rows" index batch.rowCount)
  else
    let columns ← batch.columns arena
    Transpose.rowOfColumns columns index

/-- All rows at once. A count of rows without columns is taken as it is: `Matrix.maxEntries` bounds a matrix,
nothing bounds a list of empty rows. -/
def toRowBatch (batch : ColumnBatch) (arena : ColumnArena) : Except ConversionError RowBatch := do
  let columns ← batch.columns arena
  let rows ← Transpose.rowsUpTo columns batch.rowCount
  RowBatch.ofRows batch.schema rows

def toMatrix (batch : ColumnBatch) (arena : ColumnArena) : Conversion Matrix := do
  let columns ← batch.columns arena
  Matrix.tracedWithRows columns batch.rowCount

end ColumnBatch

end Columnar
