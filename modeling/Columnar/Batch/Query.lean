import Columnar.Batch

/-!
Questions to a column batch. A question is answered from the arena that owns the columns; the last one
releases that arena.
-/
namespace Columnar

inductive BatchQuery where
  | info
  | column (position : Nat)
  | columns
  | cell (row position : Nat)
  | row (index : Nat)
  | rows
  | matrix
  | dictionary (id : Int64)
  | release
  deriving DecidableEq, Repr

inductive BatchAnswer where
  | info (arena : ColumnArena)
  | column (column : Column)
  | columns (columns : List Column)
  | cell (cell : Cell)
  | row (row : Row)
  | rows (batch : RowBatch)
  | matrix (matrix : Matrix)
  | dictionary (entry : Option DictionaryEntry)
  | released (arena : ColumnArena)

namespace ColumnBatch

def answer (batch : ColumnBatch) (arena : ColumnArena) : BatchQuery → Conversion BatchAnswer
  | .info => pure (.info arena)
  | .column position => do pure (.column (← batch.column arena position))
  | .columns => do pure (.columns (← batch.columns arena))
  | .cell row position => do pure (.cell (← batch.cell arena row position))
  | .row index => do pure (.row (← batch.row arena index))
  | .rows => do pure (.rows (← batch.toRowBatch arena))
  | .matrix => do pure (.matrix (← batch.toMatrix arena))
  | .dictionary id => pure (.dictionary (batch.dictionaries.get? id))
  | .release => pure (.released arena.release)

def query (batch : ColumnBatch) (question : BatchQuery) : Operation ConversionError BatchAnswer :=
  fun arena =>
    let answered := batch.answer arena question
    let left := if question = .release then arena.release else arena
    ⟨left, answered.events, answered.result⟩

/-- Answers questions in turn; each answer stands beside the events on the way to it. -/
def queries (batch : ColumnBatch) : ColumnArena → List BatchQuery →
    ColumnArena × List (Conversion BatchAnswer)
  | arena, [] => (arena, [])
  | arena, question :: rest =>
    let done := batch.query question arena
    let (left, answers) := batch.queries done.arena rest
    (left, ⟨done.events, done.result⟩ :: answers)

end ColumnBatch

end Columnar
