import Columnar.Transpose

/-!
Operations on an arena of columns. An operation leaves an arena, the events it reported and a
result; it leaves an arena also when it fails, and a sequence stops at the first failure with the
arena as it then is. What a column counts for in the arena is a parameter throughout (`Footprint`).
-/
namespace Columnar

abbrev ColumnArena := Arena Column

structure Outcome (ε α : Type) where
  arena : ColumnArena
  events : List Event
  result : Except ε α

def Operation (ε α : Type) : Type :=
  ColumnArena → Outcome ε α

namespace Operation

variable {ε α β : Type}

def bind (first : Operation ε α) (next : α → Operation ε β) : Operation ε β := fun arena =>
  let done := first arena
  match done.result with
  | .ok value =>
    let rest := next value done.arena
    ⟨rest.arena, done.events ++ rest.events, rest.result⟩
  | .error e => ⟨done.arena, done.events, .error e⟩

instance : Monad (Operation ε) where
  pure value := fun arena => ⟨arena, [], .ok value⟩
  bind := bind

def ofTraced (traced : Traced ε α) : Operation ε α := fun arena =>
  ⟨arena, traced.events, traced.result⟩

instance : MonadLift (Traced ε) (Operation ε) where
  monadLift := ofTraced

instance : MonadLift (Except ε) (Operation ε) where
  monadLift result := ofTraced (Traced.ofExcept result)

def report (event : Event) : Operation ε Unit :=
  ofTraced (Traced.report event)

def arenaId : Operation ε Nat := fun arena =>
  ⟨arena, [], .ok arena.id⟩

def mapError {δ : Type} (f : ε → δ) (operation : Operation ε α) : Operation δ α := fun arena =>
  let done := operation arena
  ⟨done.arena, done.events, done.result.mapError f⟩

def store [Footprint Column] (column : Column) : Operation ConversionError Handle := fun arena =>
  let (result, arena) := arena.insert column
  ⟨arena, [], result.mapError .allocation⟩

def storeAll [Footprint Column] (columns : List Column) :
    Operation ConversionError (List Handle) := fun arena =>
  let (result, arena) := arena.insertAll columns
  ⟨arena, [], result.mapError .allocation⟩

def fetchAll (handles : List Handle) : Operation ConversionError (List Column) := fun arena =>
  ⟨arena, [], (handles.mapM arena.get).mapError .allocation⟩

def allocateNulls [Footprint Column] (name : String) (type : ColumnType) (count : Nat) :
    Operation ConversionError Handle :=
  store (Column.nulls name type count)

def allocateCells [Footprint Column] (name : String) (type : ColumnType) (cells : List Cell) :
    Operation ConversionError Handle := do
  let column ← Column.ofCells 0 name type cells
  store column

def allocateNative [Footprint Column] (name : String) (values : NativeValues) :
    Operation ConversionError Handle :=
  store (Column.ofNative name values)

def allocateTimestamps [Footprint Column] (name : String) (millis : List Int64) :
    Operation ConversionError Handle :=
  store (Column.ofTimestamps name millis)

def placeRows [Footprint Column] (schema : TableSchema) (rows : List Row) :
    Operation ConversionError (List Handle) := do
  let columns ← Transpose.tracedColumns schema rows
  storeAll columns

end Operation

end Columnar
