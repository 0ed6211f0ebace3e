import Columnar.Arena.Run
import Columnar.Batch.Query
import Columnar.Ipc.Description
import Columnar.TableFile.Read
import Columnar.TableFile.Write

/-!
Sessions: runs of operations on shared arenas of columns. Arenas, handles, columns, batches and files
are numbered in the order in which steps made them, and later steps name them by their numbers. A
failed step makes nothing.
-/
namespace Columnar

inductive Allocation where
  | nulls (name : String) (type : ColumnType) (count : Nat)
  | cells (name : String) (type : ColumnType) (cells : List Cell)
  | native (name : String) (values : NativeValues)
  | timestamps (name : String) (millis : List Int64)
  | rows (schema : TableSchema) (rows : List Row)
  deriving Repr

def Allocation.place [Footprint Column] : Allocation → Operation ConversionError (List Handle)
  | .nulls name type count => do pure [← Operation.allocateNulls name type count]
  | .cells name type values => do pure [← Operation.allocateCells name type values]
  | .native name values => do pure [← Operation.allocateNative name values]
  | .timestamps name millis => do pure [← Operation.allocateTimestamps name millis]
  | .rows schema content => Operation.placeRows schema content

inductive SessionFile where
  | written (file : Nat)
  | given (bytes : Bytes)
  deriving Repr

inductive SessionStep where
  | newArena (capacity : UInt64)
  | allocate (arena : Nat) (allocation : Allocation)
  | get (arena handle : Nat)
  | release (arena : Nat)
  | batch (arena : Nat) (schema : TableSchema) (rows : List Row)
  | write (arena : Nat) (schema : TableSchema) (rows : List Row) (options : WriteOptions)
      (sink : LimitedSink)
  | read (arena : Nat) (file : SessionFile)
  | retype (column : Nat) (name : String) (type : ColumnType)
  | cell (column row : Nat)
  | row (columns : List Nat) (row : Nat)
  | rows (columns : List Nat)
  | matrix (columns : List Nat) (rows : Option Nat)
  | dictionaries (columns : List Nat) (fields : List Field)
  | query (batch : Nat) (question : BatchQuery)

inductive SessionAnswer where
  | arena (id : Nat)
  | handles (first : Nat) (handles : List Handle)
  | column (number : Nat) (column : Column)
  | done
  | batch (number : Nat) (batch : ColumnBatch) (arena : ColumnArena)
  | file (number first : Nat) (handles : List Handle) (content : Option Ipc.FileDescription)
  | cell (cell : Cell)
  | row (row : Row)
  | rows (rows : List Row)
  | matrix (matrix : Matrix)
  | dictionaries (provider : DictionaryProvider) (columns : Nat)
  | answered (batch : ColumnBatch) (answer : BatchAnswer)
  | failed (cause : ConversionError)
  /-- A failed write, and whether the sink got no byte. -/
  | unwritten (cause : ConversionError) (untouched : Bool)
  | aborted
  /-- The step names something that there is not. -/
  | unknown

structure Session where
  pool : Pool Column
  handles : List Handle
  columns : List Column
  batches : List ColumnBatch
  files : List Bytes
  events : List Event

namespace Session

def start : Session :=
  ⟨.empty, [], [], [], [], []⟩

def note (session : Session) (arena : ColumnArena) (events : List Event) : Session :=
  { session with
    pool := session.pool.set arena.id arena
    events := session.events ++ events }

def report (session : Session) (events : List Event) : Session :=
  { session with events := session.events ++ events }

def columnsAt? (session : Session) (numbers : List Nat) : Option (List Column) :=
  numbers.mapM fun number => session.columns[number]?

def keepColumn (session : Session) : Except ConversionError Column → SessionAnswer × Session
  | .ok column =>
    (.column session.columns.length column, { session with columns := session.columns ++ [column] })
  | .error cause => (.failed cause, session)

def keepBatch (session : Session) (arena : ColumnArena) (batch : ColumnBatch) :
    SessionAnswer × Session :=
  (.batch session.batches.length batch arena, { session with batches := session.batches ++ [batch] })

def answer {α : Type} (session : Session) (toAnswer : α → SessionAnswer) :
    Conversion α → SessionAnswer × Session
  | ⟨events, .ok value⟩ => (toAnswer value, session.report events)
  | ⟨events, .error cause⟩ => (.failed cause, session.report events)

def write [Footprint Column] (session : Session) (arena : ColumnArena) (schema : TableSchema)
    (rows : List Row) (options : WriteOptions) (limits : LimitedSink) : SessionAnswer × Session :=
  match RowBatch.ofRows schema rows with
  | .error cause => (.failed cause, session)
  | .ok batch =>
    let outcome := TableFile.write limits.sink arena batch options []
    let session := session.note outcome.arena outcome.events
    match outcome.result with
    | .error (.io cause) => (.failed (.io cause), session)
    | .error cause => (.unwritten cause (outcome.sink = []), session)
    | .ok handles =>
      (.file session.files.length session.handles.length handles
          (Ipc.describe? options.alignment outcome.sink),
        { session with
          handles := session.handles ++ handles
          files := session.files ++ [outcome.sink] })

def read [Footprint Column] (session : Session) (arena : ColumnArena) (bytes : Bytes) :
    SessionAnswer × Session :=
  let outcome := TableFile.readBytes bytes arena
  let session := session.note outcome.arena outcome.events
  match outcome.result with
  | .ok batch => session.keepBatch outcome.arena batch
  | .error (.failed cause) => (.failed cause, session)
  | .error .aborted => (.aborted, session)

def stepOn [Footprint Column] (session : Session) (arena : ColumnArena) :
    SessionStep → SessionAnswer × Session
  | .allocate _ allocation =>
    let outcome := allocation.place arena
    let session := session.note outcome.arena outcome.events
    match outcome.result with
    | .ok handles =>
      (.handles session.handles.length handles,
        { session with handles := session.handles ++ handles })
    | .error cause => (.failed cause, session)
  | .get _ number =>
    match session.handles[number]? with
    | none => (.unknown, session)
    | some handle => session.keepColumn ((arena.get handle).mapError .allocation)
  | .release _ => (.done, session.note arena.release [])
  | .batch _ schema rows =>
    match RowBatch.ofRows schema rows with
    | .error cause => (.failed cause, session)
    | .ok batch =>
      let outcome := ColumnBatch.ofRows batch arena
      let session := session.note outcome.arena outcome.events
      match outcome.result with
      | .ok batch => session.keepBatch outcome.arena batch
      | .error cause => (.failed cause, session)
  | .write _ schema rows options limits => session.write arena schema rows options limits
  | .read _ (.written number) =>
    match session.files[number]? with
    | some bytes => session.read arena bytes
    | none => (.unknown, session)
  | .read _ (.given bytes) => session.read arena bytes
  | _ => (.unknown, session)

def step [Footprint Column] (session : Session) : SessionStep → SessionAnswer × Session
  | .newArena capacity =>
    (.arena session.pool.arenas.length, { session with pool := session.pool.addArena capacity })
  | .retype number name type =>
    match session.columns[number]? with
    | some column => session.keepColumn (Column.ofData name type column.data)
    | none => (.unknown, session)
  | .cell number row =>
    match session.columns[number]? with
    | some column => session.answer .cell (.ofExcept (column.cell row))
    | none => (.unknown, session)
  | .row numbers row =>
    match session.columnsAt? numbers with
    | some columns => session.answer .row (.ofExcept (Transpose.rowOfColumns columns row))
    | none => (.unknown, session)
  | .rows numbers =>
    match session.columnsAt? numbers with
    | some columns => session.answer .rows (.ofExcept (Transpose.rowsOfColumns columns))
    | none => (.unknown, session)
  | .matrix numbers rows =>
    match session.columnsAt? numbers, rows with
    | some columns, some rows => session.answer .matrix (Matrix.tracedWithRows columns rows)
    | some columns, none => session.answer .matrix (Matrix.tracedOfColumns columns)
    | none, _ => (.unknown, session)
  | .dictionaries numbers fields =>
    match session.columnsAt? numbers with
    | some columns =>
      session.answer (.dictionaries · columns.length) (DictionaryProvider.tracedBuild columns fields)
    | none => (.unknown, session)
  | .query number question =>
    match session.batches[number]? with
    | none => (.unknown, session)
    | some batch =>
      match session.pool.get? batch.arena with
      | none => (.unknown, session)
      | some arena =>
        let outcome := batch.query question arena
        let session := session.note outcome.arena outcome.events
        match outcome.result with
        | .ok answer => (.answered batch answer, session)
        | .error cause => (.failed cause, session)
  | step@(.allocate id _) | step@(.get id _) | step@(.release id) | step@(.batch id _ _)
  | step@(.write id _ _ _ _) | step@(.read id _) =>
    match session.pool.get? id with
    | some arena => session.stepOn arena step
    | none => (.unknown, session)

def steps [Footprint Column] (session : Session) :
    List SessionStep → List (SessionAnswer × Session)
  | [] => []
  | step :: rest =>
    let done := session.step step
    done :: done.2.steps rest

end Session

end Columnar
