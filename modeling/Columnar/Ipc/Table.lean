import Columnar.Bytes

/-!
The records of the file format as they stand in its flatbuffers. Whatever a writer may leave out is
an `Option` or has the format's default; whether a record makes sense is decided where it is used.
-/
namespace Columnar.Ipc

structure KeyValue where
  key : Option String
  value : Option String
  deriving DecidableEq, Repr

/-- What a dictionary-coded field says of its dictionary: its id, the width and signedness of the
indices, and whether its values are ordered. -/
structure DictionaryTable where
  id : Int
  index : Option (Int × Bool)
  ordered : Bool
  deriving DecidableEq, Repr

inductive TypeTable where
  | null
  | int (bitWidth : Int) (signed : Bool)
  | floatingPoint (precision : Int)
  | binary
  | utf8
  | bool
  | decimal (precision scale bitWidth : Int)
  | date (unit : Int)
  | time (unit bitWidth : Int)
  | timestamp (unit : Int) (zone : Option String)
  | interval (unit : Int)
  | list
  | struct
  | union (mode : Int) (ids : Option (List Int))
  | fixedSizeBinary (width : Int)
  | fixedSizeList (size : Int)
  | map (sorted : Bool)
  | duration (unit : Int)
  | largeBinary
  | largeUtf8
  | largeList
  | runEndEncoded
  | binaryView
  | utf8View
  | other (kind : Nat)
  deriving DecidableEq, Repr

structure FieldTable where
  name : Option String
  nullable : Bool
  type : Option TypeTable
  dictionary : Option DictionaryTable
  children : Option (List FieldTable)
  metadata : Option (List KeyValue)

structure SchemaTable where
  endianness : Int
  fields : Option (List FieldTable)
  metadata : Option (List KeyValue)

/-- Where a message lies in the file, and how long its two parts are. -/
structure FileBlock where
  offset : Int
  metadataLength : Int
  bodyLength : Int
  deriving DecidableEq, Repr

structure Footer where
  version : Int
  schema : Option SchemaTable
  dictionaries : Option (List FileBlock)
  recordBatches : Option (List FileBlock)
  metadata : Option (List KeyValue)

structure FieldNode where
  length : Int
  nullCount : Int
  deriving DecidableEq, Repr

structure BufferRegion where
  offset : Int
  length : Int
  deriving DecidableEq, Repr

structure RecordBatchTable where
  length : Int
  nodes : Option (List FieldNode)
  buffers : Option (List BufferRegion)
  codec : Option Int
  variadicCounts : Option (List Int)
  deriving DecidableEq, Repr

structure DictionaryBatchTable where
  id : Int
  data : Option RecordBatchTable
  isDelta : Bool
  deriving DecidableEq, Repr

inductive Header where
  | absent
  | schema (table : SchemaTable)
  | dictionaryBatch (table : DictionaryBatchTable)
  | recordBatch (table : RecordBatchTable)
  | other (kind : Nat)

structure Message where
  version : Int
  header : Header
  bodyLength : Int

def currentVersion : Nat :=
  4

def fileMarker : Bytes :=
  [0x41, 0x52, 0x52, 0x4F, 0x57, 0x31]

def continuation : Bytes :=
  [0xFF, 0xFF, 0xFF, 0xFF]

end Columnar.Ipc
