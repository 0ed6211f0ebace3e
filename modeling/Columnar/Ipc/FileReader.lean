import Columnar.Ipc.ArrayReader
import Columnar.Ipc.TableReader
import Columnar.Stream.Source

/-!
Opening a file. The reader starts from the end: ten bytes with the length of the footer and the
marker, then the footer, then the dictionaries, each as a whole block. What stands at the start of the
file is never looked at. `FileReader.firstBatch?` then reads the first record batch.
-/
namespace Columnar.Ipc

open Flatbuffer (Budget)

/-- An opened file, with the budget that each of its flatbuffers is read within. -/
structure FileReader where
  source : Source
  budget : Budget
  schema : FileSchema
  version : Int
  batches : List FileBlock
  reads : Nat

def trailerLength : Nat :=
  10

def readPart (source : Source) (offset : Int) (length reads : Nat) : Decoded (Bytes × Nat) :=
  (source.block offset length reads).mapError fun cause => .rejected (.io cause)

def footerLength (trailer : Bytes) : Decoded Nat := do
  if trailer.drop 4 ≠ fileMarker then .error (.rejected .footerMarker)
  else
    let length := Bytes.toInt 4 (trailer.take 4)
    if length < 0 then .error (.rejected (.footerLength length)) else .ok length.toNat

/-- The greatest length that a block can have, so that it fits into memory at its alignment. Below it memory is
taken as never short: that an allocator may refuse a smaller block is left out. -/
def maxBlockLength : Nat :=
  2 ^ 63 - 64

/-- Reads a message with its body. The lengths may not be negative, and together not too great. -/
def readBlock (source : Source) (block : FileBlock) (reads : Nat) : Decoded (Bytes × Nat) := do
  let offset ← (source.seek (toWord block.offset)).mapError fun cause => .rejected (.io cause)
  insist (0 ≤ block.bodyLength && 0 ≤ block.metadataLength)
  let length := block.bodyLength.toNat + block.metadataLength.toNat
  insist (length ≤ maxBlockLength)
  readPart source offset length reads

/-- The message at the start of a block. Without the marker only four bytes stand before it. -/
def messageOf (budget : Budget) (version : Int) (bytes : Bytes) : Decoded Message := do
  insist (4 ≤ bytes.length)
  let skipped := if bytes.take 4 = continuation then 8 else 4
  insist (skipped ≤ bytes.length)
  match Message.ofBytes? budget (bytes.drop skipped) with
  | none => undecodable
  | some message =>
    accept (version = 0 || message.version = version)
    .ok message

mutual

def codedInType : DataType → List Field
  | .list item | .largeList item | .fixedSizeList item _ | .map item _ => codedFields item
  | .struct fields => codedInFields fields
  | .union members _ => codedInMembers members
  | .dictionary _ value => codedInType value
  | .runEndEncoded _ values => codedFields values
  | _ => []

def codedFields : Field → List Field
  | ⟨name, dataType, nullable, id, ordered, metadata⟩ =>
    let inner := codedInType dataType
    match dataType with
    | .dictionary _ _ => ⟨name, dataType, nullable, id, ordered, metadata⟩ :: inner
    | _ => inner

def codedInFields : List Field → List Field
  | [] => []
  | field :: rest => codedFields field ++ codedInFields rest

def codedInMembers : List (Int × Field) → List Field
  | [] => []
  | (_, field) :: rest => codedFields field ++ codedInMembers rest

end

def dictionaryType? (schema : FileSchema) (id : Int) : Option DataType :=
  match (codedInFields schema.fields).find? fun field => field.dictionaryId.toInt = id with
  | some field =>
    match field.dataType with
    | .dictionary _ value => some value
    | _ => none
  | none => none

/-- Reads the values of a dictionary: one array of as many slots as the batch says. The array is
that of a field without a dictionary of its own. -/
def RecordBatchTable.dictionaryValues (table : RecordBatchTable) (version : Int) (start : Nat)
    (bytes : Bytes) (type : DataType) (dictionaries : List DictionaryValues) :
    Decoded ArrayShape := do
  let (supply, codec) ← table.supply
  let body : BatchBody := ⟨version, codec, start, bytes, dictionaries⟩
  let (values, supply) ← body.array 0 type supply
  insist supply.variadicCounts.isEmpty
  accept (values.length = toWord table.length)
  .ok values

/-- Reads the dictionary in a block, which has to be in order though no column uses it. It may refer
to the dictionaries before it. -/
def dictionaryOf (budget : Budget) (schema : FileSchema) (version : Int) (block : FileBlock)
    (bytes : Bytes) (dictionaries : List DictionaryValues) : Decoded DictionaryValues := do
  let message ← messageOf budget version bytes
  match message.header with
  | .dictionaryBatch batch =>
    accept (!batch.isDelta)
    match dictionaryType? schema batch.id with
    | none => undecodable
    | some type =>
      let table ← demand batch.data
      let start := block.metadataLength.toNat
      let values ← table.dictionaryValues message.version start (bytes.drop start) type dictionaries
      .ok ⟨batch.id, type, values⟩
  | _ => undecodable

/-- Reads dictionaries, some having been read before, the latest of which comes first; answers with
the number of reads made then. -/
def readDictionaries (source : Source) (budget : Budget) (schema : FileSchema) (version : Int) :
    List FileBlock → List DictionaryValues → Nat → Decoded Nat
  | [], _, reads => .ok reads
  | block :: rest, dictionaries, reads => do
    let (bytes, reads) ← readBlock source block reads
    let dictionary ← dictionaryOf budget schema version block bytes dictionaries
    readDictionaries source budget schema version rest (dictionary :: dictionaries) reads

def complete (entries : List KeyValue) : Bool :=
  entries.all fun entry => entry.key.isSome && entry.value.isSome

def FileReader.openSource (budget : Budget) (source : Source) : Decoded FileReader := do
  let size := (source.content.length : Int)
  let (trailer, reads) ← readPart source (size - trailerLength) trailerLength 0
  let length ← footerLength trailer
  let (bytes, reads) ← readPart source (size - trailerLength - length) length reads
  match Footer.ofBytes? budget bytes with
  | none => undecodable
  | some footer =>
    match footer.recordBatches with
    | none => undecodable
    | some batches =>
      let table ← demand footer.schema
      accept (table.endianness = 0)
      let schema ← demand table.toSchema?
      insist (footer.metadata.all complete)
      let blocks := footer.dictionaries.getD []
      let reads ← readDictionaries source budget schema footer.version blocks [] reads
      .ok ⟨source, budget, schema, footer.version, batches, reads⟩

/-- Reads the record batch of a block, which may hold no message at all. -/
def FileReader.batch? (reader : FileReader) (fields : List (StorageType × Bool))
    (block : FileBlock) : Decoded (Option RecordBatch) := do
  let (bytes, _) ← readBlock reader.source block reader.reads
  let message ← messageOf reader.budget reader.version bytes
  match message.header with
  | .recordBatch table =>
    let batch ← table.batch fields (bytes.drop block.metadataLength.toNat)
    .ok (some batch)
  | .absent => .ok none
  | _ => undecodable

def FileReader.firstBatch? (reader : FileReader) (fields : List (StorageType × Bool)) :
    Decoded (Option RecordBatch) :=
  match reader.batches with
  | [] => .ok none
  | block :: _ => reader.batch? fields block

end Columnar.Ipc
