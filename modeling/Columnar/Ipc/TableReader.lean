import Columnar.Flatbuffer.Reader
import Columnar.Ipc.Table

/-!
Reading the records of the file format from flatbuffers. `Footer.ofBytes?` and `Message.ofBytes?`
answer only if everything that the record refers to is in order and the budget covers it.
-/
namespace Columnar.Ipc

open Flatbuffer

def readKeyValue (buffer : Buffer) (depth position : Nat) : Reader KeyValue := do
  let table ← Table.enter buffer depth position
  let key ← table.field buffer 0 (Reader.refer buffer (Reader.text buffer))
  let value ← table.field buffer 1 (Reader.refer buffer (Reader.text buffer))
  pure ⟨key, value⟩

def readMetadata (buffer : Buffer) (depth : Nat) (table : Table) (slot : Nat) :
    Reader (Option (List KeyValue)) :=
  table.field buffer slot
    (Reader.refer buffer (Reader.vector buffer (readKeyValue buffer depth)))

def readInt (buffer : Buffer) (depth position : Nat) : Reader (Int × Bool) := do
  let table ← Table.enter buffer depth position
  let bitWidth ← table.fieldD buffer 0 0 (Reader.signed buffer 4)
  let isSigned ← table.fieldD buffer 1 false (Reader.truth buffer)
  pure (bitWidth, isSigned)

def readDictionary (buffer : Buffer) (depth position : Nat) : Reader DictionaryTable := do
  let table ← Table.enter buffer depth position
  let id ← table.fieldD buffer 0 0 (Reader.signed buffer 8)
  let index ← table.field buffer 1 (Reader.refer buffer (readInt buffer (depth - 1)))
  let ordered ← table.fieldD buffer 2 false (Reader.truth buffer)
  let _ ← table.field buffer 3 (Reader.signed buffer 2)
  pure ⟨id, index, ordered⟩

def readType (buffer : Buffer) (depth kind position : Nat) : Reader TypeTable := do
  if kind = 0 ∨ 26 < kind then pure (.other kind)
  else
    let target ← Reader.refer buffer pure position
    let table ← Table.enter buffer depth target
    match kind with
    | 1 => pure .null
    | 2 => do
      let bitWidth ← table.fieldD buffer 0 0 (Reader.signed buffer 4)
      let isSigned ← table.fieldD buffer 1 false (Reader.truth buffer)
      pure (.int bitWidth isSigned)
    | 3 => do
      let precision ← table.fieldD buffer 0 0 (Reader.signed buffer 2)
      pure (.floatingPoint precision)
    | 4 => pure .binary
    | 5 => pure .utf8
    | 6 => pure .bool
    | 7 => do
      let precision ← table.fieldD buffer 0 0 (Reader.signed buffer 4)
      let scale ← table.fieldD buffer 1 0 (Reader.signed buffer 4)
      let bitWidth ← table.fieldD buffer 2 128 (Reader.signed buffer 4)
      pure (.decimal precision scale bitWidth)
    | 8 => do
      let unit ← table.fieldD buffer 0 1 (Reader.signed buffer 2)
      pure (.date unit)
    | 9 => do
      let unit ← table.fieldD buffer 0 1 (Reader.signed buffer 2)
      let bitWidth ← table.fieldD buffer 1 32 (Reader.signed buffer 4)
      pure (.time unit bitWidth)
    | 10 => do
      let unit ← table.fieldD buffer 0 0 (Reader.signed buffer 2)
      let zone ← table.field buffer 1 (Reader.refer buffer (Reader.text buffer))
      pure (.timestamp unit zone)
    | 11 => do
      let unit ← table.fieldD buffer 0 0 (Reader.signed buffer 2)
      pure (.interval unit)
    | 12 => pure .list
    | 13 => pure .struct
    | 14 => do
      let mode ← table.fieldD buffer 0 0 (Reader.signed buffer 2)
      let ids ← table.field buffer 1
        (Reader.refer buffer (Reader.structs buffer 4 4 (Bytes.toInt 4)))
      pure (.union mode ids)
    | 15 => do
      let width ← table.fieldD buffer 0 0 (Reader.signed buffer 4)
      pure (.fixedSizeBinary width)
    | 16 => do
      let size ← table.fieldD buffer 0 0 (Reader.signed buffer 4)
      pure (.fixedSizeList size)
    | 17 => do
      let sorted ← table.fieldD buffer 0 false (Reader.truth buffer)
      pure (.map sorted)
    | 18 => do
      let unit ← table.fieldD buffer 0 1 (Reader.signed buffer 2)
      pure (.duration unit)
    | 19 => pure .largeBinary
    | 20 => pure .largeUtf8
    | 21 => pure .largeList
    | 22 => pure .runEndEncoded
    | 23 => pure .binaryView
    | 24 => pure .utf8View
    | kind => pure (.other kind)

/-- Reads a field. Each level of children is one level of tables deeper. -/
def readField (buffer : Buffer) : Nat → Nat → Reader FieldTable
  | 0, _ => Reader.reject
  | depth + 1, position => do
    let table ← Table.enter buffer (depth + 1) position
    let name ← table.field buffer 0 (Reader.refer buffer (Reader.text buffer))
    let nullable ← table.fieldD buffer 1 false (Reader.truth buffer)
    let type ← table.choice buffer 2 (readType buffer depth)
    let dictionary ← table.field buffer 4 (Reader.refer buffer (readDictionary buffer depth))
    let children ← table.field buffer 5
      (Reader.refer buffer (Reader.vector buffer (readField buffer depth)))
    let metadata ← readMetadata buffer depth table 6
    pure ⟨name, nullable, type, dictionary, children, metadata⟩

def readSchema (buffer : Buffer) (depth position : Nat) : Reader SchemaTable := do
  let table ← Table.enter buffer depth position
  let endianness ← table.fieldD buffer 0 0 (Reader.signed buffer 2)
  let fields ← table.field buffer 1
    (Reader.refer buffer (Reader.vector buffer (readField buffer (depth - 1))))
  let metadata ← readMetadata buffer (depth - 1) table 2
  let _ ← table.field buffer 3
    (Reader.refer buffer (Reader.structs buffer 8 8 (Bytes.toInt 8)))
  pure ⟨endianness, fields, metadata⟩

def FileBlock.ofBytes (bytes : Bytes) : FileBlock :=
  ⟨Bytes.toInt 8 (bytes.slice 0 8), Bytes.toInt 4 (bytes.slice 8 4),
    Bytes.toInt 8 (bytes.slice 16 8)⟩

def FieldNode.ofBytes (bytes : Bytes) : FieldNode :=
  ⟨Bytes.toInt 8 (bytes.slice 0 8), Bytes.toInt 8 (bytes.slice 8 8)⟩

def BufferRegion.ofBytes (bytes : Bytes) : BufferRegion :=
  ⟨Bytes.toInt 8 (bytes.slice 0 8), Bytes.toInt 8 (bytes.slice 8 8)⟩

def readFooter (buffer : Buffer) (depth position : Nat) : Reader Footer := do
  let table ← Table.enter buffer depth position
  let version ← table.fieldD buffer 0 0 (Reader.signed buffer 2)
  let schema ← table.field buffer 1 (Reader.refer buffer (readSchema buffer (depth - 1)))
  let dictionaries ← table.field buffer 2
    (Reader.refer buffer (Reader.structs buffer 24 1 FileBlock.ofBytes))
  let recordBatches ← table.field buffer 3
    (Reader.refer buffer (Reader.structs buffer 24 1 FileBlock.ofBytes))
  let metadata ← readMetadata buffer (depth - 1) table 4
  pure ⟨version, schema, dictionaries, recordBatches, metadata⟩

def readCodec (buffer : Buffer) (depth position : Nat) : Reader Int := do
  let table ← Table.enter buffer depth position
  let codec ← table.fieldD buffer 0 0 (Reader.signed buffer 1)
  let _ ← table.field buffer 1 (Reader.signed buffer 1)
  pure codec

def readRecordBatch (buffer : Buffer) (depth position : Nat) : Reader RecordBatchTable := do
  let table ← Table.enter buffer depth position
  let length ← table.fieldD buffer 0 0 (Reader.signed buffer 8)
  let nodes ← table.field buffer 1
    (Reader.refer buffer (Reader.structs buffer 16 1 FieldNode.ofBytes))
  let buffers ← table.field buffer 2
    (Reader.refer buffer (Reader.structs buffer 16 1 BufferRegion.ofBytes))
  let codec ← table.field buffer 3 (Reader.refer buffer (readCodec buffer (depth - 1)))
  let variadicCounts ← table.field buffer 4
    (Reader.refer buffer (Reader.structs buffer 8 8 (Bytes.toInt 8)))
  pure ⟨length, nodes, buffers, codec, variadicCounts⟩

def readDictionaryBatch (buffer : Buffer) (depth position : Nat) :
    Reader DictionaryBatchTable := do
  let table ← Table.enter buffer depth position
  let id ← table.fieldD buffer 0 0 (Reader.signed buffer 8)
  let data ← table.field buffer 1 (Reader.refer buffer (readRecordBatch buffer (depth - 1)))
  let isDelta ← table.fieldD buffer 2 false (Reader.truth buffer)
  pure ⟨id, data, isDelta⟩

/-- Reads what a message of the given kind is about. Messages about tensors are passed over. -/
def readHeader (buffer : Buffer) (depth kind position : Nat) : Reader Header :=
  match kind with
  | 0 => pure .absent
  | 1 => Header.schema <$> Reader.refer buffer (readSchema buffer depth) position
  | 2 => Header.dictionaryBatch <$> Reader.refer buffer (readDictionaryBatch buffer depth) position
  | 3 => Header.recordBatch <$> Reader.refer buffer (readRecordBatch buffer depth) position
  | kind => pure (.other kind)

def readMessage (buffer : Buffer) (depth position : Nat) : Reader Message := do
  let table ← Table.enter buffer depth position
  let version ← table.fieldD buffer 0 0 (Reader.signed buffer 2)
  let header ← table.choice buffer 1 (readHeader buffer (depth - 1))
  let bodyLength ← table.fieldD buffer 3 0 (Reader.signed buffer 8)
  let _ ← readMetadata buffer (depth - 1) table 4
  pure ⟨version, header.getD .absent, bodyLength⟩

def Footer.ofBytes? (budget : Budget) (bytes : Bytes) : Option Footer :=
  let buffer := bytes.toArray
  readRoot budget buffer (readFooter buffer maxDepth)

def Message.ofBytes? (budget : Budget) (bytes : Bytes) : Option Message :=
  let buffer := bytes.toArray
  readRoot budget buffer (readMessage buffer maxDepth)

end Columnar.Ipc
