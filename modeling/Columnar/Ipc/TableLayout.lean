import Columnar.Flatbuffer.Layout
import Columnar.Ipc.Table
import Columnar.Schema

/-!
Laying out the records of a written file as flatbuffers. Written fields are nullable, have no children
and no dictionary, and are of one of the storages.
-/
namespace Columnar.Ipc

open Flatbuffer

structure WrittenField where
  name : String
  storage : StorageType
  metadata : Metadata
  deriving DecidableEq

def WrittenField.toField (field : WrittenField) : Field :=
  { Field.plain field.name field.storage.dataType with metadata := field.metadata }

def typeSlots : StorageType → Nat × List Slot
  | .int32 => (2, [.scalar 4 32, .scalar 1 1])
  | .int64 => (2, [.scalar 4 64, .scalar 1 1])
  | .float32 => (3, [.scalar 2 1])
  | .float64 => (3, [.scalar 2 2])
  | .boolean => (6, [])
  | .utf8 => (5, [])
  | .timestampMillis => (10, [.scalar 2 1])
  | .binary => (4, [])

def keyValueBlock (entry : String × String) : Block :=
  Block.table [.child (Block.text entry.1), .child (Block.text entry.2)]

def fieldBlock (field : WrittenField) : Block :=
  let (kind, slots) := typeSlots field.storage
  Block.table
    [.child (Block.text field.name), .scalar 1 1, .scalar 1 kind, .child (Block.table slots),
      .absent, .child (Block.vector []),
      .child (Block.vector (field.metadata.entries.map keyValueBlock))]

def schemaBlock (fields : List WrittenField) : Block :=
  Block.table [.scalar 2 0, .child (Block.vector (fields.map fieldBlock))]

def signedWord (width : Nat) (number : Int) : Bytes :=
  Bytes.ofNat width (number % (256 ^ width : Nat)).toNat

def FieldNode.toBytes (node : FieldNode) : Bytes :=
  signedWord 8 node.length ++ signedWord 8 node.nullCount

def BufferRegion.toBytes (region : BufferRegion) : Bytes :=
  signedWord 8 region.offset ++ signedWord 8 region.length

def FileBlock.toBytes (block : FileBlock) : Bytes :=
  signedWord 8 block.offset ++ signedWord 4 block.metadataLength ++ Bytes.zeros 4 ++
    signedWord 8 block.bodyLength

def recordBatchBlock (length : Nat) (nodes : List FieldNode) (regions : List BufferRegion) : Block :=
  Block.table
    [.scalar 8 length, .child (Block.structs nodes.length (nodes.flatMap FieldNode.toBytes)),
      .child (Block.structs regions.length (regions.flatMap BufferRegion.toBytes))]

def messageBlock (kind : Nat) (header : Block) (bodyLength : Nat) : Block :=
  Block.table [.scalar 2 currentVersion, .scalar 1 kind, .child header, .scalar 8 bodyLength]

def footerBlock (fields : List WrittenField) (recordBatches : List FileBlock) : Block :=
  Block.table
    [.scalar 2 currentVersion, .child (schemaBlock fields), .child (Block.structs 0 []),
      .child (Block.structs recordBatches.length (recordBatches.flatMap FileBlock.toBytes))]

end Columnar.Ipc
