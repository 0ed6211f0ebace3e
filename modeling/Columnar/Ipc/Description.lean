import Columnar.Ipc.File
import Columnar.Ipc.FileReader

/-!
Describing a written file from its bytes: what each part of it says and where it lies, independent of
how its flatbuffers are laid out.
-/
namespace Columnar.Ipc

open Flatbuffer (Budget)

structure BatchDescription where
  rows : Int
  followsPrevious : Bool
  aligned : Bool
  continuation : Bytes
  version : Int
  compressed : Bool
  nodes : List FieldNode
  buffers : List (Int × Bytes)
  bodyLength : Int
  messageBodyLength : Int
  paddingIsZero : Bool
  deriving DecidableEq, Repr

structure FileDescription where
  head : Bytes
  tail : Bytes
  endOfStream : Bytes
  footerVersion : Int
  dictionaryBatches : Nat
  schema : FileSchema
  schemaMessagesAgree : Bool
  batches : List BatchDescription
  readerAccepts : Bool

def versionName (version : Int) : String :=
  s!"V{version + 1}"

def messageAt? (budget : Budget) (file : Bytes) (offset : Nat) : Option (Message × Nat) := do
  let length := Bytes.toNat (file.slice (offset + 4) 4)
  let message ← Message.ofBytes? budget (file.slice (offset + 8) length)
  some (message, 8 + length)

def unusedAreZero (body : Bytes) (regions : List BufferRegion) : Bool :=
  body.zipIdx.all fun (byte, index) =>
    byte = 0 || regions.any fun region =>
      region.offset ≤ index && (index : Int) < region.offset + region.length

/-- Describes the batch of a block; `previous` is where the message before it ended. -/
def describeBatch? (budget : Budget) (alignment : Nat) (file : Bytes) (previous : Nat)
    (block : FileBlock) : Option BatchDescription := do
  let offset := block.offset.toNat
  let (message, _) ← messageAt? budget file offset
  match message.header with
  | .recordBatch table =>
    let body := file.slice (offset + block.metadataLength.toNat) block.bodyLength.toNat
    let regions := table.buffers.getD []
    some {
      rows := table.length
      followsPrevious := offset = previous
      aligned := offset % alignment = 0 && block.metadataLength % alignment = 0 &&
        block.bodyLength % alignment = 0
      continuation := file.slice offset 4
      version := message.version
      compressed := table.codec.isSome
      nodes := table.nodes.getD []
      buffers := regions.map fun region =>
        (region.offset, body.slice region.offset.toNat region.length.toNat)
      bodyLength := block.bodyLength
      messageBodyLength := message.bodyLength
      paddingIsZero := unusedAreZero body regions }
  | _ => none

def describeBatches? (budget : Budget) (alignment : Nat) (file : Bytes) : Nat → List FileBlock →
    Option (List BatchDescription × Nat)
  | previous, [] => some ([], previous)
  | previous, block :: rest => do
    let batch ← describeBatch? budget alignment file previous block
    let stop := block.offset + block.metadataLength + block.bodyLength
    let (batches, last) ← describeBatches? budget alignment file stop.toNat rest
    some (batch :: batches, last)

def sameSchema (a b : FileSchema) : Bool :=
  a.fields == b.fields && a.metadata = b.metadata

/-- Describes a file, each flatbuffer of it within a budget. -/
def describeWithin? (budget : Budget) (alignment : Nat) (file : Bytes) : Option FileDescription := do
  let trailer := file.length - trailerLength
  let footerBytes := Bytes.toNat (file.slice trailer 4)
  let footerStart := trailer - footerBytes
  let footer ← Footer.ofBytes? budget (file.slice footerStart footerBytes)
  let schema ← (← footer.schema).toSchema?
  let head := Bytes.roundUp alignment fileMarker.length
  let (message, length) ← messageAt? budget file head
  let first := match message.header with
    | .schema table => table.toSchema?
    | _ => none
  let (batches, last) ←
    describeBatches? budget alignment file (head + length) (footer.recordBatches.getD [])
  some {
    head := file.take head
    tail := file.drop (file.length - fileMarker.length)
    endOfStream := file.slice last (footerStart - last)
    footerVersion := footer.version
    dictionaryBatches := (footer.dictionaries.getD []).length
    schema := schema
    schemaMessagesAgree := first.any (sameSchema schema)
    batches := batches
    readerAccepts := (FileReader.openSource budget (Source.ofBytes file)).isOk }

def describe? (alignment : Nat) (file : Bytes) : Option FileDescription :=
  describeWithin? .full alignment file

end Columnar.Ipc
