import Columnar.Ipc.Body
import Columnar.Ipc.TableLayout
import Columnar.Stream.Sink

/-!
The file of one record batch: the marker, the schema message, the batch message with its body, the end
of the stream, the footer with its length, and the marker again. Everything before the footer starts
at a multiple of the alignment.
-/
namespace Columnar.Ipc

open Flatbuffer

structure FileContents where
  alignment : Nat
  fields : List WrittenField
  rows : Nat
  columns : List ColumnData

namespace FileContents

def buffers (contents : FileContents) : List Bytes :=
  contents.columns.flatMap ColumnData.buffers

def nodes (contents : FileContents) : List FieldNode :=
  contents.columns.map ColumnData.node

def regions (contents : FileContents) : List BufferRegion :=
  regionsFrom contents.alignment 0 contents.buffers

def body (contents : FileContents) : Bytes :=
  bodyOf contents.alignment contents.buffers

def headLength (contents : FileContents) : Nat :=
  Bytes.roundUp contents.alignment fileMarker.length

def schemaTable (contents : FileContents) : Bytes :=
  (messageBlock 1 (schemaBlock contents.fields) 0).finish

def batchTable (contents : FileContents) : Bytes :=
  (messageBlock 3 (recordBatchBlock contents.rows contents.nodes contents.regions)
    contents.body.length).finish

/-- The length of a message with its marker and its length, without its body. -/
def messageLength (contents : FileContents) (table : Bytes) : Nat :=
  Bytes.roundUp contents.alignment (table.length + 8)

def batchBlock (contents : FileContents) : FileBlock :=
  ⟨contents.headLength + contents.messageLength contents.schemaTable,
    contents.messageLength contents.batchTable, contents.body.length⟩

def footerTable (contents : FileContents) : Bytes :=
  (footerBlock contents.fields [contents.batchBlock]).finish

def announce (length : Nat) : List Emission :=
  [.write continuation, .write (Bytes.ofNat 4 length), .flush]

def message (contents : FileContents) (table : Bytes) : List Emission :=
  announce (contents.messageLength table - 8) ++
    [.write table, .write (Bytes.zeros (contents.messageLength table - 8 - table.length))]

def emitBody (contents : FileContents) : List Emission :=
  if contents.body = [] then [] else [.write contents.body, .flush]

def emissions (contents : FileContents) : List Emission :=
  [.write fileMarker, .write (Bytes.zeros (contents.headLength - fileMarker.length))] ++
    contents.message contents.schemaTable ++ contents.message contents.batchTable ++
    contents.emitBody ++ announce 0 ++
    [.write contents.footerTable, .write (Bytes.ofNat 4 contents.footerTable.length),
      .write fileMarker, .flush]

def bytes (contents : FileContents) : Bytes :=
  Emission.allBytes contents.emissions

end FileContents

end Columnar.Ipc
