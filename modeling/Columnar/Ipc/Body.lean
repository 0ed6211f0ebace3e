import Columnar.Column
import Columnar.Ipc.Table
import Columnar.Text.Utf8

/-!
The body of a record batch. Every column gives its buffers in order: a bitmap that says which slots
hold a value, then the values, or for texts and byte strings the offsets and then the bytes. Each
buffer begins at a multiple of the alignment. `ColumnData.buffers` lists the buffers of a column and
`ColumnData.node` counts its slots and its nulls.
-/
namespace Columnar

namespace Bits

/-- The byte of up to eight bits, the first of them the lowest. -/
def toByte (bits : List Bool) : UInt8 :=
  UInt8.ofNat (bits.foldr (fun bit value => bit.toNat + 2 * value) 0)

def packInto : Nat → List Bool → Bytes
  | 0, _ => []
  | count + 1, bits => toByte (bits.take 8) :: packInto count (bits.drop 8)

def byteCount (bits : Nat) : Nat :=
  (bits + 7) / 8

def pack (bits : List Bool) : Bytes :=
  packInto (byteCount bits.length) bits

def ofByte (byte : UInt8) : List Bool :=
  (List.range 8).map fun place => byte.toNat.testBit place

def unpack (count : Nat) (bytes : Bytes) : List Bool :=
  (bytes.flatMap ofByte).take count

end Bits

namespace ColumnData

/-- The bitmap of a column: which slots hold a value, or all ones if every slot does. -/
def validityBuffer (data : ColumnData) : Bytes :=
  if data.nullCount = 0 then List.replicate (Bits.byteCount data.length) 0xFF
  else Bits.pack data.validity

def words {α : Type} (width : Nat) (toNat : α → Nat) (slots : List (Option α)) : Bytes :=
  slots.flatMap fun slot => Bytes.ofNat width (slot.elim 0 toNat)

/-- The ends of byte strings that follow one another, the first of them beginning at `start`. -/
def ends : Nat → List Bytes → List Nat
  | _, [] => []
  | start, part :: rest => (start + part.length) :: ends (start + part.length) rest

/-- The offsets of byte strings that follow one another. There are none if there are no strings. -/
def offsetBuffer (parts : List Bytes) : Bytes :=
  if parts = [] then [] else (0 :: ends 0 parts).flatMap (Bytes.ofNat 4)

def parts : ColumnData → List Bytes
  | utf8 slots => slots.map fun slot => slot.elim [] Text.bytes
  | binary slots => slots.map fun slot => slot.elim [] id
  | _ => []

def valueBuffers : ColumnData → List Bytes
  | int32 slots => [words 4 (·.toUInt32.toNat) slots]
  | int64 slots => [words 8 (·.toUInt64.toNat) slots]
  | float32 slots => [words 4 (·.toNat) slots]
  | float64 slots => [words 8 (·.toNat) slots]
  | boolean slots => [Bits.pack (slots.map (·.getD false))]
  | timestampMillis slots => [words 8 (·.toUInt64.toNat) slots]
  | data@(utf8 _) | data@(binary _) => [offsetBuffer data.parts, data.parts.flatten]

def buffers (data : ColumnData) : List Bytes :=
  data.validityBuffer :: data.valueBuffers

def node (data : ColumnData) : Ipc.FieldNode :=
  ⟨data.length, data.nullCount⟩

end ColumnData

namespace Ipc

/-- Where buffers lie that are each filled up to a multiple of the alignment, from `offset` on. -/
def regionsFrom (alignment : Nat) : Nat → List Bytes → List BufferRegion
  | _, [] => []
  | offset, buffer :: rest =>
    ⟨offset, buffer.length⟩ ::
      regionsFrom alignment (offset + Bytes.roundUp alignment buffer.length) rest

def bodyOf (alignment : Nat) (buffers : List Bytes) : Bytes :=
  buffers.flatMap (Bytes.padded alignment)

end Ipc

end Columnar
