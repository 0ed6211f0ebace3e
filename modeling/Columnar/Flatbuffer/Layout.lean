import Columnar.Text.Utf8

/-!
Laying out a flatbuffer. A `Block` is the finished form of one object and all it refers to. Its bytes
fill a multiple of eight and hold relative references only, so it means the same wherever it is
placed at a multiple of eight; `entry` is where references to it point. `Block.table`,
`Block.vector`, `Block.structs` and `Block.text` make larger blocks of smaller ones.
-/
namespace Columnar.Flatbuffer

structure Block where
  entry : Nat
  bytes : Bytes
  deriving DecidableEq, Repr

inductive Slot where
  | absent
  | scalar (width value : Nat)
  | child (block : Block)
  deriving DecidableEq, Repr

namespace Slot

def childBytes : Slot → Bytes
  | child block => block.bytes
  | _ => []

def entryOffset (slot : Slot) (offset : Nat) : Nat :=
  match slot with
  | absent => 0
  | _ => offset

/-- The eight bytes of a slot's cell at `position`, the slot's block being placed at `start`. -/
def cell (position start : Nat) : Slot → Bytes
  | absent => Bytes.zeros 8
  | scalar width value => Bytes.ofNat width value ++ Bytes.zeros (8 - width)
  | child block => Bytes.ofNat 4 (start + block.entry - position) ++ Bytes.zeros 4

end Slot

namespace Block

def text (text : String) : Block :=
  let raw := Text.bytes text
  ⟨0, Bytes.padded 8 (Bytes.ofNat 4 raw.length ++ raw ++ [0])⟩

def structs (count : Nat) (raw : Bytes) : Block :=
  ⟨4, Bytes.padded 8 (Bytes.zeros 4 ++ Bytes.ofNat 4 count ++ raw)⟩

/-- References at `position` and every four bytes after it, to blocks placed from `start` on. -/
def references : Nat → Nat → List Block → Bytes
  | _, _, [] => []
  | position, start, block :: rest =>
    Bytes.ofNat 4 (start + block.entry - position) ++
      references (position + 4) (start + block.bytes.length) rest

/-- A vector of references to the given blocks, which follow it. -/
def vector (items : List Block) : Block :=
  let start := 8 + Bytes.roundUp 8 (4 * items.length)
  ⟨4, Bytes.zeros 4 ++ Bytes.ofNat 4 items.length ++
    Bytes.padded 8 (references 8 start items) ++ items.flatMap (·.bytes)⟩

/-- The entries of a table's slots, of which the first has its cell at `offset` from the table. -/
def entryOffsets : Nat → List Slot → Bytes
  | _, [] => []
  | offset, slot :: rest =>
    Bytes.ofNat 2 (slot.entryOffset offset) ++ entryOffsets (offset + 8) rest

/-- The cells of a table's slots from `position` on, their blocks being placed from `start` on. -/
def cells : Nat → Nat → List Slot → Bytes
  | _, _, [] => []
  | position, start, slot :: rest =>
    slot.cell position start ++ cells (position + 8) (start + slot.childBytes.length) rest

/-- A table: its entries, then the table proper with a cell of eight bytes for every slot, then the
blocks its slots refer to. -/
def table (slots : List Slot) : Block :=
  let position := 4 + Bytes.roundUp 8 (2 * slots.length)
  let size := 4 + 8 * slots.length
  ⟨position,
    Bytes.ofNat 2 (4 + 2 * slots.length) ++ Bytes.ofNat 2 size ++
      Bytes.padded 8 (entryOffsets 4 slots) ++
      Bytes.ofNat 4 position ++ cells (position + 4) (position + size) slots ++
      slots.flatMap (·.childBytes)⟩

def finish (root : Block) : Bytes :=
  Bytes.ofNat 4 (8 + root.entry) ++ Bytes.zeros 4 ++ root.bytes

end Block

end Columnar.Flatbuffer
