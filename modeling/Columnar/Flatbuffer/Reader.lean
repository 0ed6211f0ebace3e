import Columnar.Text.Utf8

/-!
Reading a flatbuffer that may hold anything. A `Reader` checks alignment and range of every word
before it uses it, and spends a budget of tables and of bytes, so that objects which refer to one
another cannot make it run on; the nesting of tables is bounded by the `depth` that table readers are
given. A reader that finds anything amiss gives no answer.
-/
namespace Columnar.Flatbuffer

abbrev Buffer := Array UInt8

/-- How many tables may still be entered, and how many bytes still be looked at. -/
structure Budget where
  tables : Nat
  bytes : Nat
  deriving DecidableEq, Repr

def Budget.full : Budget :=
  ⟨1000000, 2 ^ 31⟩

def maxDepth : Nat :=
  64

abbrev Reader (α : Type) := StateT Budget Option α

namespace Reader

variable {α : Type}

def reject : Reader α :=
  fun _ => none

def require (condition : Bool) : Reader Unit :=
  fun budget => if condition then some ((), budget) else none

def claim (buffer : Buffer) (position size : Nat) : Reader Unit := fun budget =>
  if position + size ≤ buffer.size ∧ size ≤ budget.bytes then
    some ((), { budget with bytes := budget.bytes - size })
  else none

def countTable : Reader Unit := fun budget =>
  if 0 < budget.tables then some ((), { budget with tables := budget.tables - 1 }) else none

def part (buffer : Buffer) (position size : Nat) : Bytes :=
  (buffer.extract position (position + size)).toList

def word (buffer : Buffer) (width position : Nat) : Reader Bytes := do
  require (position % width = 0)
  claim buffer position width
  pure (part buffer position width)

def unsigned (buffer : Buffer) (width position : Nat) : Reader Nat := do
  pure (Bytes.toNat (← word buffer width position))

def signed (buffer : Buffer) (width position : Nat) : Reader Int := do
  pure (Bytes.toInt width (← word buffer width position))

def truth (buffer : Buffer) (position : Nat) : Reader Bool := do
  pure ((← unsigned buffer 1 position) ≠ 0)

def refer (buffer : Buffer) (read : Nat → Reader α) (position : Nat) : Reader α := do
  let offset ← unsigned buffer 4 position
  read (position + offset)

/-- The start and the length of the vector at `position`, whose elements take `size` bytes each and
are aligned. -/
def vectorRange (buffer : Buffer) (size alignment position : Nat) : Reader (Nat × Nat) := do
  let count ← unsigned buffer 4 position
  require ((position + 4) % alignment = 0)
  claim buffer (position + 4) (count * size)
  pure (position + 4, count)

/-- Reads `count` elements that stand `stride` bytes apart. -/
def each (read : Nat → Reader α) (stride : Nat) : Nat → Nat → Reader (List α)
  | 0, _ => pure []
  | count + 1, position => do
    let first ← read position
    let rest ← each read stride count (position + stride)
    pure (first :: rest)

def vector (buffer : Buffer) (read : Nat → Reader α) (position : Nat) : Reader (List α) := do
  let (start, count) ← vectorRange buffer 4 4 position
  each (refer buffer read) 4 count start

def structs (buffer : Buffer) (size alignment : Nat) (ofBytes : Bytes → α) (position : Nat) :
    Reader (List α) := do
  let (start, count) ← vectorRange buffer size alignment position
  pure ((List.range count).map fun index => ofBytes (part buffer (start + index * size) size))

def text (buffer : Buffer) (position : Nat) : Reader String := do
  let (start, count) ← vectorRange buffer 1 1 position
  require (buffer[start + count]? = some 0)
  match Text.ofBytes? (part buffer start count) with
  | some text => pure text
  | none => reject

end Reader

/-- A table: where it stands, and where its entries stand and end. -/
structure Table where
  position : Nat
  entries : Nat
  length : Nat
  deriving DecidableEq, Repr

namespace Table

variable {α : Type}

/-- Where the entries of the table at `position` stand, by the signed distance written there. -/
def entriesAt? (position : Nat) (distance : Int) : Option Nat :=
  let target := (position : Int) - distance
  if 0 ≤ target then some target.toNat else none

/-- Enters the table at `position`, `depth` levels above the deepest that is allowed. -/
def enter (buffer : Buffer) (depth position : Nat) : Reader Table := do
  Reader.require (0 < depth)
  let distance ← Reader.signed buffer 4 position
  match entriesAt? position distance with
  | none => Reader.reject
  | some entries =>
    Reader.require (entries < buffer.size)
    let length ← Reader.unsigned buffer 2 entries
    Reader.require ((entries + length) % 2 = 0)
    Reader.claim buffer entries length
    Reader.countTable
    pure ⟨position, entries, length⟩

def find (buffer : Buffer) (table : Table) (slot : Nat) : Reader (Option Nat) :=
  if 4 + 2 * slot < table.length then do
    let offset ← Reader.unsigned buffer 2 (table.entries + (4 + 2 * slot))
    pure (if offset = 0 then none else some (table.position + offset))
  else pure none

def field (buffer : Buffer) (table : Table) (slot : Nat) (read : Nat → Reader α) :
    Reader (Option α) := do
  match ← table.find buffer slot with
  | none => pure none
  | some position => some <$> read position

def fieldD (buffer : Buffer) (table : Table) (slot : Nat) (default : α) (read : Nat → Reader α) :
    Reader α := do
  pure ((← table.field buffer slot read).getD default)

/-- Reads a value whose kind stands in the slot before it. Both have to be there or neither. -/
def choice (buffer : Buffer) (table : Table) (slot : Nat) (read : Nat → Nat → Reader α) :
    Reader (Option α) := do
  let value ← table.find buffer (slot + 1)
  let kind ← table.find buffer slot
  match kind, value with
  | none, none => pure none
  | some kind, some value => do
    let kind ← Reader.unsigned buffer 1 kind
    some <$> read kind value
  | _, _ => Reader.reject

end Table

def readRoot {α : Type} (budget : Budget) (buffer : Buffer) (read : Nat → Reader α) : Option α :=
  (Reader.refer buffer read 0).run' budget

end Columnar.Flatbuffer
