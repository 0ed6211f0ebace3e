import Columnar.Ipc.Body
import Columnar.Ipc.FieldType

/-!
Reading the body of a record batch. The arrays that a batch holds are checked in full before any of
them counts as read. A fault is either a rejection, which is an answer, or an abort: some faults in
what a writer says of its own bytes leave the reader without an answer.
-/
namespace Columnar.Ipc

inductive Fault where
  | rejected (cause : FormatError)
  | aborted
  deriving DecidableEq, Repr

abbrev Decoded (α : Type) := Except Fault α

def undecodable {α : Type} : Decoded α :=
  .error (.rejected .undecodable)

def abort {α : Type} : Decoded α :=
  .error .aborted

def accept (condition : Bool) : Decoded Unit :=
  if condition then .ok () else undecodable

def insist (condition : Bool) : Decoded Unit :=
  if condition then .ok () else abort

def demand {α : Type} : Option α → Decoded α
  | some value => .ok value
  | none => abort

/-- A signed number taken as an unsigned word of 64 bits. -/
def toWord (number : Int) : Nat :=
  (number % (2 ^ 64 : Nat)).toNat

/-- The bytes of a buffer as they were before compression. Only what was left uncompressed can be
read: it begins with the length minus one, and with zero if it is empty. -/
def uncompressed (codec : Option Int) (bytes : Bytes) : Decoded Bytes :=
  if codec = none ∨ bytes = [] then .ok bytes
  else do
    insist (8 ≤ bytes.length)
    let length := Bytes.toInt 8 (bytes.take 8)
    if length = 0 then .ok []
    else if length = -1 then .ok (bytes.drop 8)
    else undecodable

def bufferBytes (codec : Option Int) (body : Bytes) (region : BufferRegion) : Decoded Bytes := do
  insist (toWord region.offset + toWord region.length ≤ body.length)
  uncompressed codec (body.slice (toWord region.offset) (toWord region.length))

/-- The slots that a bitmap leaves: those of which the bit is set. A column without nulls needs no
bitmap. -/
def slotsOf {α : Type} (length : Nat) (nullCount : Int) (bitmap : Bytes) (values : List α) :
    List (Option α) :=
  if 0 < nullCount then
    List.zipWith (fun valid value => if valid then some value else none)
      (Bits.unpack length bitmap) values
  else values.map some

def wordsOf (width : Nat) : Nat → Bytes → List Nat
  | 0, _ => []
  | count + 1, bytes => Bytes.toNat (bytes.take width) :: wordsOf width count (bytes.drop width)

def fixedValues (width length : Nat) (values : Bytes) : Decoded (List Nat) := do
  accept (length * width ≤ values.length)
  .ok (wordsOf width length values)

def truthValues (length : Nat) (values : Bytes) : Decoded (List Bool) := do
  accept (Bits.byteCount length ≤ values.length)
  .ok (Bits.unpack length values)

/-- The offsets of `length` slots into `limit` bytes. There may be none if there are no slots;
otherwise there is one more than there are slots, they do not decrease and do not exceed the limit.
They are signed words, none of them negative. -/
def offsetsOf (width length limit : Nat) (offsets : Bytes) : Decoded (List Nat) := do
  accept (length * width ≤ offsets.length)
  if length = 0 ∧ offsets = [] then .ok []
  else
    accept ((length + 1) * width ≤ offsets.length)
    insist (offsets.length % width = 0)
    let bounds := wordsOf width (length + 1) offsets
    accept (bounds.all fun bound => bound ≤ limit && bound < 256 ^ width / 2)
    accept ((bounds.zip bounds.tail).all fun (start, stop) => start ≤ stop)
    .ok bounds

def partsBetween (bytes : Bytes) (bounds : List Nat) : List (Nat × Nat × Bytes) :=
  (bounds.zip bounds.tail).map fun (start, stop) => (start, stop, bytes.slice start (stop - start))

/-- The text of a part. In bytes that are a text as a whole a part has to begin and end between
characters, also if it is empty. -/
def textOfPart (whole : Bool) (bytes : Bytes) (part : Nat × Nat × Bytes) : Decoded String :=
  let (start, stop, raw) := part
  if whole && !(Text.isBoundary bytes start && Text.isBoundary bytes stop) then undecodable
  else match Text.ofBytes? raw with
    | some text => .ok text
    | none => undecodable

def binaryValues (width length : Nat) (offsets bytes : Bytes) : Decoded (List Bytes) := do
  let bounds ← offsetsOf width length bytes.length offsets
  .ok ((partsBetween bytes bounds).map fun (_, _, raw) => raw)

def textValues (width length : Nat) (offsets bytes : Bytes) : Decoded (List String) := do
  let bounds ← offsetsOf width length bytes.length offsets
  (partsBetween bytes bounds).mapM (textOfPart (Text.ofBytes? bytes).isSome bytes)

def checkBitmap (length : Nat) (nullCount : Int) (bitmap : Bytes) : Decoded Unit :=
  insist (nullCount ≤ 0 || length ≤ 8 * bitmap.length)

/-- The nodes and the buffers of a batch that have not been used yet, and how many buffers more than
usual the arrays given by views have. -/
structure Supply where
  nodes : List FieldNode
  buffers : List BufferRegion
  variadicCounts : List Int
  deriving DecidableEq, Repr

def Supply.node (supply : Supply) : Decoded (FieldNode × Supply) :=
  match supply.nodes with
  | node :: rest => .ok (node, { supply with nodes := rest })
  | [] => undecodable

def Supply.buffer (codec : Option Int) (body : Bytes) (supply : Supply) :
    Decoded (Bytes × Supply) :=
  match supply.buffers with
  | region :: rest => do
    let bytes ← bufferBytes codec body region
    .ok (bytes, { supply with buffers := rest })
  | [] => abort

def Supply.take (codec : Option Int) (body : Bytes) : Nat → Supply → Decoded (List Bytes × Supply)
  | 0, supply => .ok ([], supply)
  | count + 1, supply => do
    let (first, supply) ← supply.buffer codec body
    let (rest, supply) ← take codec body count supply
    .ok (first :: rest, supply)

def bufferCount : StorageType → Nat
  | .utf8 | .binary => 3
  | _ => 2

def columnOf (storage : StorageType) (node : FieldNode) (buffers : List Bytes) :
    Decoded ColumnData := do
  let length := toWord node.length
  let bitmap := buffers.getD 0 []
  let values := buffers.getD 1 []
  let bytes := buffers.getD 2 []
  checkBitmap length node.nullCount bitmap
  match storage with
  | .int32 =>
    let values ← fixedValues 4 length values
    .ok (.int32 (slotsOf length node.nullCount bitmap (values.map fun n => (UInt32.ofNat n).toInt32)))
  | .int64 =>
    let values ← fixedValues 8 length values
    .ok (.int64 (slotsOf length node.nullCount bitmap (values.map fun n => (UInt64.ofNat n).toInt64)))
  | .float32 =>
    let values ← fixedValues 4 length values
    .ok (.float32 (slotsOf length node.nullCount bitmap (values.map UInt32.ofNat)))
  | .float64 =>
    let values ← fixedValues 8 length values
    .ok (.float64 (slotsOf length node.nullCount bitmap (values.map UInt64.ofNat)))
  | .boolean =>
    let values ← truthValues length values
    .ok (.boolean (slotsOf length node.nullCount bitmap values))
  | .utf8 =>
    let values ← textValues 4 length values bytes
    .ok (.utf8 (slotsOf length node.nullCount bitmap values))
  | .timestampMillis =>
    let values ← fixedValues 8 length values
    .ok (.timestampMillis
      (slotsOf length node.nullCount bitmap (values.map fun n => (UInt64.ofNat n).toInt64)))
  | .binary =>
    let values ← binaryValues 4 length values bytes
    .ok (.binary (slotsOf length node.nullCount bitmap values))

def Supply.column (codec : Option Int) (body : Bytes) (storage : StorageType) (supply : Supply) :
    Decoded (ColumnData × Supply) := do
  let (node, supply) ← supply.node
  let (buffers, supply) ← supply.take codec body (bufferCount storage)
  let data ← columnOf storage node buffers
  .ok (data, supply)

def Supply.columns (codec : Option Int) (body : Bytes) :
    List StorageType → Supply → Decoded (List ColumnData × Supply)
  | [], supply => .ok ([], supply)
  | storage :: storages, supply => do
    let (data, supply) ← supply.column codec body storage
    let (rest, supply) ← columns codec body storages supply
    .ok (data :: rest, supply)

/-- The nodes, the buffers and the codec of a batch; only two codecs are known. -/
def RecordBatchTable.supply (table : RecordBatchTable) : Decoded (Supply × Option Int) := do
  match table.buffers, table.nodes with
  | some buffers, some nodes =>
    accept (table.codec.all fun codec => codec = 0 || codec = 1)
    .ok (⟨nodes, buffers, table.variadicCounts.getD []⟩, table.codec)
  | _, _ => undecodable

structure RecordBatch where
  rows : Nat
  columns : List ColumnData
  deriving DecidableEq, Repr

/-- The record batch of a body. The columns have the storages of the fields, as many slots as the
batch has rows, and no nulls where their field admits none. -/
def RecordBatchTable.batch (table : RecordBatchTable) (fields : List (StorageType × Bool))
    (body : Bytes) : Decoded RecordBatch := do
  let (supply, codec) ← table.supply
  let (columns, supply) ← supply.columns codec body (fields.map (·.1))
  insist supply.variadicCounts.isEmpty
  let rows := toWord table.length
  accept ((fields.zip columns).all fun ((_, nullable), data) => nullable || data.nullCount = 0)
  accept (columns.all (·.length = rows))
  .ok ⟨rows, columns⟩

end Columnar.Ipc
