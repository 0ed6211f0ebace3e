import Columnar.Ipc.ArrayShape

/-!
Reading an array of any type from the body of a batch. Every array begins with a node, most with a
bitmap; what follows hangs on how the type lays out its slots. A type without children has a
`SlotLayout`; the others have their children after their own buffers. `BatchBody.array` reads the
array of a type and answers with its shape.
-/
namespace Columnar.Ipc

inductive SlotLayout where
  | nulls
  | truths
  /-- Words of one width, which may be an impossible one. -/
  | words (width : Int)
  | strings (width : Nat) (text : Bool)
  | views (text : Bool)
  deriving DecidableEq, Repr

def SlotLayout.ofType? : DataType → Option SlotLayout
  | .null => some .nulls
  | .boolean => some .truths
  | .int8 | .uint8 => some (.words 1)
  | .int16 | .uint16 | .float16 => some (.words 2)
  | .int32 | .uint32 | .float32 | .date32 | .time32 _ | .interval .yearMonth => some (.words 4)
  | .int64 | .uint64 | .float64 | .date64 | .time64 _ | .timestamp _ _ | .duration _
  | .interval .dayTime => some (.words 8)
  | .interval .monthDayNano | .decimal128 _ _ => some (.words 16)
  | .decimal256 _ _ => some (.words 32)
  | .fixedSizeBinary width => some (.words width)
  | .utf8 => some (.strings 4 true)
  | .binary => some (.strings 4 false)
  | .largeUtf8 => some (.strings 8 true)
  | .largeBinary => some (.strings 8 false)
  | .utf8View => some (.views true)
  | .binaryView => some (.views false)
  | _ => none

def keyLayout? : DataType → Option (Nat × Bool)
  | .int8 => some (1, true)
  | .int16 => some (2, true)
  | .int32 => some (4, true)
  | .int64 => some (8, true)
  | .uint8 => some (1, false)
  | .uint16 => some (2, false)
  | .uint32 => some (4, false)
  | .uint64 => some (8, false)
  | _ => none

def runEndWidth? : DataType → Option Nat
  | .int16 => some 2
  | .int32 => some 4
  | .int64 => some 8
  | _ => none

def isPairType : DataType → Bool
  | .struct [_, _] => true
  | _ => false

/-- The next count of buffers beyond the usual. -/
def Supply.variadicCount (supply : Supply) : Decoded (Int × Supply) :=
  match supply.variadicCounts with
  | count :: rest => .ok (count, { supply with variadicCounts := rest })
  | [] => undecodable

/-- The body of a batch with all that its arrays are read by: the format's version, the codec, how
far into its block the body begins, and the dictionaries read before. -/
structure BatchBody where
  version : Int
  codec : Option Int
  start : Nat
  bytes : Bytes
  dictionaries : List DictionaryValues

namespace BatchBody

def buffers (body : BatchBody) (count : Nat) (supply : Supply) : Decoded (List Bytes × Supply) :=
  supply.take body.codec body.bytes count

def buffer (body : BatchBody) (supply : Supply) : Decoded (Bytes × Supply) :=
  supply.buffer body.codec body.bytes

/-- Whether the next buffer begins at a multiple of an alignment in its block. -/
def isAligned (body : BatchBody) (alignment : Nat) (supply : Supply) : Bool :=
  supply.buffers.head?.all fun region => (body.start + toWord region.offset) % alignment = 0

def slots (body : BatchBody) (layout : SlotLayout) (supply : Supply) :
    Decoded (ArrayShape × Supply) := do
  match layout with
  | .nulls =>
    let (node, supply) ← supply.node
    .ok (← ArrayShape.ofNulls node, supply)
  | .truths =>
    let (node, supply) ← supply.node
    let (bitmap, supply) ← body.buffer supply
    let (values, supply) ← body.buffer supply
    .ok (← ArrayShape.ofTruths node bitmap values, supply)
  | .words width =>
    let (node, supply) ← supply.node
    let (bitmap, supply) ← body.buffer supply
    let (words, supply) ← body.buffer supply
    insist (0 ≤ width)
    .ok (← ArrayShape.ofWords width.toNat node bitmap words, supply)
  | .strings width text =>
    let (node, supply) ← supply.node
    let (bitmap, supply) ← body.buffer supply
    let (offsets, supply) ← body.buffer supply
    let (bytes, supply) ← body.buffer supply
    .ok (← ArrayShape.ofStrings width text node bitmap offsets bytes, supply)
  | .views text =>
    let (count, supply) ← supply.variadicCount
    let (buffers, supply) ← body.buffers (count + 2).toNat supply
    let (node, supply) ← supply.node
    .ok (← ArrayShape.ofViews text node buffers, supply)

def keys (body : BatchBody) (id : Int) (key value : DataType) (supply : Supply) :
    Decoded (ArrayShape × Supply) := do
  let (node, supply) ← supply.node
  let (bitmap, supply) ← body.buffer supply
  let (keys, supply) ← body.buffer supply
  match body.dictionaries.find? (·.id = id), keyLayout? key with
  | some dictionary, some (width, signed) =>
    .ok (← ArrayShape.ofKeys width signed value node bitmap keys dictionary, supply)
  | _, _ => undecodable

/-- Reads where in its member each of `length` values of a dense union lies. -/
def places (body : BatchBody) (length : Nat) (supply : Supply) : Decoded (List Int × Supply) := do
  let aligned := body.isAligned 4 supply
  let (words, supply) ← body.buffer supply
  insist (length * 4 ≤ words.length)
  insist aligned
  .ok ((wordsOf 4 length words).map fun (word : Nat) => Int.bmod word (2 ^ 32), supply)

/-- Reads the ids of the members of a union and, for a dense one, the places in them. Before the
current version of the format a bitmap precedes them, which counts for nothing. -/
def unionIndex (body : BatchBody) (mode : UnionMode) (supply : Supply) :
    Decoded ((Bytes × Option (List Int)) × Supply) := do
  let (node, supply) ← supply.node
  let length := toWord node.length
  let (_, supply) ← body.buffers (if body.version < currentVersion then 1 else 0) supply
  let (ids, supply) ← body.buffer supply
  insist (length ≤ ids.length)
  match mode with
  | .sparse => .ok ((ids.take length, none), supply)
  | .dense =>
    let (places, supply) ← body.places length supply
    .ok ((ids.take length, some places), supply)

mutual

def array (body : BatchBody) (id : Int) : DataType → Supply → Decoded (ArrayShape × Supply)
  | .list item, supply => do
    let (node, supply) ← supply.node
    let (bitmap, supply) ← body.buffer supply
    let (offsets, supply) ← body.buffer supply
    let (items, supply) ← body.field item supply
    .ok (← ArrayShape.ofLists 4 item.nullable node bitmap offsets items, supply)
  | .largeList item, supply => do
    let (node, supply) ← supply.node
    let (bitmap, supply) ← body.buffer supply
    let (offsets, supply) ← body.buffer supply
    let (items, supply) ← body.field item supply
    .ok (← ArrayShape.ofLists 8 item.nullable node bitmap offsets items, supply)
  | .map entries _, supply => do
    let (node, supply) ← supply.node
    let (bitmap, supply) ← body.buffer supply
    let (offsets, supply) ← body.buffer supply
    let (items, supply) ← body.field entries supply
    let shape ← ArrayShape.ofLists 4 entries.nullable node bitmap offsets items
    insist (isPairType entries.dataType)
    .ok (shape, supply)
  | .fixedSizeList item size, supply => do
    let (node, supply) ← supply.node
    let (bitmap, supply) ← body.buffer supply
    let (items, supply) ← body.field item supply
    .ok (← ArrayShape.ofSizedLists size item.nullable node bitmap items, supply)
  | .struct fields, supply => do
    let (node, supply) ← supply.node
    let (bitmap, supply) ← body.buffer supply
    let (children, supply) ← body.fields fields supply
    .ok (← ArrayShape.ofStructs (fields.map (·.nullable)) node bitmap children, supply)
  | .union members mode, supply => do
    let ((ids, places), supply) ← body.unionIndex mode supply
    let (children, supply) ← body.members members supply
    .ok (← ArrayShape.ofUnion children ids places, supply)
  | .runEndEncoded ends values, supply => do
    let (node, supply) ← supply.node
    let (bounds, supply) ← body.field ends supply
    let (runs, supply) ← body.field values supply
    match runEndWidth? ends.dataType with
    | some width => .ok (← ArrayShape.ofRuns width ends.nullable node bounds runs, supply)
    | none => undecodable
  | .dictionary key value, supply => body.keys id key value supply
  | type, supply =>
    match SlotLayout.ofType? type with
    | some layout => body.slots layout supply
    | none => undecodable

def field (body : BatchBody) : Field → Supply → Decoded (ArrayShape × Supply)
  | ⟨_, dataType, _, id, _, _⟩, supply => body.array id.toInt dataType supply

def fields (body : BatchBody) : List Field → Supply → Decoded (List ArrayShape × Supply)
  | [], supply => .ok ([], supply)
  | first :: rest, supply => do
    let (shape, supply) ← body.field first supply
    let (shapes, supply) ← body.fields rest supply
    .ok (shape :: shapes, supply)

def members (body : BatchBody) :
    List (Int × Field) → Supply → Decoded (List (Int × ArrayShape) × Supply)
  | [], supply => .ok ([], supply)
  | (id, first) :: rest, supply => do
    let (shape, supply) ← body.field first supply
    let (shapes, supply) ← body.members rest supply
    .ok ((id, shape) :: shapes, supply)

end

end BatchBody

end Columnar.Ipc
