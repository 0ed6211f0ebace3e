import Columnar.DataType.Agreement
import Columnar.Ipc.Presence

/-!
Arrays inside arrays. An array of any type has a shape: how many slots it has, which of them its own
bitmap hides, and which of them hold a value in the end. Each `ArrayShape.of…` checks what its type
asks of an array and answers with the shape, so that the array around it can be checked in turn. The
values themselves are kept only where a later check looks at them.
-/
namespace Columnar.Ipc

structure ArrayShape where
  length : Nat
  /-- The array's own bitmap, if it hides a slot. -/
  bitmap : Option (List Bool)
  /-- Which slots hold a value; `none` if nothing could hide one. Whoever asks may find that there
  is no answer. -/
  presence : Decoded (Option Presence)
  /-- Whether the array keeps a bitmap that hides no slot. -/
  hasIdleBitmap : Bool
  words : Bytes

structure DictionaryValues where
  id : Int
  type : DataType
  values : ArrayShape

namespace ArrayShape

def plain (length : Nat) (bitmap : Option (List Bool)) (words : Bytes) : ArrayShape :=
  ⟨length, bitmap, .ok (bitmap.map Presence.ofBits), false, words⟩

def ownBitmap (length : Nat) (nullCount : Int) (bitmap : Bytes) : Decoded (Option (List Bool)) := do
  checkBitmap length nullCount bitmap
  let bits := Bits.unpack length bitmap
  .ok (if 0 < nullCount && bits.contains false then some bits else none)

def ofNulls (node : FieldNode) : Decoded ArrayShape := do
  accept (node.length = node.nullCount)
  let length := toWord node.length
  let presence := if length = 0 then none else some (Presence.nothing length)
  .ok ⟨length, none, .ok presence, false, []⟩

def ofTruths (node : FieldNode) (bitmap values : Bytes) : Decoded ArrayShape := do
  let length := toWord node.length
  let bitmap ← ownBitmap length node.nullCount bitmap
  let _ ← truthValues length values
  .ok (plain length bitmap [])

def ofWords (width : Nat) (node : FieldNode) (bitmap words : Bytes) : Decoded ArrayShape := do
  let length := toWord node.length
  let bitmap ← ownBitmap length node.nullCount bitmap
  accept (length * width ≤ words.length)
  .ok (plain length bitmap words)

def ofStrings (width : Nat) (text : Bool) (node : FieldNode) (bitmap offsets bytes : Bytes) :
    Decoded ArrayShape := do
  let length := toWord node.length
  let bitmap ← ownBitmap length node.nullCount bitmap
  if text then
    let _ ← textValues width length offsets bytes
    .ok (plain length bitmap [])
  else
    let _ ← binaryValues width length offsets bytes
    .ok (plain length bitmap [])

def viewWidth : Nat :=
  16

def inlineLimit : Nat :=
  12

/-- The byte string that a view stands for. A short one follows its length, with zeros up to the
view's end. A long one lies in one of the buffers, and the view repeats its first four bytes. -/
def viewed? (buffers : List Bytes) (view : Bytes) : Option Bytes :=
  let length := Bytes.toNat (view.take 4)
  if length ≤ inlineLimit then
    if (view.drop (4 + length)).all (· = 0) then some (view.slice 4 length) else none
  else do
    let buffer ← buffers[Bytes.toNat (view.slice 8 4)]?
    let part ← buffer.slice? (Bytes.toNat (view.slice 12 4)) length
    if part.take 4 = view.slice 4 4 then some part else none

def piecesOf (width : Nat) : Nat → Bytes → List Bytes
  | 0, _ => []
  | count + 1, bytes => bytes.take width :: piecesOf width count (bytes.drop width)

/-- The shape of an array of texts or byte strings given by views. Every view has to be in order,
also that of a slot the bitmap hides. -/
def ofViews (text : Bool) (node : FieldNode) (buffers : List Bytes) : Decoded ArrayShape := do
  let length := toWord node.length
  match buffers with
  | [] => abort
  | bitmap :: rest =>
    let bitmap ← ownBitmap length node.nullCount bitmap
    match rest with
    | [] => undecodable
    | views :: buffers =>
      accept (length * viewWidth ≤ views.length)
      insist (views.length % viewWidth = 0)
      accept ((piecesOf viewWidth length views).all fun view =>
        (viewed? buffers view).any fun part => !text || (Text.ofBytes? part).isSome)
      .ok (plain length bitmap [])

/-- Whether an array's own bitmap hides only slots that a mask does not show. -/
def hidesWithin (shape : ArrayShape) (mask : Option (Nat → Bool)) : Bool :=
  match shape.bitmap with
  | none => true
  | some bits => bits.zipIdx.all fun (bit, slot) => bit || mask.any (!· slot)

/-- Whether an array lacks values only in slots that a mask does not show. Without a mask it may
have nothing at all that could hide a slot. -/
def lacksWithin (shape : ArrayShape) (mask : Option (List Bool)) : Decoded Bool := do
  match ← shape.presence, mask with
  | none, none => .ok !shape.hasIdleBitmap
  | none, some _ => .ok true
  | some _, none => .ok false
  | some presence, some mask => .ok (presence.fits mask)

def ofLists (width : Nat) (nullable : Bool) (node : FieldNode) (bitmap offsets : Bytes)
    (items : ArrayShape) : Decoded ArrayShape := do
  let length := toWord node.length
  let bitmap ← ownBitmap length node.nullCount bitmap
  let _ ← offsetsOf width length items.length offsets
  accept (nullable || items.hidesWithin none)
  .ok (plain length bitmap [])

/-- The shape of an array of lists of one size. Items that may not be null may be so in a list that
is null. -/
def ofSizedLists (size : Int) (nullable : Bool) (node : FieldNode) (bitmap : Bytes)
    (items : ArrayShape) : Decoded ArrayShape := do
  let length := toWord node.length
  let bitmap ← ownBitmap length node.nullCount bitmap
  accept (0 ≤ size)
  insist (length * size.toNat < 2 ^ 64)
  accept (length * size.toNat ≤ items.length)
  let shown := bitmap.map fun bits item =>
    item < length * size.toNat && bits.getD (item / size.toNat) true
  accept (nullable || items.hidesWithin shown)
  .ok (plain length bitmap [])

/-- Checks the fields of a struct of `length` slots, in order: all are as long, and one that may not
be null lacks values only where the struct is null. -/
def checkFields (length : Nat) (mask : Option (List Bool)) :
    List (Bool × ArrayShape) → Decoded Unit
  | [] => .ok ()
  | (nullable, field) :: rest => do
    accept (field.length = length)
    if !nullable then accept (← field.lacksWithin mask)
    checkFields length mask rest

/-- The shape of an array of structs. Any count of nulls but zero makes the bitmap count. With no
fields the node alone gives the length, and the bitmap is kept also if it hides nothing. -/
def ofStructs (nullable : List Bool) (node : FieldNode) (bytes : Bytes)
    (fields : List ArrayShape) : Decoded ArrayShape := do
  let claimed := toWord node.length
  let bitmap ← ownBitmap claimed (toWord node.nullCount) bytes
  match fields with
  | [] =>
    .ok { plain claimed bitmap [] with hasIdleBitmap := node.nullCount ≠ 0 && bitmap.isNone }
  | first :: _ =>
    accept (node.nullCount = 0 || claimed = first.length)
    let mask := if node.nullCount = 0 then none else some (Bits.unpack claimed bytes)
    checkFields first.length mask (nullable.zip fields)
    .ok (plain first.length bitmap [])

def ascendsFromZero (width : Nat) (words : List Nat) : Bool :=
  words.all (fun word => 0 < word && word < 256 ^ width / 2) &&
    (words.zip words.tail).all fun (first, second) => first < second

def ofRuns (width : Nat) (nullable : Bool) (node : FieldNode) (ends values : ArrayShape) :
    Decoded ArrayShape := do
  accept (ends.length = values.length)
  accept (!nullable && ends.hidesWithin none)
  let bounds := wordsOf width ends.length ends.words
  accept (ascendsFromZero width bounds)
  let length := toWord node.length
  let presence : Decoded (Option Presence) := do
    match ← values.presence with
    | none => .ok none
    | some presence => some <$> demand (presence.ofRuns? length bounds)
  .ok ⟨length, none, presence, false, []⟩

/-- The shape of an array of keys into a dictionary for values of a type. Every key that the bitmap
leaves has to be in range. A value is missing where the bitmap of the dictionary's values hides
it. -/
def ofKeys (width : Nat) (signed : Bool) (type : DataType) (node : FieldNode) (bitmap keys : Bytes)
    (dictionary : DictionaryValues) : Decoded ArrayShape := do
  let length := toWord node.length
  let bitmap ← ownBitmap length node.nullCount bitmap
  accept (length * width ≤ keys.length)
  accept (type.agrees dictionary.type)
  let values := dictionary.values
  insist (values.length < 2 ^ 63)
  insist (keys.length % width = 0)
  let limit := if signed then min values.length (256 ^ width / 2) else values.length
  let keys := wordsOf width length keys
  let shown (slot : Nat) : Bool := bitmap.all (·.getD slot true)
  accept (keys.zipIdx.all fun (key, slot) => !shown slot || key < limit)
  let presence := match values.bitmap with
    | none => bitmap.map Presence.ofBits
    | some held =>
      some (Presence.ofBits (keys.zipIdx.map fun (key, slot) => shown slot && held.getD key true))
  .ok ⟨length, bitmap, .ok presence, false, []⟩

def member? (members : List (Int × ArrayShape)) (id : UInt8) : Option ArrayShape :=
  (members.find? (·.1 = (id.toNat : Int))).map (·.2)

def memberLimit (shape : ArrayShape) : Int :=
  Int.bmod shape.length (2 ^ 32)

/-- The members of a union that miss a value, and what they hold. -/
def lackingMembers : List (Int × ArrayShape) → Decoded (List (Int × Presence))
  | [] => .ok []
  | (id, shape) :: rest => do
    let presence ← shape.presence
    let lacking ← lackingMembers rest
    match presence with
    | some presence => .ok (if 0 < presence.missing then (id, presence) :: lacking else lacking)
    | none => .ok lacking

/-- Which slots of a union hold a value, each slot lying at a place of a member. A union of one
member answers as that member does, whatever the places. -/
def unionPresence (members : List (Int × ArrayShape)) (slots : List (Int × Nat)) :
    Decoded (Option Presence) :=
  match members with
  | [] => .ok none
  | [(_, only)] => only.presence
  | _ => do
    let lacking ← lackingMembers members
    .ok (if lacking = [] then none else Presence.ofPlaces members.length lacking slots)

/-- The shape of an array of union values: the ids of their members and, for a dense union, where in
its member each lies. The least signed word stands for no member. -/
def ofUnion (members : List (Int × ArrayShape)) (ids : Bytes) (offsets : Option (List Int)) :
    Decoded ArrayShape := do
  let length := ids.length
  accept (offsets.isSome || members.all (·.2.length = length))
  insist (members.all (0 ≤ ·.1))
  accept (ids.all fun id => (member? members id).any (memberLimit · ≠ -2 ^ 31))
  accept ((ids.zip (offsets.getD [])).all fun (id, offset) =>
    0 ≤ offset && (member? members id).any (offset < memberLimit ·))
  let places := offsets.elim (List.range length) (·.map Int.toNat)
  let slots := (ids.zip places).map fun (id, place) => ((id.toNat : Int), place)
  .ok ⟨length, none, unionPresence members slots, false, []⟩

end ArrayShape

end Columnar.Ipc
