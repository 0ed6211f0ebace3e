import Columnar.Arithmetic

/-!
Arenas: owners of items under a byte budget. An item is stored at its footprint, found again through
the handle it was stored under, and dropped only when the whole arena is released. A release starts
a new generation, and a handle of an earlier generation finds nothing.

Every operation answers together with the arena it leaves, so that a failed one has to say what it
left behind. Budgets and footprints are words of 64 bits.
-/
namespace Columnar

/-- What an arena reserves for an item, in bytes. -/
class Footprint (α : Type) where
  bytes : α → UInt64

/-- A reference to one item: the arena that issued it, that arena's generation, and the slot. -/
structure Handle where
  arena : Nat
  generation : Nat
  slot : Nat
  deriving DecidableEq, Repr, Inhabited

inductive ArenaError where
  | capacityExceeded (arena : Nat) (requested reserved capacity : UInt64)
  | foreignHandle (arena handleArena : Nat)
  | released (arena handleGeneration generation : Nat)
  | slotOutOfRange (arena slot length : Nat)
  deriving DecidableEq, Repr

namespace ArenaError

def message : ArenaError → String
  | capacityExceeded arena requested reserved capacity =>
    s!"arena {arena} capacity exceeded: requested {requested} bytes with " ++
    s!"{reserved} of {capacity} already reserved"
  | foreignHandle arena handleArena =>
    s!"handle belongs to arena {handleArena}, not arena {arena}"
  | released arena handleGeneration generation =>
    s!"handle from generation {handleGeneration} used after release " ++
    s!"(arena {arena} is at generation {generation})"
  | slotOutOfRange arena slot length =>
    s!"slot {slot} is out of range for arena {arena} holding {length} items"

end ArenaError

structure Arena (α : Type) where
  id : Nat
  capacity : UInt64
  generation : Nat
  reserved : UInt64
  items : List α
  deriving DecidableEq, Repr

namespace Arena

variable {α : Type}

/-- The greatest word: the budget of an arena without one, and the footprint of too many items. -/
def unlimited : UInt64 :=
  UInt64.ofNat (2 ^ 64 - 1)

def new (id : Nat) (capacity : UInt64) : Arena α :=
  ⟨id, capacity, 0, 0, []⟩

instance : Inhabited (Arena α) := ⟨new 0 unlimited⟩

def size (arena : Arena α) : Nat :=
  arena.items.length

def isEmpty (arena : Arena α) : Bool :=
  arena.items.isEmpty

def room (arena : Arena α) : UInt64 :=
  arena.capacity - arena.reserved

/-- Refuses a request that is above what the budget still has. -/
def ensureRoom (arena : Arena α) (requested : UInt64) : Except ArenaError Unit :=
  if arena.room < requested then
    .error (.capacityExceeded arena.id requested arena.reserved arena.capacity)
  else .ok ()

def handle (arena : Arena α) (slot : Nat) : Handle :=
  ⟨arena.id, arena.generation, slot⟩

/-- The arena with `items` stored at a footprint of `requested` in all. -/
def extend (arena : Arena α) (requested : UInt64) (items : List α) : Arena α :=
  { arena with reserved := arena.reserved + requested, items := arena.items ++ items }

def insert [Footprint α] (arena : Arena α) (item : α) : Except ArenaError Handle × Arena α :=
  let requested := Footprint.bytes item
  match arena.ensureRoom requested with
  | .error e => (.error e, arena)
  | .ok () => (.ok (arena.handle arena.size), arena.extend requested [item])

def boundedSum (a b : UInt64) : UInt64 :=
  if a.toNat + b.toNat < 2 ^ 64 then a + b else unlimited

def totalFootprint [Footprint α] (items : List α) : UInt64 :=
  items.foldl (fun total item => boundedSum total (Footprint.bytes item)) 0

/-- The sum of the footprints as words are added, which wraps around. -/
def plainFootprint [Footprint α] (items : List α) : UInt64 :=
  (items.map Footprint.bytes).sum

def insertAll [Footprint α] (arena : Arena α) (items : List α) :
    Except ArenaError (List Handle) × Arena α :=
  let requested := totalFootprint items
  match arena.ensureRoom requested with
  | .error e => (.error e, arena)
  | .ok () =>
    (.ok ((List.range' arena.size items.length).map arena.handle), arena.extend requested items)

def get (arena : Arena α) (handle : Handle) : Except ArenaError α :=
  if handle.arena ≠ arena.id then
    .error (.foreignHandle arena.id handle.arena)
  else if handle.generation ≠ arena.generation then
    .error (.released arena.id handle.generation arena.generation)
  else match arena.items[handle.slot]? with
    | some item => .ok item
    | none => .error (.slotOutOfRange arena.id handle.slot arena.size)

def release (arena : Arena α) : Arena α :=
  { arena with generation := arena.generation + 1, reserved := 0, items := [] }

def describe (arena : Arena α) : String :=
  s!"Arena \x7b id: {arena.id}, capacity: {arena.capacity}, generation: {arena.generation}, " ++
  s!"reserved: {arena.reserved}, items: {arena.size} \x7d"

end Arena

end Columnar
