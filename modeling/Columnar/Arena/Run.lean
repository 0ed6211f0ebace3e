import Columnar.Arena

/-!
Runs of operations over many arenas. A `Pool` holds arenas that are numbered in the order in which
they were made; a step acts on one of them and may hand out handles, which are numbered through the
whole run.
-/
namespace Columnar

structure Pool (α : Type) where
  arenas : List (Arena α)
  deriving DecidableEq, Repr

namespace Pool

variable {α : Type}

def empty : Pool α :=
  ⟨[]⟩

def addArena (pool : Pool α) (capacity : UInt64) : Pool α :=
  ⟨pool.arenas ++ [Arena.new pool.arenas.length capacity]⟩

def get? (pool : Pool α) (id : Nat) : Option (Arena α) :=
  pool.arenas[id]?

def set (pool : Pool α) (id : Nat) (arena : Arena α) : Pool α :=
  ⟨pool.arenas.set id arena⟩

end Pool

inductive ArenaStep (α : Type) where
  | new (capacity : UInt64)
  | insert (arena : Nat) (item : α)
  | insertAll (arena : Nat) (items : List α)
  | ensureRoom (arena : Nat) (bytes : UInt64)
  | get (arena handle : Nat)
  | same (arena handle other : Nat)
  | release (arena : Nat)
  | describe (arena : Nat)
  deriving DecidableEq, Repr

inductive ArenaAnswer (α : Type) where
  | arena (id : Nat)
  | handles (first : Nat) (handles : List Handle)
  | item (item : α)
  | truth (value : Bool)
  | text (text : String)
  | done
  | refused (cause : ArenaError)
  /-- The step names an arena or a handle that there is not. -/
  | unknown
  deriving DecidableEq, Repr

structure ArenaRun (α : Type) where
  pool : Pool α
  handles : List Handle
  deriving DecidableEq, Repr

namespace ArenaRun

variable {α : Type}

def start : ArenaRun α :=
  ⟨.empty, []⟩

/-- Takes note of a state of an arena and of handles that were handed out for it. -/
def record (run : ArenaRun α) (id : Nat) (arena : Arena α) (handles : List Handle) : ArenaRun α :=
  ⟨run.pool.set id arena, run.handles ++ handles⟩

def step [Footprint α] (run : ArenaRun α) : ArenaStep α → ArenaAnswer α × ArenaRun α
  | .new capacity =>
    (.arena run.pool.arenas.length, { run with pool := run.pool.addArena capacity })
  | .insert id item =>
    match run.pool.get? id with
    | none => (.unknown, run)
    | some arena =>
      match arena.insert item with
      | (.ok handle, arena) => (.handles run.handles.length [handle], run.record id arena [handle])
      | (.error cause, arena) => (.refused cause, run.record id arena [])
  | .insertAll id items =>
    match run.pool.get? id with
    | none => (.unknown, run)
    | some arena =>
      match arena.insertAll items with
      | (.ok handles, arena) => (.handles run.handles.length handles, run.record id arena handles)
      | (.error cause, arena) => (.refused cause, run.record id arena [])
  | .ensureRoom id bytes =>
    match run.pool.get? id with
    | none => (.unknown, run)
    | some arena =>
      match arena.ensureRoom bytes with
      | .ok () => (.done, run)
      | .error cause => (.refused cause, run)
  | .get id number =>
    match run.pool.get? id, run.handles[number]? with
    | some arena, some handle =>
      match arena.get handle with
      | .ok item => (.item item, run)
      | .error cause => (.refused cause, run)
    | _, _ => (.unknown, run)
  | .same id number other =>
    match run.pool.get? id, run.handles[number]?, run.handles[other]? with
    | some _, some a, some b => (.truth (a = b), run)
    | _, _, _ => (.unknown, run)
  | .release id =>
    match run.pool.get? id with
    | none => (.unknown, run)
    | some arena => (.done, run.record id arena.release [])
  | .describe id =>
    match run.pool.get? id with
    | none => (.unknown, run)
    | some arena => (.text arena.describe, run)

def steps [Footprint α] (run : ArenaRun α) : List (ArenaStep α) →
    List (ArenaAnswer α × ArenaRun α)
  | [] => []
  | step :: rest =>
    let done := run.step step
    done :: done.2.steps rest

/-- An item that is nothing but what it takes. -/
structure Block where
  size : UInt64
  deriving DecidableEq, Repr

instance : Footprint Block := ⟨Block.size⟩

end ArenaRun

end Columnar
