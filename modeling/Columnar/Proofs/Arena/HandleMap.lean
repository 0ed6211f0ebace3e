import Columnar.Arena.Run
import Mathlib.Data.List.Forall2
import Mathlib.Data.List.Nodup

/-!
Arenas as a map from handles to items. A ledger keeps, beside a run, what was stored under every
handle that the run gave out and whether the arena has been released since. `Change` lists what a
step can do to a run and its ledger; `Accounted` ties every handle to the generation and the items of
the arena that issued it, and every change keeps it.
-/
namespace Columnar

/-- What was stored under a handle, where, and whether that arena has not been released since. -/
structure Issue (α : Type) where
  arena : Nat
  item : α
  live : Bool

/-- The issues of a run in the order of its handles. -/
abbrev Ledger (α : Type) := List (Issue α)

namespace Ledger

variable {α : Type}

def retire (ledger : Ledger α) (id : Nat) : Ledger α :=
  ledger.map fun issue => if issue.arena = id then { issue with live := false } else issue

def note (ledger : Ledger α) : ArenaStep α → ArenaAnswer α → Ledger α
  | .insert id item, .handles _ _ => ledger ++ [⟨id, item, true⟩]
  | .insertAll id items, .handles _ _ => ledger ++ items.map (⟨id, ·, true⟩)
  | .release id, .done => ledger.retire id
  | _, _ => ledger

end Ledger

/-- The arena that a step acts on. Opening an arena acts on none. -/
def ArenaStep.target? {α : Type} : ArenaStep α → Option Nat
  | .new _ => none
  | .insert id _ | .insertAll id _ | .ensureRoom id _ | .get id _ | .same id _ _ | .release id
  | .describe id => some id

namespace ArenaRun

variable {α : Type} [Footprint α]

def recordedFrom (run : ArenaRun α) (ledger : Ledger α) :
    List (ArenaStep α) → ArenaRun α × Ledger α
  | [] => (run, ledger)
  | step :: rest =>
    let done := run.step step
    recordedFrom done.2 (ledger.note step done.1) rest

/-- The run of the given steps, with its ledger. -/
def recorded (steps : List (ArenaStep α)) : ArenaRun α × Ledger α :=
  recordedFrom start [] steps

theorem recordedFrom_run (run : ArenaRun α) (ledger : Ledger α) (steps : List (ArenaStep α)) :
    (run.recordedFrom ledger steps).1 = ((run.steps steps).map (·.2)).getLastD run := by
  induction steps generalizing run ledger with
  | nil => rfl
  | cons step rest ih =>
    rw [recordedFrom, ih]
    cases later : (run.step step).2.steps rest with
    | nil => simp [steps, later]
    | cons next others => simp [steps, later, List.getLastD]

end ArenaRun

namespace Pool

variable {α : Type}

theorem get?_set (pool : Pool α) (id other : Nat) (arena : Arena α) :
    (pool.set id arena).get? other =
      if id = other ∧ id < pool.arenas.length then some arena else pool.get? other := by
  simp only [get?, set, List.getElem?_set]
  by_cases same : id = other
  · subst same
    by_cases inside : id < pool.arenas.length <;> simp [inside]
  · simp [same]

private theorem set_get? (pool : Pool α) (id : Nat) (arena : Arena α)
    (found : pool.get? id = some arena) :
    pool.set id arena = pool := by
  obtain ⟨inside, rfl⟩ := List.getElem?_eq_some_iff.mp found
  simp [set]

private theorem lt_of_get? {pool : Pool α} {id : Nat} {arena : Arena α}
    (found : pool.get? id = some arena) : id < pool.arenas.length :=
  (List.getElem?_eq_some_iff.mp found).1

theorem get?_addArena (pool : Pool α) (capacity : UInt64) (id : Nat) :
    (pool.addArena capacity).get? id =
      if id = pool.arenas.length then some (Arena.new id capacity) else pool.get? id := by
  simp only [get?, addArena, List.getElem?_append, List.getElem?_singleton]
  grind

end Pool

namespace ArenaRun

variable {α : Type} [Footprint α]

/-- What one step can do to a run and its ledger. -/
inductive Change (run : ArenaRun α) (ledger : Ledger α) :
    Option Nat → ArenaRun α → Ledger α → Prop
  | rest (target) : Change run ledger target run ledger
  | opened (capacity) :
    Change run ledger none { run with pool := run.pool.addArena capacity } ledger
  | stored (id arena requested items) (found : run.pool.get? id = some arena) :
    Change run ledger (some id)
      (run.record id (arena.extend requested items)
        ((List.range' arena.size items.length).map arena.handle))
      (ledger ++ items.map (⟨id, ·, true⟩))
  | released (id arena) (found : run.pool.get? id = some arena) :
    Change run ledger (some id) (run.record id arena.release []) (ledger.retire id)

omit [Footprint α] in
private theorem record_nothing (run : ArenaRun α) (id : Nat) (arena : Arena α)
    (found : run.pool.get? id = some arena) : run.record id arena [] = run := by
  simp [record, Pool.set_get? _ _ _ found]

theorem change_step (run : ArenaRun α) (ledger : Ledger α) (step : ArenaStep α) :
    Change run ledger step.target? (run.step step).2 (ledger.note step (run.step step).1) := by
  cases step with
  | new capacity => exact .opened capacity
  | insert id item =>
    cases found : run.pool.get? id with
    | none => simpa [ArenaRun.step, found, Ledger.note] using .rest _
    | some arena =>
      cases room : arena.ensureRoom (Footprint.bytes item) with
      | error cause =>
        simpa [ArenaRun.step, found, Arena.insert, room, Ledger.note,
          record_nothing _ _ _ found] using .rest _
      | ok _ =>
        simpa [ArenaRun.step, found, Arena.insert, room, Ledger.note, ArenaStep.target?] using
          Change.stored id arena (Footprint.bytes item) [item] found
  | insertAll id items =>
    cases found : run.pool.get? id with
    | none => simpa [ArenaRun.step, found, Ledger.note] using .rest _
    | some arena =>
      cases room : arena.ensureRoom (Arena.totalFootprint items) with
      | error cause =>
        simpa [ArenaRun.step, found, Arena.insertAll, room, Ledger.note,
          record_nothing _ _ _ found] using .rest _
      | ok _ =>
        simpa [ArenaRun.step, found, Arena.insertAll, room, Ledger.note, ArenaStep.target?] using
          Change.stored id arena (Arena.totalFootprint items) items found
  | ensureRoom id bytes =>
    simp only [ArenaRun.step, Ledger.note]
    split
    · exact .rest _
    · split <;> exact .rest _
  | get id number =>
    simp only [ArenaRun.step, Ledger.note]
    split
    · split <;> exact .rest _
    · exact .rest _
  | same id number other =>
    simp only [ArenaRun.step, Ledger.note]
    split <;> exact .rest _
  | release id =>
    cases found : run.pool.get? id with
    | none => simpa [ArenaRun.step, found, Ledger.note] using .rest _
    | some arena =>
      simpa [ArenaRun.step, found, Ledger.note, ArenaStep.target?] using
        Change.released id arena found
  | describe id =>
    simp only [ArenaRun.step, Ledger.note]
    split <;> exact .rest _

end ArenaRun

/-- How a handle and what was stored under it belong together: the item lies in the handle's slot, or
the handle is of an earlier generation. -/
structure Issued {α : Type} (pool : Pool α) (handle : Handle) (issue : Issue α) : Prop where
  arena : handle.arena = issue.arena
  held : ∃ arena, pool.get? issue.arena = some arena ∧
    if issue.live then
      handle.generation = arena.generation ∧ arena.items[handle.slot]? = some issue.item
    else handle.generation < arena.generation

private theorem related_of_mem {A B : Type} {R : A → B → Prop} {xs : List A} {ys : List B}
    (related : List.Forall₂ R xs ys) {a : A} (member : a ∈ xs) : ∃ b, R a b := by
  induction related with
  | nil => cases member
  | cons head _ ih =>
    rcases List.mem_cons.mp member with rfl | inside
    · exact ⟨_, head⟩
    · exact ih inside

namespace Issued

variable {α : Type} {pool : Pool α} {handle : Handle} {issue : Issue α}

private theorem opened (issued : Issued pool handle issue) (capacity : UInt64) :
    Issued (pool.addArena capacity) handle issue := by
  obtain ⟨arena, found, held⟩ := issued.held
  have before : issue.arena ≠ pool.arenas.length := Nat.ne_of_lt (Pool.lt_of_get? found)
  exact ⟨issued.arena, arena, by rw [Pool.get?_addArena, if_neg before, found], held⟩

private theorem stored (issued : Issued pool handle issue) {id : Nat} {arena : Arena α}
    (found : pool.get? id = some arena) (requested : UInt64) (items : List α) :
    Issued (pool.set id (arena.extend requested items)) handle issue := by
  refine ⟨issued.arena, ?_⟩
  obtain ⟨own, foundOwn, held⟩ := issued.held
  by_cases here : id = issue.arena
  · subst here
    obtain rfl : arena = own := Option.some.inj (found.symm.trans foundOwn)
    refine ⟨arena.extend requested items, ?_, ?_⟩
    · rw [Pool.get?_set, if_pos ⟨rfl, Pool.lt_of_get? found⟩]
    · split at held
      case isTrue live =>
        rw [if_pos live]
        have inside := (List.getElem?_eq_some_iff.mp held.2).1
        exact ⟨held.1, (List.getElem?_append_left inside).trans held.2⟩
      case isFalse gone =>
        rw [if_neg gone]
        exact held
  · exact ⟨own, by rw [Pool.get?_set, if_neg (fun both => here both.1), foundOwn], held⟩

private theorem released (issued : Issued pool handle issue) {id : Nat} {arena : Arena α}
    (found : pool.get? id = some arena) :
    Issued (pool.set id arena.release) handle
      (if issue.arena = id then { issue with live := false } else issue) := by
  obtain ⟨own, foundOwn, held⟩ := issued.held
  by_cases here : issue.arena = id
  · rw [if_pos here]
    subst here
    obtain rfl : arena = own := Option.some.inj (found.symm.trans foundOwn)
    refine ⟨issued.arena, arena.release, ?_, ?_⟩
    · rw [Pool.get?_set, if_pos ⟨rfl, Pool.lt_of_get? found⟩]
    · have reached : handle.generation ≤ arena.generation := by
        split at held
        · exact Nat.le_of_eq held.1
        · exact Nat.le_of_lt held
      simpa [Arena.release] using Nat.lt_succ_of_le reached
  · rw [if_neg here]
    exact ⟨issued.arena, own,
      by rw [Pool.get?_set, if_neg (fun both => here both.1.symm), foundOwn], held⟩

end Issued

namespace ArenaRun

variable {α : Type}

/-- What holds of every run with its ledger. -/
structure Accounted (run : ArenaRun α) (ledger : Ledger α) : Prop where
  ids : ∀ id arena, run.pool.get? id = some arena → arena.id = id
  distinct : run.handles.Nodup
  issued : List.Forall₂ (Issued run.pool) run.handles ledger

theorem accounted_start : Accounted (start : ArenaRun α) [] where
  ids id arena found := by simp [start, Pool.get?, Pool.empty] at found
  distinct := .nil
  issued := .nil

private theorem ids_record {run : ArenaRun α}
    (ids : ∀ id arena, run.pool.get? id = some arena → arena.id = id) {id : Nat} {arena next : Arena α}
    (found : run.pool.get? id = some arena) (same : next.id = arena.id) (handles : List Handle)
    (other : Nat) (held : Arena α)
    (foundOther : (run.record id next handles).pool.get? other = some held) : held.id = other := by
  simp only [record, Pool.get?_set] at foundOther
  split at foundOther
  case isTrue here =>
    obtain rfl := Option.some.inj foundOther
    rw [same, ids id arena found, here.1]
  case isFalse elsewhere => exact ids other held foundOther

private theorem not_mem_fresh {run : ArenaRun α} {ledger : Ledger α} (accounted : Accounted run ledger)
    {id : Nat} {arena : Arena α} (found : run.pool.get? id = some arena) (slot : Nat)
    (fresh : arena.size ≤ slot) : arena.handle slot ∉ run.handles := by
  intro old
  obtain ⟨issue, issued⟩ := related_of_mem accounted.issued old
  obtain ⟨own, foundOwn, held⟩ := issued.held
  have here : issue.arena = id := issued.arena.symm.trans (accounted.ids id arena found)
  rw [here, found] at foundOwn
  obtain rfl := Option.some.inj foundOwn
  split at held
  · have filled := (List.getElem?_eq_some_iff.mp held.2).1
    exact absurd filled (Nat.not_lt.mpr fresh)
  · exact Nat.lt_irrefl _ held

theorem Accounted.change {run next : ArenaRun α} {ledger after : Ledger α} {target : Option Nat}
    (accounted : Accounted run ledger) (change : Change run ledger target next after) :
    Accounted next after := by
  cases change with
  | rest => exact accounted
  | opened capacity =>
    refine ⟨?_, accounted.distinct, accounted.issued.imp fun _ _ issued => issued.opened capacity⟩
    intro id arena found
    rw [Pool.get?_addArena] at found
    split at found
    case isTrue last =>
      obtain rfl := Option.some.inj found
      rfl
    case isFalse => exact accounted.ids id arena found
  | stored id arena requested items found =>
    have same : (arena.extend requested items).id = arena.id := rfl
    refine ⟨ids_record accounted.ids found same _, ?_, ?_⟩
    · refine List.nodup_append.mpr ⟨accounted.distinct, ?_, ?_⟩
      · exact List.Nodup.map (fun a b same => congrArg Handle.slot same) List.nodup_range'
      · rintro _ old _ new rfl
        obtain ⟨slot, member, rfl⟩ := List.mem_map.mp new
        exact not_mem_fresh accounted found slot (List.mem_range'_1.mp member).1 old
    · refine List.rel_append
        (accounted.issued.imp fun _ _ issued => issued.stored found requested items) ?_
      rw [List.forall₂_map_left_iff, List.forall₂_map_right_iff, List.forall₂_iff_get]
      refine ⟨by simp, fun index left right => ⟨?_, arena.extend requested items, ?_, ?_⟩⟩
      · exact accounted.ids id arena found
      · rw [record, Pool.get?_set, if_pos ⟨rfl, Pool.lt_of_get? found⟩]
      · have inside : index < items.length := by simpa using right
        simp [Arena.handle, Arena.extend, Arena.size, inside]
  | released id arena found =>
    have same : arena.release.id = arena.id := rfl
    refine ⟨ids_record accounted.ids found same _, by simpa [record] using accounted.distinct, ?_⟩
    rw [record, List.append_nil, Ledger.retire, List.forall₂_map_right_iff]
    exact accounted.issued.imp fun _ _ issued => issued.released found

theorem Accounted.recordedFrom [Footprint α] {run : ArenaRun α} {ledger : Ledger α}
    (accounted : Accounted run ledger) (steps : List (ArenaStep α)) :
    Accounted (run.recordedFrom ledger steps).1 (run.recordedFrom ledger steps).2 := by
  induction steps generalizing run ledger with
  | nil => exact accounted
  | cons step rest ih => exact ih (accounted.change (change_step run ledger step))

private theorem Change.pool_get? [Footprint α] {run next : ArenaRun α} {ledger after : Ledger α}
    {target : Option Nat} (change : Change run ledger target next after) {id : Nat}
    (inside : id < run.pool.arenas.length) (other : target ≠ some id) :
    next.pool.get? id = run.pool.get? id := by
  cases change with
  | rest => rfl
  | opened capacity => rw [Pool.get?_addArena, if_neg (Nat.ne_of_lt inside)]
  | stored own arena requested items found =>
    rw [record, Pool.get?_set, if_neg]
    rintro ⟨rfl, _⟩
    exact other rfl
  | released own arena found =>
    rw [record, Pool.get?_set, if_neg]
    rintro ⟨rfl, _⟩
    exact other rfl

end ArenaRun

private theorem Issued.get {α : Type} {pool : Pool α} {handle : Handle} {issue : Issue α}
    (issued : Issued pool handle issue) {arena : Arena α}
    (found : pool.get? arena.id = some arena) :
    arena.get handle =
      if issue.arena ≠ arena.id then .error (.foreignHandle arena.id issue.arena)
      else if issue.live then .ok issue.item
      else .error (.released arena.id handle.generation arena.generation) := by
  rw [Arena.get, issued.arena]
  by_cases foreign : issue.arena ≠ arena.id
  · rw [if_pos foreign, if_pos foreign]
  · rw [if_neg foreign, if_neg foreign]
    obtain ⟨own, foundOwn, held⟩ := issued.held
    rw [not_ne_iff.mp foreign, found] at foundOwn
    obtain rfl := Option.some.inj foundOwn
    split at held
    case isTrue live => rw [if_neg (not_ne_iff.mpr held.1), held.2, if_pos live]
    case isFalse gone => rw [if_pos (Nat.ne_of_lt held), if_neg gone]

private theorem Issued.generation_lt {α : Type} {pool : Pool α} {handle : Handle} {issue : Issue α}
    (issued : Issued pool handle issue) (retired : issue.live = false) {arena : Arena α}
    (found : pool.get? issue.arena = some arena) : handle.generation < arena.generation := by
  obtain ⟨own, foundOwn, held⟩ := issued.held
  obtain rfl := Option.some.inj (found.symm.trans foundOwn)
  simpa [retired] using held

/-- After any run, all handles differ, a handle finds the item stored under it exactly on the arena
that issued it and until that arena is released, every other use of it is refused for the right
reason, and a step on one arena leaves all others as they are. -/
theorem ArenaRun.handles_find_items {α : Type} [Footprint α] (steps : List (ArenaStep α)) :
    let run := (recorded steps).1
    let ledger := (recorded steps).2
    run.handles.Nodup ∧ run.handles.length = ledger.length ∧
    (∀ (number : Nat) (handle : Handle) (issue : Issue α),
      run.handles[number]? = some handle → ledger[number]? = some issue →
      ∀ id arena, run.pool.get? id = some arena →
        (∀ item, arena.get handle = .ok item ↔
          issue.arena = id ∧ issue.live = true ∧ issue.item = item) ∧
        (issue.arena ≠ id → arena.get handle = .error (.foreignHandle id issue.arena)) ∧
        (issue.arena = id → issue.live = false → handle.generation < arena.generation ∧
          arena.get handle = .error (.released id handle.generation arena.generation)) ∧
        ∀ owner slot length, arena.get handle ≠ .error (.slotOutOfRange owner slot length)) ∧
    ∀ step id, id < run.pool.arenas.length → step.target? ≠ some id →
      (run.step step).2.pool.get? id = run.pool.get? id := by
  intro run ledger
  have accounted : Accounted run ledger := accounted_start.recordedFrom steps
  refine ⟨accounted.distinct, accounted.issued.length_eq, ?_, ?_⟩
  · intro number handle issue given noted id arena found
    obtain ⟨left, rfl⟩ := List.getElem?_eq_some_iff.mp given
    obtain ⟨right, rfl⟩ := List.getElem?_eq_some_iff.mp noted
    have issued : Issued run.pool run.handles[number] ledger[number] :=
      (List.forall₂_iff_get.mp accounted.issued).2 number left right
    obtain rfl := accounted.ids id arena found
    rw [issued.get found]
    refine ⟨?_, ?_, ?_, ?_⟩
    · intro item
      grind
    · intro foreign
      rw [if_pos foreign]
    · intro own retired
      refine ⟨issued.generation_lt retired (own ▸ found), ?_⟩
      rw [if_neg (not_ne_iff.mpr own), if_neg (by simp [retired])]
    · intro owner slot length
      split
      · simp
      · split <;> simp
  · intro step id inside other
    exact (change_step run ledger step).pool_get? inside other

namespace ArenaRun

/-- Two arenas of ten bytes, of which the first is released and filled again. What is to be stored in it
before that is too much at once. -/
def refilling : List (ArenaStep Block) :=
  [.new 10, .new 10, .insert 0 ⟨3⟩, .insertAll 1 [⟨4⟩, ⟨5⟩], .insertAll 0 [⟨4⟩, ⟨4⟩], .release 0,
    .insert 0 ⟨6⟩]

theorem handles_find_items_refilling :
    let run := (recorded refilling).1
    run.handles = [⟨0, 0, 0⟩, ⟨1, 0, 0⟩, ⟨1, 0, 1⟩, ⟨0, 1, 0⟩] ∧ run.handles.Nodup ∧
      ∃ first second, run.pool.get? 0 = some first ∧ run.pool.get? 1 = some second ∧
        first.get ⟨0, 0, 0⟩ = .error (.released 0 0 1) ∧ first.get ⟨0, 1, 0⟩ = .ok ⟨6⟩ ∧
        first.get ⟨1, 0, 1⟩ = .error (.foreignHandle 0 1) ∧ second.get ⟨1, 0, 1⟩ = .ok ⟨5⟩ ∧
        (run.step (.release 1)).2.pool.get? 0 = some first := by
  intro run
  obtain ⟨distinct, -, finds, apart⟩ := handles_find_items refilling
  obtain ⟨first, found⟩ : ∃ first, run.pool.get? 0 = some first := ⟨_, rfl⟩
  obtain ⟨second, found'⟩ : ∃ second, run.pool.get? 1 = some second := ⟨_, rfl⟩
  have released := (finds 0 _ _ rfl rfl 0 first found).2.2.1 rfl rfl
  have generation : first.generation = 1 := by
    obtain rfl := Option.some.inj (found.symm.trans (rfl : run.pool.get? 0 = some _))
    rfl
  rw [generation] at released
  exact ⟨by decide +kernel, distinct, first, second, found, found', released.2,
    ((finds 3 _ _ rfl rfl 0 first found).1 _).mpr ⟨rfl, rfl, rfl⟩,
    (finds 2 _ _ rfl rfl 0 first found).2.1 (by decide),
    ((finds 2 _ _ rfl rfl 1 second found').1 _).mpr ⟨rfl, rfl, rfl⟩,
    (apart (.release 1) 0 (by decide) (by decide)).trans found⟩

end ArenaRun

end Columnar
