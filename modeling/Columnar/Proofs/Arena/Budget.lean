import Columnar.Proofs.Arena.HandleMap
import Columnar.Proofs.Arena.Room

/-!
Budgets of arenas. What an arena has reserved never exceeds its capacity, so that its room is a true
difference and no reservation wraps around; and below the greatest capacity it is what the items in the
arena take. Every operation keeps this (`Balanced`), so it holds all along any run
(`ArenaRun.budgets_hold`). The greatest capacity is another matter, because a request for more than a
word can count is taken for one of the greatest word.
-/
namespace Columnar

namespace Arena

variable {α : Type} [Footprint α]

/-- What items take, counted without a limit. -/
def footprints (items : List α) : Nat :=
  (items.map fun item => (Footprint.bytes item).toNat).sum

private theorem footprints_append (first second : List α) :
    footprints (first ++ second) = footprints first + footprints second := by
  unfold footprints
  rw [List.map_append, List.sum_append]

omit [Footprint α] in
private theorem toNat_boundedSum (a b : UInt64) :
    (boundedSum a b).toNat = min (a.toNat + b.toNat) (2 ^ 64 - 1) := by
  unfold boundedSum
  split
  case isTrue small =>
    rw [UInt64.toNat_add, Nat.mod_eq_of_lt small]
    omega
  case isFalse great =>
    have most : unlimited.toNat = 2 ^ 64 - 1 := rfl
    omega

theorem toNat_totalFootprint (items : List α) :
    (totalFootprint items).toNat = min (footprints items) (2 ^ 64 - 1) := by
  -- The induction carries what has been counted so far.
  suffices counted : ∀ total : UInt64,
      (items.foldl (fun total item => boundedSum total (Footprint.bytes item)) total).toNat =
        min (total.toNat + footprints items) (2 ^ 64 - 1) by
    simpa [totalFootprint] using counted 0
  induction items with
  | nil =>
    intro total
    have word := total.toNat_lt
    simp only [List.foldl_nil, footprints, List.map_nil, List.sum_nil]
    omega
  | cons item rest ih =>
    intro total
    rw [List.foldl_cons, ih, toNat_boundedSum]
    simp only [footprints, List.map_cons, List.sum_cons]
    omega

theorem toNat_plainFootprint (items : List α) :
    (plainFootprint items).toNat = footprints items % 2 ^ 64 := by
  unfold plainFootprint footprints
  induction items with
  | nil => rfl
  | cons item rest ih =>
    rw [List.map_cons, List.sum_cons, List.map_cons, List.sum_cons, UInt64.toNat_add, ih,
      Nat.add_mod_mod]

/-- As long as nothing wraps around, both ways to count come to one footprint. -/
theorem plainFootprint_eq {items : List α} (bounded : footprints items < 2 ^ 64) :
    plainFootprint items = totalFootprint items := by
  apply UInt64.toNat_inj.mp
  rw [toNat_plainFootprint, toNat_totalFootprint, Nat.mod_eq_of_lt bounded]
  omega

/-- The plain sum is never the greater one, so what fits by the other fits by it. -/
theorem plainFootprint_le (items : List α) : plainFootprint items ≤ totalFootprint items := by
  rw [UInt64.le_iff_toNat_le, toNat_plainFootprint, toNat_totalFootprint]
  have least := Nat.mod_le (footprints items) (2 ^ 64)
  have word := Nat.mod_lt (footprints items) (Nat.two_pow_pos 64)
  omega

theorem totalFootprint_singleton (item : α) : totalFootprint [item] = Footprint.bytes item := by
  apply UInt64.toNat_inj.mp
  have word := (Footprint.bytes item).toNat_lt
  rw [toNat_totalFootprint]
  simp only [footprints, List.map_cons, List.map_nil, List.sum_cons, List.sum_nil]
  omega

theorem insert_eq (arena : Arena α) (item : α) :
    arena.insert item =
      match arena.ensureRoom (totalFootprint [item]) with
      | .error cause => (.error cause, arena)
      | .ok () => (.ok (arena.handle arena.size), arena.extend (totalFootprint [item]) [item]) := by
  rw [totalFootprint_singleton]
  rfl

/-- Whether an arena keeps to its budget and, if that is one, counts what it holds. -/
structure Balanced (arena : Arena α) : Prop where
  within : arena.reserved ≤ arena.capacity
  held : arena.capacity < unlimited → arena.reserved.toNat = footprints arena.items

theorem balanced_new (id : Nat) (capacity : UInt64) : Balanced (new id capacity : Arena α) := by
  refine ⟨?_, fun _ => rfl⟩
  rw [UInt64.le_iff_toNat_le]
  exact Nat.zero_le _

namespace Balanced

variable {arena : Arena α} (balanced : Balanced arena)

include balanced

theorem toNat_room : arena.reserved.toNat + arena.room.toNat = arena.capacity.toNat := by
  have within := UInt64.le_iff_toNat_le.mp balanced.within
  unfold room
  rw [UInt64.toNat_sub_of_le _ _ balanced.within]
  omega

theorem toNat_extend {requested : UInt64} (room : requested ≤ arena.room) (items : List α) :
    (arena.extend requested items).reserved.toNat = arena.reserved.toNat + requested.toNat ∧
      arena.reserved.toNat + requested.toNat ≤ arena.capacity.toNat := by
  have difference := balanced.toNat_room
  have word := arena.capacity.toNat_lt
  rw [UInt64.le_iff_toNat_le] at room
  have sum : arena.reserved.toNat + requested.toNat ≤ arena.capacity.toNat := by omega
  refine ⟨?_, sum⟩
  unfold extend
  rw [UInt64.toNat_add, Nat.mod_eq_of_lt (by omega)]

theorem extend {items : List α} (room : arena.ensureRoom (totalFootprint items) = .ok ()) :
    Balanced (arena.extend (totalFootprint items) items) := by
  obtain ⟨sum, least⟩ := balanced.toNat_extend (ensureRoom_eq_ok.mp room) items
  constructor
  · rw [UInt64.le_iff_toNat_le, sum]
    exact least
  · intro limited
    have held := balanced.held limited
    have most : unlimited.toNat = 2 ^ 64 - 1 := rfl
    rw [UInt64.lt_iff_toNat_lt, most] at limited
    -- The capacity is below the greatest word, so the count has not been cut off there.
    have counted := toNat_totalFootprint items
    have capacity : (arena.extend (totalFootprint items) items).capacity = arena.capacity := rfl
    have items' : (arena.extend (totalFootprint items) items).items = arena.items ++ items := rfl
    rw [capacity] at limited
    rw [sum, items', footprints_append, held]
    omega

theorem insertAll (items : List α) : Balanced (arena.insertAll items).2 := by
  cases room : arena.ensureRoom (totalFootprint items) with
  | error cause =>
    rw [insertAll_of_refusal room]
    exact balanced
  | ok done =>
    rw [insertAll_of_room room]
    exact balanced.extend room

theorem insert (item : α) : Balanced (arena.insert item).2 := by
  rw [insert_eq]
  cases room : arena.ensureRoom (totalFootprint [item]) with
  | error cause => exact balanced
  | ok done => exact balanced.extend room

omit balanced in
theorem release (arena : Arena α) : Balanced arena.release := by
  refine ⟨?_, fun _ => rfl⟩
  rw [UInt64.le_iff_toNat_le]
  exact Nat.zero_le _

end Balanced

/-- What one operation can make of an arena. -/
inductive Operated (arena : Arena α) : Arena α → Prop
  | rest : Operated arena arena
  | insert (item : α) : Operated arena (arena.insert item).2
  | insertAll (items : List α) : Operated arena (arena.insertAll items).2
  | release : Operated arena arena.release

theorem Balanced.operated {arena later : Arena α} (balanced : Balanced arena)
    (operated : Operated arena later) : Balanced later := by
  cases operated with
  | rest => exact balanced
  | insert item => exact balanced.insert item
  | insertAll items => exact balanced.insertAll items
  | release => exact .release arena

/-- The account of an arena: what it has reserved, what it has room for and what it refuses. -/
structure Budgeted (arena : Arena α) : Prop where
  within : arena.reserved ≤ arena.capacity
  room : arena.reserved.toNat + arena.room.toNat = arena.capacity.toNat
  held : arena.capacity < unlimited → arena.reserved.toNat = footprints arena.items
  inserted : ∀ (item : α) (handle : Handle), (arena.insert item).1 = .ok handle →
    (arena.insert item).2.reserved.toNat =
        arena.reserved.toNat + (Footprint.bytes item).toNat ∧
      arena.reserved.toNat + (Footprint.bytes item).toNat ≤ arena.capacity.toNat
  insertedAll : ∀ (items : List α) (handles : List Handle),
    (arena.insertAll items).1 = .ok handles →
      (arena.insertAll items).2.reserved.toNat =
          arena.reserved.toNat + (totalFootprint items).toNat ∧
        arena.reserved.toNat + (totalFootprint items).toNat ≤ arena.capacity.toNat
  refused : ∀ (item : α) (cause : ArenaError), (arena.insert item).1 = .error cause →
    (arena.insert item).2 = arena
  refusedAll : ∀ (items : List α) (cause : ArenaError), (arena.insertAll items).1 = .error cause →
    (arena.insertAll items).2 = arena
  foretold : ∀ (bytes : UInt64) (item : α), Footprint.bytes item = bytes →
    (arena.ensureRoom bytes = .ok () ↔ ∃ handle, (arena.insert item).1 = .ok handle)

theorem Balanced.budgeted {arena : Arena α} (balanced : Balanced arena) : Budgeted arena := by
  refine ⟨balanced.within, balanced.toNat_room, balanced.held, ?_, ?_, ?_, ?_, ?_⟩
  · intro item handle ok
    rw [insert_eq] at ok ⊢
    cases room : arena.ensureRoom (totalFootprint [item]) with
    | error cause =>
      rw [room] at ok
      cases ok
    | ok done =>
      rw [← totalFootprint_singleton]
      exact balanced.toNat_extend (ensureRoom_eq_ok.mp room) [item]
  · intro items handles ok
    cases room : arena.ensureRoom (totalFootprint items) with
    | error cause =>
      rw [insertAll_of_refusal room] at ok
      cases ok
    | ok done =>
      rw [insertAll_of_room room]
      exact balanced.toNat_extend (ensureRoom_eq_ok.mp room) items
  · intro item cause failed
    rw [insert_eq] at failed ⊢
    cases room : arena.ensureRoom (totalFootprint [item]) with
    | error cause => rfl
    | ok done =>
      rw [room] at failed
      cases failed
  · intro items cause failed
    cases room : arena.ensureRoom (totalFootprint items) with
    | error cause => rw [insertAll_of_refusal room]
    | ok done =>
      rw [insertAll_of_room room] at failed
      cases failed
  · rintro _ item rfl
    rw [insert_eq, totalFootprint_singleton]
    cases arena.ensureRoom (Footprint.bytes item) <;> simp

end Arena

namespace ArenaRun

variable {α : Type} [Footprint α]

/-- What one step can make of a run: one operation of one of its arenas, or one more arena. -/
inductive Stepped (run : ArenaRun α) : ArenaRun α → Prop
  | rest : Stepped run run
  | opened (capacity : UInt64) : Stepped run { run with pool := run.pool.addArena capacity }
  | operated {id : Nat} {arena next : Arena α} (found : run.pool.get? id = some arena)
    (operated : arena.Operated next) (handles : List Handle) :
    Stepped run (run.record id next handles)

private theorem stepped_step (run : ArenaRun α) (step : ArenaStep α) :
    Stepped run (run.step step).2 := by
  cases step with
  | new capacity => exact .opened capacity
  | insert id item =>
    rw [ArenaRun.step]
    split
    case h_1 => exact .rest
    case h_2 arena found =>
      have operated := @Arena.Operated.insert _ _ arena item
      split <;>
      · rename_i stored
        rw [stored] at operated
        exact .operated found operated _
  | insertAll id items =>
    rw [ArenaRun.step]
    split
    case h_1 => exact .rest
    case h_2 arena found =>
      have operated := @Arena.Operated.insertAll _ _ arena items
      split <;>
      · rename_i stored
        rw [stored] at operated
        exact .operated found operated _
  | release id =>
    rw [ArenaRun.step]
    split
    case h_1 => exact .rest
    case h_2 arena found => exact .operated found .release []
  | ensureRoom id bytes =>
    rw [ArenaRun.step]
    split
    · exact .rest
    · split <;> exact .rest
  | get id number =>
    rw [ArenaRun.step]
    split
    · split <;> exact .rest
    · exact .rest
  | same id number other =>
    rw [ArenaRun.step]
    split <;> exact .rest
  | describe id =>
    rw [ArenaRun.step]
    split <;> exact .rest

/-- Whether all arenas of a run are balanced. -/
def Balanced (run : ArenaRun α) : Prop :=
  ∀ id arena, run.pool.get? id = some arena → arena.Balanced

theorem balanced_start : (start : ArenaRun α).Balanced := by
  intro id arena found
  cases found

theorem Balanced.stepped {run next : ArenaRun α} (balanced : run.Balanced)
    (stepped : Stepped run next) : next.Balanced := by
  intro id later found
  cases stepped with
  | rest => exact balanced id later found
  | opened capacity =>
    rw [Pool.get?_addArena] at found
    split at found
    case isTrue =>
      obtain rfl := Option.some.inj found
      exact Arena.balanced_new id capacity
    case isFalse => exact balanced id later found
  | @operated own arena next held operated handles =>
    rw [record, Pool.get?_set] at found
    split at found
    case isTrue =>
      obtain rfl := Option.some.inj found
      exact (balanced own arena held).operated operated
    case isFalse => exact balanced id later found

theorem Balanced.steps {run : ArenaRun α} (balanced : run.Balanced) (steps : List (ArenaStep α)) :
    ∀ done ∈ run.steps steps, done.2.Balanced := by
  induction steps generalizing run with
  | nil =>
    intro done member
    cases member
  | cons step rest ih =>
    intro done member
    rcases List.mem_cons.mp member with rfl | later
    · exact balanced.stepped (stepped_step run step)
    · exact ih (balanced.stepped (stepped_step run step)) done later

/-- After every step of any run, each arena keeps to its budget: what it has reserved is within its
capacity and, below the greatest capacity, is what its items take; no reservation wraps around, a
refused one changes nothing, and asking for room foretells what storing an item comes to. -/
theorem budgets_hold (steps : List (ArenaStep α)) :
    ∀ done ∈ (start : ArenaRun α).steps steps, ∀ id arena,
      done.2.pool.get? id = some arena → arena.Budgeted := by
  intro done member id arena found
  exact (balanced_start.steps steps done member id arena found).budgeted

/-- Three columns for an arena that has room for two: the last two together are refused, and then one
of them is stored. -/
def crowding : List (ArenaStep Column) :=
  [.new 300, .insert 0 (Column.nulls "a" .boolean 3),
    .insertAll 0 [Column.nulls "b" .boolean 3, Column.nulls "c" .boolean 3],
    .insert 0 (Column.nulls "b" .boolean 3)]

open NominalFootprint in
theorem budgets_hold_crowding :
    ∃ done ∈ (start : ArenaRun Column).steps crowding, ∃ arena,
      done.2.pool.get? 0 = some arena ∧ arena.size = 2 ∧ arena.reserved = 284 ∧ arena.Budgeted := by
  have count : 3 < ((start : ArenaRun Column).steps crowding).length := by decide
  have member := List.getElem_mem count
  have found : ∃ arena, ((start : ArenaRun Column).steps crowding)[3].2.pool.get? 0 = some arena ∧
      arena.size = 2 ∧ arena.reserved = 284 := ⟨_, rfl, by decide +kernel, by decide +kernel⟩
  obtain ⟨arena, found, size, reserved⟩ := found
  exact ⟨_, member, arena, found, size, reserved, budgets_hold crowding _ member 0 arena found⟩

end ArenaRun

end Columnar
