import Columnar.Proofs.Arena.Budget

/-!
Storing many items at once and one after another (`insertEach`). Both come to the same as long as a word
can count what the items take. If it cannot, their footprint is taken for the greatest word, and an empty
arena of the greatest capacity stores them at once though it would refuse them one after another
(`Arena.Saturates`). On arenas that a run can come to there is no other difference
(`ArenaRun.insertAll_agrees_iff`).
-/
namespace Columnar

namespace Arena

variable {α : Type} [Footprint α]

/-- Stores items one after another, up to the first that is refused. -/
def insertEach : Arena α → List α → Except ArenaError (List Handle) × Arena α
  | arena, [] => (.ok [], arena)
  | arena, item :: rest =>
    match arena.insert item with
    | (.error cause, arena) => (.error cause, arena)
    | (.ok handle, arena) =>
      let later := insertEach arena rest
      (later.1.map (handle :: ·), later.2)

/-- Whether items take more than a word can count, in an arena whose room is the greatest word. -/
structure Saturates (arena : Arena α) (items : List α) : Prop where
  capacity : arena.capacity = unlimited
  reserved : arena.reserved = 0
  above : 2 ^ 64 ≤ footprints items

/-- Whether storing items at once is storing them one after another: both succeed or none does, and what
succeeds gives the same handles and leaves the same arena. -/
structure Agrees (arena : Arena α) (items : List α) : Prop where
  alike : (∃ handles, (arena.insertAll items).1 = .ok handles) ↔
    ∃ handles, (arena.insertEach items).1 = .ok handles
  same : ∀ handles, (arena.insertAll items).1 = .ok handles →
    arena.insertEach items = arena.insertAll items

private theorem footprints_cons (item : α) (rest : List α) :
    footprints (item :: rest) = (Footprint.bytes item).toNat + footprints rest :=
  List.sum_cons

private theorem totalFootprint_cons {item : α} {rest : List α}
    (small : footprints (item :: rest) < 2 ^ 64) :
    totalFootprint (item :: rest) = Footprint.bytes item + totalFootprint rest := by
  apply UInt64.toNat_inj.mp
  rw [UInt64.toNat_add, toNat_totalFootprint, toNat_totalFootprint]
  rw [footprints_cons] at small ⊢
  omega

omit [Footprint α] in
private theorem nextHandles_extend (arena : Arena α) (requested : UInt64) (item : α) (count : Nat) :
    arena.handle arena.size :: (arena.extend requested [item]).nextHandles count =
      arena.nextHandles (count + 1) := by
  have size : (arena.extend requested [item]).size = arena.size + 1 := List.length_append
  unfold nextHandles
  rw [List.range'_succ, List.map_cons, size]
  rfl

omit [Footprint α] in
private theorem extend_extend (arena : Arena α) (first second : UInt64) (item : α) (rest : List α) :
    (arena.extend first [item]).extend second rest = arena.extend (first + second) (item :: rest) := by
  simp [extend, UInt64.add_assoc]

section Balanced

variable {arena : Arena α} (balanced : Balanced arena)

include balanced

private theorem ensureRoom_totalFootprint {items : List α} :
    arena.ensureRoom (totalFootprint items) = .ok () ↔
      arena.reserved.toNat + min (footprints items) (2 ^ 64 - 1) ≤ arena.capacity.toNat := by
  have room := balanced.toNat_room
  rw [ensureRoom_eq_ok, UInt64.le_iff_toNat_le, toNat_totalFootprint]
  omega

private theorem insertEach_of_fits {items : List α}
    (fits : arena.reserved.toNat + footprints items ≤ arena.capacity.toNat) :
    arena.insertEach items =
      (.ok (arena.nextHandles items.length), arena.extend (totalFootprint items) items) := by
  induction items generalizing arena with
  | nil =>
    simp [insertEach, nextHandles, extend, totalFootprint]
  | cons item rest ih =>
    have word := arena.capacity.toNat_lt
    have small : footprints (item :: rest) < 2 ^ 64 := by omega
    have own : arena.ensureRoom (totalFootprint [item]) = .ok () := by
      rw [ensureRoom_totalFootprint balanced, footprints_cons, footprints, List.map_nil, List.sum_nil]
      rw [footprints_cons] at fits
      omega
    have stored : arena.insert item =
        (.ok (arena.handle arena.size), arena.extend (totalFootprint [item]) [item]) := by
      rw [insert_eq, own]
    have taken := (balanced.toNat_extend (ensureRoom_eq_ok.mp own) [item]).1
    have capacity : (arena.extend (totalFootprint [item]) [item]).capacity = arena.capacity := rfl
    have later : (arena.extend (totalFootprint [item]) [item]).reserved.toNat + footprints rest ≤
        (arena.extend (totalFootprint [item]) [item]).capacity.toNat := by
      rw [taken, capacity, totalFootprint_singleton]
      rw [footprints_cons] at fits
      omega
    rw [insertEach, stored]
    dsimp only
    rw [ih (balanced.extend own) later, extend_extend, totalFootprint_cons small,
      totalFootprint_singleton]
    dsimp only [Except.map]
    rw [nextHandles_extend, List.length_cons]

private theorem insertEach_of_above {items : List α}
    (above : arena.capacity.toNat < arena.reserved.toNat + footprints items) :
    ∃ cause, (arena.insertEach items).1 = .error cause := by
  induction items generalizing arena with
  | nil =>
    have within := UInt64.le_iff_toNat_le.mp balanced.within
    rw [footprints, List.map_nil, List.sum_nil] at above
    omega
  | cons item rest ih =>
    rw [insertEach, insert_eq]
    cases own : arena.ensureRoom (totalFootprint [item]) with
    | error cause => exact ⟨cause, rfl⟩
    | ok done =>
      have taken := (balanced.toNat_extend (ensureRoom_eq_ok.mp own) [item]).1
      have capacity : (arena.extend (totalFootprint [item]) [item]).capacity = arena.capacity := rfl
      obtain ⟨cause, refused⟩ := ih (balanced.extend own) (by
        rw [taken, capacity, totalFootprint_singleton]
        rw [footprints_cons] at above
        omega)
      exact ⟨cause, by simp [refused, Except.map]⟩

theorem insertEach_eq_insertAll {items : List α}
    (fits : arena.reserved.toNat + footprints items ≤ arena.capacity.toNat) :
    arena.insertEach items = arena.insertAll items := by
  rw [insertEach_of_fits balanced fits,
    insertAll_of_room ((ensureRoom_totalFootprint balanced).mpr (by omega))]

/-- Storing at once is refused for lack of room, unless the total is cut off at the greatest word and the
room is as large as that. -/
private theorem insertAll_of_above {items : List α} (counted : ¬Saturates arena items)
    (above : arena.capacity.toNat < arena.reserved.toNat + footprints items) :
    ∃ cause, arena.insertAll items = (.error cause, arena) := by
  have word := arena.capacity.toNat_lt
  have within := UInt64.le_iff_toNat_le.mp balanced.within
  cases answer : arena.ensureRoom (totalFootprint items) with
  | error cause => exact ⟨cause, insertAll_of_refusal answer⟩
  | ok done =>
    have room := (ensureRoom_totalFootprint balanced).mp answer
    apply absurd _ counted
    refine ⟨UInt64.toNat_inj.mp ?_, UInt64.toNat_inj.mp ?_, by omega⟩
    · show arena.capacity.toNat = 2 ^ 64 - 1
      omega
    · show arena.reserved.toNat = 0
      omega

theorem Saturates.insertAll {items : List α} (saturates : Saturates arena items) :
    (arena.insertAll items).1 = .ok (arena.nextHandles items.length) ∧
      (arena.insertAll items).2.reserved = unlimited := by
  obtain ⟨capacity, reserved, above⟩ := saturates
  have most : unlimited.toNat = 2 ^ 64 - 1 := rfl
  have empty : arena.reserved.toNat = 0 := by rw [reserved]; rfl
  have room : arena.ensureRoom (totalFootprint items) = .ok () := by
    rw [ensureRoom_totalFootprint balanced, capacity, most]
    omega
  rw [insertAll_of_room room]
  refine ⟨rfl, UInt64.toNat_inj.mp ?_⟩
  rw [(balanced.toNat_extend (ensureRoom_eq_ok.mp room) items).1, toNat_totalFootprint]
  omega

theorem Saturates.insertEach {items : List α} (saturates : Saturates arena items) :
    ∃ cause, (arena.insertEach items).1 = .error cause := by
  apply insertEach_of_above balanced
  rw [saturates.capacity]
  exact Nat.lt_of_lt_of_le (by decide) (Nat.le_add_left_of_le saturates.above)

theorem agrees_iff (items : List α) : Agrees arena items ↔ ¬Saturates arena items := by
  constructor
  · intro agrees saturates
    obtain ⟨handles, stored⟩ := agrees.alike.mp ⟨_, (saturates.insertAll balanced).1⟩
    obtain ⟨cause, refused⟩ := saturates.insertEach balanced
    rw [stored] at refused
    cases refused
  · intro counted
    by_cases fits : arena.reserved.toNat + footprints items ≤ arena.capacity.toNat
    · have same := insertEach_eq_insertAll balanced fits
      exact ⟨by rw [same], fun _ _ => same⟩
    · obtain ⟨cause, refused⟩ := insertEach_of_above balanced (Nat.lt_of_not_le fits)
      obtain ⟨cause', full⟩ := insertAll_of_above balanced counted (Nat.lt_of_not_le fits)
      refine ⟨?_, ?_⟩
      · rw [full, refused]
        simp
      · intro handles stored
        rw [full] at stored
        cases stored

end Balanced

end Arena

namespace ArenaRun

variable {α : Type} [Footprint α]

/-- In every arena of any run, storing items at once agrees with storing them one after another exactly if
the items do not saturate the arena. A refusal at once changes nothing. Items that saturate the arena are
stored at once and take all its room, and are refused one after another. -/
theorem insertAll_agrees_iff (steps : List (ArenaStep α)) :
    ∀ done ∈ (start : ArenaRun α).steps steps, ∀ id arena, done.2.pool.get? id = some arena →
      ∀ items : List α, (arena.Agrees items ↔ ¬arena.Saturates items) ∧
        (∀ cause, (arena.insertAll items).1 = .error cause → (arena.insertAll items).2 = arena) ∧
        (arena.Saturates items →
          (arena.insertAll items).1 = .ok (arena.nextHandles items.length) ∧
            (arena.insertAll items).2.reserved = Arena.unlimited ∧
            ∃ cause, (arena.insertEach items).1 = .error cause) := by
  intro done member id arena found items
  have balanced := balanced_start.steps steps done member id arena found
  refine ⟨Arena.agrees_iff balanced items, balanced.budgeted.refusedAll items, ?_⟩
  intro saturates
  obtain ⟨stored, reserved⟩ := saturates.insertAll balanced
  exact ⟨stored, reserved, saturates.insertEach balanced⟩

def partFilled : List (ArenaStep Block) :=
  [.new 10, .insert 0 ⟨2⟩]

theorem insertAll_agrees_partFilled :
    ∃ done ∈ (start : ArenaRun Block).steps partFilled, ∃ arena,
      done.2.pool.get? 0 = some arena ∧ arena.Agrees [⟨4⟩, ⟨4⟩] ∧
        (arena.insertEach [⟨4⟩, ⟨4⟩]).2.reserved = 10 ∧
        (arena.insertAll [⟨4⟩, ⟨5⟩]).1 = .error (.capacityExceeded 0 9 2 10) ∧
        (arena.insertAll [⟨4⟩, ⟨5⟩]).2 = arena := by
  have count : 1 < ((start : ArenaRun Block).steps partFilled).length := by decide
  have member := List.getElem_mem count
  obtain ⟨arena, found, capacity, reserved, refused⟩ :
      ∃ arena, ((start : ArenaRun Block).steps partFilled)[1].2.pool.get? 0 = some arena ∧
        arena.capacity = 10 ∧ (arena.insertEach [⟨4⟩, ⟨4⟩]).2.reserved = 10 ∧
        (arena.insertAll [⟨4⟩, ⟨5⟩]).1 =
          .error (.capacityExceeded 0 9 2 10) := ⟨_, rfl, rfl, by decide +kernel, by decide +kernel⟩
  have account := insertAll_agrees_iff partFilled _ member 0 arena found
  refine ⟨_, member, arena, found, (account [⟨4⟩, ⟨4⟩]).1.mpr ?_, reserved, refused,
    (account [⟨4⟩, ⟨5⟩]).2.1 _ refused⟩
  intro saturates
  have greatest := saturates.capacity
  rw [capacity] at greatest
  exact absurd greatest (by decide)

/-- Two blocks that take one byte more together than a word can count. -/
def halves : List Block :=
  [⟨0x8000000000000000⟩, ⟨0x8000000000000000⟩]

theorem insertAll_halves :
    ∃ done ∈ (start : ArenaRun Block).steps [.new Arena.unlimited], ∃ arena,
      done.2.pool.get? 0 = some arena ∧ (arena.insertAll halves).1 = .ok [⟨0, 0, 0⟩, ⟨0, 0, 1⟩] ∧
        (arena.insertEach halves).1 =
          .error (.capacityExceeded 0 0x8000000000000000 0x8000000000000000 Arena.unlimited) ∧
        ¬arena.Agrees halves := by
  have stored : ((Arena.new 0 Arena.unlimited : Arena Block).insertAll halves).1 =
      .ok [⟨0, 0, 0⟩, ⟨0, 0, 1⟩] := by decide +kernel
  have refused : ((Arena.new 0 Arena.unlimited : Arena Block).insertEach halves).1 =
      .error (.capacityExceeded 0 0x8000000000000000 0x8000000000000000 Arena.unlimited) := by
    decide +kernel
  refine ⟨_, List.mem_singleton_self _, _, rfl, stored, refused, ?_⟩
  intro agrees
  obtain ⟨handles, each⟩ := agrees.alike.mp ⟨_, stored⟩
  cases refused.symm.trans each

end ArenaRun

end Columnar
