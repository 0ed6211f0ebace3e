import Columnar.Proofs.Sequence

/-!
Room in an arena. Storing many items asks for their footprint in one request: with room for it all
items are appended and found again under the handles given out, without it nothing changes.
-/
namespace Columnar.Arena

variable {α : Type}

theorem ensureRoom_eq_ok {arena : Arena α} {requested : UInt64} :
    arena.ensureRoom requested = .ok () ↔ requested ≤ arena.room := by
  rw [ensureRoom]
  split
  case isTrue above => simpa using UInt64.not_le.mpr above
  case isFalse within => simpa using UInt64.not_lt.mp within

theorem ensureRoom_of_lt {arena : Arena α} {requested : UInt64} (full : arena.room < requested) :
    arena.ensureRoom requested =
      .error (.capacityExceeded arena.id requested arena.reserved arena.capacity) :=
  if_pos full

theorem room_new (id : Nat) (capacity : UInt64) : (new id capacity : Arena α).room = capacity :=
  UInt64.sub_zero capacity

theorem le_room_unlimited (id : Nat) (requested : UInt64) :
    requested ≤ (new id unlimited : Arena α).room := by
  rw [room_new, UInt64.le_iff_toNat_le]
  exact Nat.le_of_lt_succ requested.toNat_lt

/-- The handles of the next `count` items. -/
def nextHandles (arena : Arena α) (count : Nat) : List Handle :=
  (List.range' arena.size count).map arena.handle

@[simp] theorem length_nextHandles (arena : Arena α) (count : Nat) :
    (arena.nextHandles count).length = count := by
  simp [nextHandles]

variable [Footprint α]

theorem insert_of_room {arena : Arena α} {item : α}
    (room : arena.ensureRoom (Footprint.bytes item) = .ok ()) :
    arena.insert item =
      (.ok (arena.handle arena.size), arena.extend (Footprint.bytes item) [item]) := by
  simp [insert, room]

theorem insert_of_refusal {arena : Arena α} {item : α} {cause : ArenaError}
    (refused : arena.ensureRoom (Footprint.bytes item) = .error cause) :
    arena.insert item = (.error cause, arena) := by
  simp [insert, refused]

theorem insertAll_of_room {arena : Arena α} {items : List α}
    (room : arena.ensureRoom (totalFootprint items) = .ok ()) :
    arena.insertAll items =
      (.ok (arena.nextHandles items.length), arena.extend (totalFootprint items) items) := by
  simp [insertAll, room, nextHandles]

theorem insertAll_of_refusal {arena : Arena α} {items : List α} {cause : ArenaError}
    (refused : arena.ensureRoom (totalFootprint items) = .error cause) :
    arena.insertAll items = (.error cause, arena) := by
  simp [insertAll, refused]

omit [Footprint α] in
theorem get_extend (arena : Arena α) (requested : UInt64) (items : List α) (index : Nat)
    (inside : index < items.length) :
    (arena.extend requested items).get (arena.handle (arena.size + index)) =
      .ok items[index] := by
  simp [get, extend, handle, size, inside]

omit [Footprint α] in
theorem mapM_get_extend (arena : Arena α) (requested : UInt64) (items : List α) :
    (arena.nextHandles items.length).mapM (arena.extend requested items).get = .ok items := by
  rw [mapM_eq_ok, List.forall₂_iff_get]
  refine ⟨by simp, fun index left right => ?_⟩
  simpa [nextHandles] using get_extend arena requested items index right

end Columnar.Arena
