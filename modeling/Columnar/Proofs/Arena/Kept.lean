import Columnar.Proofs.Sequence

/-!
Arenas that have not been released. Whatever has been stored in an arena since, as long as it has not
been released a handle finds what it found before (`Kept.get`).
-/
namespace Columnar.Arena

variable {α : Type}

/-- The states that an arena can come to without a release: items are stored, one by one or many at
once, with success or without, whatever they count for each time. -/
inductive Kept (arena : Arena α) : Arena α → Prop
  | same : Kept arena arena
  | insert [Footprint α] {later : Arena α} (kept : Kept arena later) (item : α) :
    Kept arena (later.insert item).2
  | insertAll [Footprint α] {later : Arena α} (kept : Kept arena later) (items : List α) :
    Kept arena (later.insertAll items).2

theorem get_eq_ok {arena : Arena α} {handle : Handle} {item : α} :
    arena.get handle = .ok item ↔
      handle.arena = arena.id ∧ handle.generation = arena.generation ∧
        arena.items[handle.slot]? = some item := by
  rw [get]
  split
  case isTrue foreign => exact iff_of_false (fun ok => nomatch ok) fun found => foreign found.1
  case isFalse own =>
    split
    case isTrue released =>
      exact iff_of_false (fun ok => nomatch ok) fun found => released found.2.1
    case isFalse current =>
      rw [and_iff_right (not_not.mp own), and_iff_right (not_not.mp current)]
      split <;> simp [*]

/-- Whether an arena is another with more items after the old ones. -/
structure Extends (arena later : Arena α) : Prop where
  id : later.id = arena.id
  generation : later.generation = arena.generation
  items : arena.items <+: later.items

namespace Extends

variable {arena later last : Arena α}

theorem refl (arena : Arena α) : Extends arena arena :=
  ⟨rfl, rfl, List.prefix_rfl⟩

theorem trans (first : Extends arena later) (second : Extends later last) : Extends arena last :=
  ⟨second.id.trans first.id, second.generation.trans first.generation,
    first.items.trans second.items⟩

theorem extend (arena : Arena α) (requested : UInt64) (items : List α) :
    Extends arena (arena.extend requested items) :=
  ⟨rfl, rfl, List.prefix_append _ _⟩

theorem get (extended : Extends arena later) {handle : Handle} {item : α}
    (found : arena.get handle = .ok item) : later.get handle = .ok item := by
  rw [get_eq_ok] at found ⊢
  obtain ⟨own, current, at'⟩ := found
  obtain ⟨more, longer⟩ := extended.items
  have inside := (List.getElem?_eq_some_iff.mp at').1
  rw [extended.id, extended.generation, ← longer, List.getElem?_append_left inside]
  exact ⟨own, current, at'⟩

end Extends

theorem extends_insert [Footprint α] (arena : Arena α) (item : α) :
    Extends arena (arena.insert item).2 := by
  rw [insert]
  split
  · exact .refl arena
  · exact .extend arena _ _

theorem extends_insertAll [Footprint α] (arena : Arena α) (items : List α) :
    Extends arena (arena.insertAll items).2 := by
  rw [insertAll]
  split
  · exact .refl arena
  · exact .extend arena _ _

namespace Kept

variable {arena later : Arena α}

theorem extended (kept : Kept arena later) : Extends arena later := by
  induction kept with
  | same => exact .refl arena
  | insert _ item ih => exact ih.trans (extends_insert _ item)
  | insertAll _ items ih => exact ih.trans (extends_insertAll _ items)

theorem get (kept : Kept arena later) {handle : Handle} {item : α}
    (found : arena.get handle = .ok item) : later.get handle = .ok item :=
  kept.extended.get found

theorem mapM_get (kept : Kept arena later) {handles : List Handle} {items : List α}
    (found : handles.mapM arena.get = .ok items) : handles.mapM later.get = .ok items :=
  mapM_eq_ok.mpr ((mapM_eq_ok.mp found).imp fun _ _ => kept.get)

end Kept

end Columnar.Arena
