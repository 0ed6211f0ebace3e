import Columnar.Proofs.Dictionary.Assignment

/-!
The search for a free id, turn by turn. A search goes from an id that is held to the next one (`Turns`). It
has no more turns than there are ids held, since it passes them in order and each only once, and so it ends
before the signed words do (`freeIdentity_ends`).
-/
namespace Columnar.DictionaryProvider

/-- The ids that a search comes to, by the count of its turns. It ends at one that is not held. -/
inductive Turns (held : List Int64) (start : Int64) : Nat → Int64 → Prop where
  | start : Turns held start 0 start
  | next {count : Nat} {id : Int64} (before : Turns held start count id) (taken : id ∈ held) :
    Turns held start (count + 1) (id + 1)

section Turns

variable {held : List Int64} {start id : Int64} {count : Nat}

private theorem add_next (start : Int64) (count : Nat) :
    start + Int64.ofNat count + 1 = start + Int64.ofNat (count + 1) := by
  rw [Int64.ofNat_add, ← Int64.add_assoc]
  rfl

theorem turns_iff : Turns held start count id ↔
    id = start + Int64.ofNat count ∧ ∀ step < count, start + Int64.ofNat step ∈ held := by
  constructor
  · intro turns
    induction turns with
    | start => simp
    | next before taken ih =>
      obtain ⟨rfl, passed⟩ := ih
      refine ⟨add_next start _, fun step below => ?_⟩
      rcases Nat.lt_succ_iff_lt_or_eq.mp below with earlier | rfl
      · exact passed step earlier
      · exact taken
  · rintro ⟨rfl, passed⟩
    induction count with
    | zero => simpa using Turns.start
    | succ count ih =>
      have before := ih fun step below => passed step (Nat.lt_succ_of_lt below)
      rw [← add_next]
      exact .next before (passed count (Nat.lt_succ_self count))

private theorem Turns.end_unique {other : Int64} {count' : Nat} (turns : Turns held start count id)
    (free : id ∉ held) (turns' : Turns held start count' other) (free' : other ∉ held) :
    id = other := by
  obtain ⟨rfl, passed⟩ := turns_iff.mp turns
  obtain ⟨rfl, passed'⟩ := turns_iff.mp turns'
  obtain earlier | rfl | later := Nat.lt_trichotomy count count'
  · exact absurd (passed' count earlier) free
  · rfl
  · exact absurd (passed count' later) free'

private theorem exists_turns (held : List Int64) (fuel : Nat) (start : Int64) :
    ∃ count, Turns held start count (freeIdFrom held fuel start) := by
  obtain ⟨steps, -, found, passed, -⟩ := freeIdFrom_spec held fuel start
  exact ⟨steps, turns_iff.mpr ⟨found, passed⟩⟩

end Turns

/-- The search from a position has no more turns than there are ids held, and none of them overflows a
signed word. It ends, with the least id from the position on that is not held, and with nowhere else. -/
theorem freeIdentity_ends {provider : DictionaryProvider} {position : Nat}
    (small : position + provider.size < 2 ^ 63) :
    (∀ count id, Turns provider.ids (DictionaryEncoding.identity position).id count id →
      count ≤ provider.size ∧ id.toInt = position + count) ∧
    (∃ count, Turns provider.ids (DictionaryEncoding.identity position).id count
      (provider.freeIdentity position).id) ∧
    (∀ count id, Turns provider.ids (DictionaryEncoding.identity position).id count id →
      id ∉ provider.ids → id = (provider.freeIdentity position).id) ∧
    IsLeast (freeIds provider.ids position) (provider.freeIdentity position).id.toInt ∧
    (provider.freeIdentity position).ordered = false := by
  have ids : provider.ids.length = provider.size := List.length_map _
  have free : (provider.freeIdentity position).id ∉ provider.ids :=
    freeIdentity_not_mem (by omega) position
  obtain ⟨last, ends⟩ := exists_turns provider.ids provider.size
    (DictionaryEncoding.identity position).id
  refine ⟨fun count id turns => ?_, ⟨last, ends⟩, fun count id turns open' => ?_,
    freeIdentity_isLeast small, rfl⟩
  · -- All ids behind the search are held, so they are no more than there are.
    obtain ⟨rfl, passed⟩ := turns_iff.mp turns
    have few : count ≤ provider.ids.length := le_length_of_passed (by omega) passed
    exact ⟨ids ▸ few, toInt_add_ofNat (by omega)⟩
  · exact turns.end_unique open' ends free

def lastIds : DictionaryProvider :=
  ⟨[-1, 0x7ffffffffffffffb, 0x7ffffffffffffffc, 0x7ffffffffffffffd].map fun id =>
    ⟨0, Column.nulls "c" .int64 0, ⟨id, true⟩, false⟩⟩

/-- Three turns past ids close to the end of the signed words, which end one before it. -/
theorem freeIdentity_ends_lastIds :
    2 ^ 63 - 5 + lastIds.size < 2 ^ 63 ∧
      lastIds.freeIdentity (2 ^ 63 - 5) = ⟨0x7ffffffffffffffe, false⟩ ∧
      Turns lastIds.ids 0x7ffffffffffffffb 3 0x7ffffffffffffffe ∧
      (∀ count id, Turns lastIds.ids 0x7ffffffffffffffb count id → count ≤ 4) ∧
      IsLeast (freeIds lastIds.ids (2 ^ 63 - 5)) (2 ^ 63 - 2) := by
  have small : 2 ^ 63 - 5 + lastIds.size < 2 ^ 63 := by decide
  obtain ⟨bound, -, -, least, -⟩ := freeIdentity_ends small
  refine ⟨small, by decide +kernel, ?_, fun count id turns => (bound count id turns).1, least⟩
  exact .next (.next (.next .start (by decide)) (by decide)) (by decide)

end Columnar.DictionaryProvider
