import Columnar.Dictionary.Provider
import Mathlib.Data.List.Perm.Subperm
import Mathlib.Data.List.Nodup

/-!
The search for a free id. It stops at the first id that nobody holds (`freeIdFrom_spec`), and it finds
one with as many steps as there are ids held (`freeIdFrom_not_mem`), since the ids it would pass
otherwise are all different.
-/
namespace Columnar.DictionaryProvider

/-- What a search from an id comes to: how many steps it took, each past an id that is held. -/
structure Search (held : List Int64) (fuel : Nat) (start : Int64) (steps : Nat) : Prop where
  within : steps ≤ fuel
  found : freeIdFrom held fuel start = start + Int64.ofNat steps
  passed : ∀ step < steps, start + Int64.ofNat step ∈ held
  free : steps < fuel → start + Int64.ofNat steps ∉ held

private theorem next_add (start : Int64) (step : Nat) :
    start + 1 + Int64.ofNat step = start + Int64.ofNat (step + 1) := by
  rw [Int64.ofNat_add, Int64.add_assoc, Int64.add_comm (Int64.ofNat step)]
  rfl

theorem freeIdFrom_spec (held : List Int64) (fuel : Nat) (start : Int64) :
    ∃ steps, Search held fuel start steps := by
  induction fuel generalizing start with
  | zero => exact ⟨0, Nat.le_refl _, by simp [freeIdFrom], by simp, by simp⟩
  | succ fuel ih =>
    by_cases taken : start ∈ held
    · obtain ⟨steps, within, found, passed, free⟩ := ih (start + 1)
      refine ⟨steps + 1, by omega, ?_, ?_, fun more => ?_⟩
      · rw [freeIdFrom, if_pos taken, found, next_add]
      · intro step before
        cases step with
        | zero => simpa using taken
        | succ step => simpa only [next_add] using passed step (by omega)
      · simpa only [next_add] using free (by omega)
    · exact ⟨0, by omega, by simp [freeIdFrom, taken], by simp, by simpa using taken⟩

private theorem add_ofNat_injOn (start : Int64) {first second : Nat} (small : first < 2 ^ 64)
    (small' : second < 2 ^ 64) (same : start + Int64.ofNat first = start + Int64.ofNat second) :
    first = second := by
  have number (n : Nat) : (Int64.ofNat n).toBitVec.toNat = n % 2 ^ 64 := rfl
  have words := congrArg (·.toBitVec.toNat) (Int64.add_right_inj start |>.mp same)
  rwa [number, number, Nat.mod_eq_of_lt small, Nat.mod_eq_of_lt small'] at words

/-- A search passes no more ids than are held, since those it passes are all different. -/
theorem le_length_of_passed {held : List Int64} (few : held.length < 2 ^ 64) {start : Int64} {count : Nat}
    (passed : ∀ step < count, start + Int64.ofNat step ∈ held) : count ≤ held.length := by
  by_contra more
  have distinct : ((List.range (held.length + 1)).map fun step => start + Int64.ofNat step).Nodup := by
    refine List.Nodup.map_on (fun first before second before' same => ?_) List.nodup_range
    rw [List.mem_range] at before before'
    exact add_ofNat_injOn start (by omega) (by omega) same
  have inside : ((List.range (held.length + 1)).map fun step => start + Int64.ofNat step) ⊆ held := by
    intro id member
    obtain ⟨step, before, rfl⟩ := List.mem_map.mp member
    rw [List.mem_range] at before
    exact passed step (by omega)
  have counted := (List.subperm_of_subset distinct inside).length_le
  rw [List.length_map, List.length_range] at counted
  omega

theorem freeIdFrom_not_mem {held : List Int64} (few : held.length < 2 ^ 64) (start : Int64) :
    freeIdFrom held held.length start ∉ held := by
  obtain ⟨steps, within, found, passed, free⟩ := freeIdFrom_spec held held.length start
  intro taken
  rw [found] at taken
  have run : ∀ step < steps + 1, start + Int64.ofNat step ∈ held := fun step before => by
    rcases Nat.lt_succ_iff_lt_or_eq.mp before with earlier | rfl
    · exact passed step earlier
    · exact taken
  exact free (le_length_of_passed few run) taken

end Columnar.DictionaryProvider
