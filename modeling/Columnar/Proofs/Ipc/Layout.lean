import Columnar.Ipc.Description
import Columnar.Proofs.Ipc.Body

/-!
Where the buffers of a body lie (`placedFrom`). Each begins at a multiple of the alignment, none before
the end of the one before it, and what lies in no buffer is zero (`laidOut_bodyOf`).
-/
namespace Columnar.Ipc

/-- Buffers with the offsets that they have in a body, from `offset` on. -/
def placedFrom (alignment : Nat) : Nat → List Bytes → List (Int × Bytes)
  | _, [] => []
  | offset, buffer :: rest =>
    (↑offset, buffer) ::
      placedFrom alignment (offset + Bytes.roundUp alignment buffer.length) rest

/-- Whether an index of a body lies in a buffer that is placed there. -/
def Covers (buffer : Int × Bytes) (index : Nat) : Prop :=
  buffer.1 ≤ index ∧ (index : Int) < buffer.1 + buffer.2.length

/-- Whether a buffer is placed at or after the end of an earlier one. -/
def Follows (earlier later : Int × Bytes) : Prop :=
  earlier.1 + earlier.2.length ≤ later.1

/-- Whether placed buffers make up a body at an alignment. -/
structure LaidOut (alignment : Nat) (body : Bytes) (buffers : List (Int × Bytes)) : Prop where
  whole : body.length % alignment = 0
  held : ∀ buffer ∈ buffers, 0 ≤ buffer.1 ∧ buffer.1 + buffer.2.length ≤ body.length ∧
    body.slice buffer.1.toNat buffer.2.length = buffer.2
  aligned : ∀ buffer ∈ buffers, buffer.1 % alignment = 0
  ordered : buffers.Pairwise Follows
  zero : ∀ index < body.length, (∀ buffer ∈ buffers, ¬Covers buffer index) → body[index]? = some 0

@[simp] theorem map_snd_placedFrom (alignment offset : Nat) (buffers : List Bytes) :
    (placedFrom alignment offset buffers).map (·.2) = buffers := by
  induction buffers generalizing offset with
  | nil => rfl
  | cons buffer rest ih => simp [placedFrom, ih]

private theorem regionsFrom_eq (alignment offset : Nat) (buffers : List Bytes) :
    regionsFrom alignment offset buffers =
      (placedFrom alignment offset buffers).map fun buffer => ⟨buffer.1, buffer.2.length⟩ := by
  induction buffers generalizing offset with
  | nil => rfl
  | cons buffer rest ih => rw [regionsFrom, placedFrom, List.map_cons, ih]

private theorem length_bodyOf_cons (alignment : Nat) (buffer : Bytes) (rest : List Bytes) :
    (bodyOf alignment (buffer :: rest)).length =
      Bytes.roundUp alignment buffer.length + (bodyOf alignment rest).length := by
  rw [bodyOf, List.flatMap_cons, List.length_append, Bytes.length_padded, ← bodyOf]

private theorem length_append_padded (alignment : Nat) (before buffer : Bytes) :
    (before ++ Bytes.padded alignment buffer).length =
      before.length + Bytes.roundUp alignment buffer.length := by
  rw [List.length_append, Bytes.length_padded]

section Aligned

variable {alignment : Nat} (positive : 0 < alignment)

include positive

theorem length_bodyOf_mod (buffers : List Bytes) : (bodyOf alignment buffers).length % alignment = 0 := by
  induction buffers with
  | nil => exact Nat.zero_mod alignment
  | cons buffer rest ih =>
    rw [length_bodyOf_cons, Nat.add_mod, Bytes.roundUp_mod positive, ih]
    exact Nat.zero_mod alignment

theorem aligned_placedFrom {offset : Nat} (start : offset % alignment = 0) {buffers : List Bytes} :
    ∀ buffer ∈ placedFrom alignment offset buffers, buffer.1 % alignment = 0 := by
  induction buffers generalizing offset with
  | nil => simp [placedFrom]
  | cons buffer rest ih =>
    have own : (offset : Int) % alignment = 0 := by exact_mod_cast start
    refine List.forall_mem_cons.mpr ⟨own, ih ?_⟩
    rw [Nat.add_mod, start, Bytes.roundUp_mod positive]
    exact Nat.zero_mod alignment

end Aligned

private theorem le_of_mem_placedFrom {alignment offset : Nat} {buffers : List Bytes} :
    ∀ buffer ∈ placedFrom alignment offset buffers, (offset : Int) ≤ buffer.1 := by
  induction buffers generalizing offset with
  | nil => simp [placedFrom]
  | cons buffer rest ih =>
    refine List.forall_mem_cons.mpr ⟨Int.le_refl _, fun other member => ?_⟩
    have later := ih other member
    push_cast at later
    omega

theorem ordered_placedFrom (alignment offset : Nat) (buffers : List Bytes) :
    (placedFrom alignment offset buffers).Pairwise Follows := by
  induction buffers generalizing offset with
  | nil => exact .nil
  | cons buffer rest ih =>
    refine List.pairwise_cons.mpr ⟨fun other member => ?_, ih _⟩
    have later := le_of_mem_placedFrom other member
    have long := Bytes.le_roundUp alignment buffer.length
    unfold Follows
    dsimp only
    push_cast at later
    omega

section Body

variable {alignment : Nat} {body before after : Bytes} {buffers : List Bytes}

theorem held_placedFrom (parts : body = before ++ (bodyOf alignment buffers ++ after)) :
    ∀ buffer ∈ placedFrom alignment before.length buffers,
      buffer.1 + buffer.2.length ≤ before.length + (bodyOf alignment buffers).length ∧
        body.slice buffer.1.toNat buffer.2.length = buffer.2 := by
  induction buffers generalizing before with
  | nil => simp [placedFrom]
  | cons buffer rest ih =>
    have long := Bytes.le_roundUp alignment buffer.length
    have length := length_bodyOf_cons alignment buffer rest
    rw [bodyOf_cons] at parts
    refine List.forall_mem_cons.mpr ⟨⟨by dsimp only; omega, ?_⟩, fun other member => ?_⟩
    · rw [List.append_assoc, List.append_assoc] at parts
      exact Bytes.slice_of_append parts
    · have size := length_append_padded alignment before buffer
      have later := @ih (before ++ Bytes.padded alignment buffer)
        (parts.trans (by simp [Bytes.padded])) other (by rwa [size])
      refine ⟨?_, later.2⟩
      have bound := later.1
      rw [size] at bound
      push_cast at bound
      omega

theorem zero_placedFrom (parts : body = before ++ (bodyOf alignment buffers ++ after)) {index : Nat}
    (behind : before.length ≤ index)
    (inside : index < before.length + (bodyOf alignment buffers).length)
    (outside : ∀ buffer ∈ placedFrom alignment before.length buffers, ¬Covers buffer index) :
    body[index]? = some 0 := by
  induction buffers generalizing before with
  | nil =>
    rw [bodyOf, List.flatMap_nil, List.length_nil] at inside
    omega
  | cons buffer rest ih =>
    rw [length_bodyOf_cons] at inside
    rw [bodyOf_cons] at parts
    obtain ⟨own, others⟩ := List.forall_mem_cons.mp outside
    have size := length_append_padded alignment before buffer
    have past : before.length + buffer.length ≤ index := by
      unfold Covers at own
      dsimp only at own
      omega
    by_cases gap : index < before.length + Bytes.roundUp alignment buffer.length
    · have place : index - before.length - buffer.length < Bytes.gap alignment buffer.length := by
        rw [Bytes.roundUp] at gap
        omega
      rw [parts, List.append_assoc, List.getElem?_append_right behind,
        List.getElem?_append_right (by omega), List.append_assoc,
        List.getElem?_append_left (by rwa [Bytes.length_zeros]), Bytes.zeros,
        List.getElem?_replicate_of_lt place]
    · apply @ih (before ++ Bytes.padded alignment buffer) (parts.trans (by simp [Bytes.padded]))
      · omega
      · omega
      · rwa [size]

end Body

section Whole

variable {alignment : Nat} (buffers : List Bytes)

private theorem bodyOf_eq_append :
    bodyOf alignment buffers = [] ++ (bodyOf alignment buffers ++ []) := by
  rw [List.append_nil, List.nil_append]

theorem map_regionsFrom :
    (regionsFrom alignment 0 buffers).map (fun region =>
      (region.offset, (bodyOf alignment buffers).slice region.offset.toNat region.length.toNat)) =
        placedFrom alignment 0 buffers := by
  have held := held_placedFrom (@bodyOf_eq_append alignment buffers)
  rw [regionsFrom_eq, List.map_map]
  refine (List.map_congr_left fun buffer member => ?_).trans (List.map_id _)
  exact Prod.ext rfl (held buffer member).2

/-- The buffers of a body are laid out at its alignment. -/
theorem laidOut_bodyOf (positive : 0 < alignment) :
    LaidOut alignment (bodyOf alignment buffers) (placedFrom alignment 0 buffers) := by
  refine ⟨length_bodyOf_mod positive buffers, ?_, aligned_placedFrom positive (Nat.zero_mod alignment),
    ordered_placedFrom alignment 0 buffers, ?_⟩
  · intro buffer member
    have first := le_of_mem_placedFrom buffer member
    have held := held_placedFrom (@bodyOf_eq_append alignment buffers) buffer member
    simp only [List.length_nil] at held
    exact ⟨first, by omega, held.2⟩
  · intro index inside outside
    refine zero_placedFrom (bodyOf_eq_append buffers) (Nat.zero_le _) ?_ outside
    simpa using inside

theorem unusedAreZero_bodyOf :
    unusedAreZero (bodyOf alignment buffers) (regionsFrom alignment 0 buffers) = true := by
  unfold unusedAreZero
  rw [List.all_eq_true]
  rintro ⟨byte, index⟩ member
  have found := List.mem_zipIdx_iff_getElem?.mp member
  obtain ⟨inside, -⟩ := List.getElem?_eq_some_iff.mp found
  dsimp only at found ⊢
  rw [Bool.or_eq_true_iff, decide_eq_true_eq, List.any_eq_true, regionsFrom_eq]
  by_cases covered : ∃ buffer ∈ placedFrom alignment 0 buffers, Covers buffer index
  · obtain ⟨buffer, placed, covers⟩ := covered
    right
    refine ⟨_, List.mem_map_of_mem placed, ?_⟩
    simpa [Covers] using covers
  · left
    push Not at covered
    have zero := zero_placedFrom (bodyOf_eq_append buffers) (Nat.zero_le index)
      (by simpa using inside) covered
    exact Option.some.inj (found.symm.trans zero)

end Whole

end Columnar.Ipc
