import Columnar.Proofs.Flatbuffer.Blocks

/-!
What the slots of a table mean to readers. Where a table is laid out (`Laid`), entering it and asking
for a slot gives the number that the slot holds, what the block of the slot means, or nothing if there
is no such slot.
-/
namespace Columnar.Flatbuffer

/-- Whether a slot may stand in a table. -/
def Slot.Sound : Slot → Prop
  | .absent => True
  | .scalar width _ => width ≤ 8
  | .child block => block.Sound

section Layout

variable {buffer : Buffer} {slots : List Slot} {slot : Slot} {index : Nat}

private theorem length_entryOffsets (offset : Nat) (slots : List Slot) :
    (Block.entryOffsets offset slots).length = 2 * slots.length := by
  induction slots generalizing offset with
  | nil => rfl
  | cons slot rest ih =>
    simp only [Block.entryOffsets, List.length_append, Bytes.length_ofNat, ih, List.length_cons]
    omega

private theorem length_cell (sound : slot.Sound) (position start : Nat) :
    (slot.cell position start).length = 8 := by
  cases slot with
  | absent => simp [Slot.cell]
  | scalar width value =>
    simp only [Slot.Sound] at sound
    simp [Slot.cell, sound]
  | child block => simp [Slot.cell]

private theorem length_cells (sound : ∀ slot ∈ slots, slot.Sound) (position start : Nat) :
    (Block.cells position start slots).length = 8 * slots.length := by
  induction slots generalizing position start with
  | nil => rfl
  | cons slot rest ih =>
    rw [Block.cells, List.length_append, length_cell (sound slot (by simp)),
      ih fun other member => sound other (by simp [member]), List.length_cons]
    omega

/-- How many bytes the blocks of slots take. -/
def childLength (slots : List Slot) : Nat :=
  (slots.flatMap (·.childBytes)).length

@[simp] theorem childLength_nil : childLength [] = 0 := rfl

@[simp] theorem childLength_cons (slot : Slot) (rest : List Slot) :
    childLength (slot :: rest) = slot.childBytes.length + childLength rest := by
  rw [childLength, List.flatMap_cons, List.length_append, ← childLength]

theorem length_table (sound : ∀ slot ∈ slots, slot.Sound) :
    (Block.table slots).bytes.length =
      8 + Bytes.roundUp 8 (2 * slots.length) + 8 * slots.length + childLength slots := by
  simp only [Block.table, List.length_append, Bytes.length_ofNat, Bytes.length_padded,
    length_entryOffsets, length_cells sound, childLength]
  omega

theorem Holds.entryOffset {position offset : Nat}
    (holds : Holds buffer position (Block.entryOffsets offset slots))
    (found : slots[index]? = some slot) :
    Holds buffer (position + 2 * index) (Bytes.ofNat 2 (slot.entryOffset (offset + 8 * index))) := by
  induction slots generalizing position offset index with
  | nil => simp at found
  | cons first rest ih =>
    rw [Block.entryOffsets] at holds
    cases index with
    | zero =>
      obtain rfl : first = slot := by simpa using found
      exact holds.left
    | succ index =>
      have later := ih holds.right (by simpa using found)
      rw [Bytes.length_ofNat] at later
      have place : position + 2 + 2 * index = position + 2 * (index + 1) := by omega
      have entry : offset + 8 + 8 * index = offset + 8 * (index + 1) := by omega
      rwa [place, entry] at later

theorem Holds.cell {position place start : Nat} (sound : ∀ slot ∈ slots, slot.Sound)
    (holds : Holds buffer position (Block.cells place start slots))
    (found : slots[index]? = some slot) :
    Holds buffer (position + 8 * index)
      (slot.cell (place + 8 * index) (start + childLength (slots.take index))) := by
  induction slots generalizing position place start index with
  | nil => simp at found
  | cons first rest ih =>
    rw [Block.cells] at holds
    cases index with
    | zero =>
      obtain rfl : first = slot := by simpa using found
      exact holds.left
    | succ index =>
      have later := ih (fun other member => sound other (by simp [member])) holds.right
        (by simpa using found)
      rw [length_cell (sound first (by simp))] at later
      have here : position + 8 + 8 * index = position + 8 * (index + 1) := by omega
      have there : place + 8 + 8 * index = place + 8 * (index + 1) := by omega
      rw [here, there, Nat.add_assoc start] at later
      simpa using later

theorem Holds.child {position : Nat} (holds : Holds buffer position (slots.flatMap (·.childBytes)))
    (found : slots[index]? = some slot) :
    Holds buffer (position + childLength (slots.take index)) slot.childBytes := by
  induction slots generalizing position index with
  | nil => simp at found
  | cons first rest ih =>
    rw [List.flatMap_cons] at holds
    cases index with
    | zero =>
      obtain rfl : first = slot := by simpa using found
      exact holds.left
    | succ index =>
      have later := ih holds.right (by simpa using found)
      rw [Nat.add_assoc] at later
      simpa using later

private theorem childLength_mod (sound : ∀ slot ∈ slots, slot.Sound) : childLength slots % 8 = 0 := by
  induction slots with
  | nil => rfl
  | cons slot rest ih =>
    have later := ih fun other member => sound other (by simp [member])
    have own : slot.childBytes.length % 8 = 0 := by
      cases slot with
      | absent => rfl
      | scalar width value => rfl
      | child block => exact (sound (.child block) (by simp)).whole
    rw [childLength_cons]
    omega

private theorem childLength_take (found : slots[index]? = some slot) :
    childLength (slots.take index) + slot.childBytes.length ≤ childLength slots := by
  induction slots generalizing index with
  | nil => simp at found
  | cons first rest ih =>
    cases index with
    | zero =>
      obtain rfl : first = slot := by simpa using found
      simp
    | succ index =>
      have later := ih (by simpa using found)
      rw [List.take_succ_cons, childLength_cons, childLength_cons]
      omega

theorem sound_table (sound : ∀ slot ∈ slots, slot.Sound) : (Block.table slots).Sound := by
  have whole := Bytes.roundUp_mod (by decide : 0 < 8) (2 * slots.length)
  have children := childLength_mod sound
  constructor
  · rw [length_table sound]
    omega
  · rw [length_table sound]
    show 4 + Bytes.roundUp 8 (2 * slots.length) ≤ _
    omega

end Layout

/-- Whether a table of few slots is laid out in a buffer, with its entries at `base`. -/
structure Laid (buffer : Buffer) (base : Nat) (slots : List Slot) : Prop where
  aligned : base % 8 = 0
  holds : Holds buffer base (Block.table slots).bytes
  few : slots.length < 2 ^ 12
  small : (Block.table slots).bytes.length < 2 ^ 32
  sound : ∀ slot ∈ slots, slot.Sound

namespace Laid

def position (base : Nat) (slots : List Slot) : Nat :=
  base + (Block.table slots).entry

def entered (base : Nat) (slots : List Slot) : Table :=
  ⟨position base slots, base, 4 + 2 * slots.length⟩

variable {α : Type} {buffer : Buffer} {base : Nat} {slots : List Slot}
  (laid : Laid buffer base slots) {slot : Slot} {index : Nat}
include laid

private theorem position_mod : position base slots % 8 = 4 := by
  have whole := Bytes.roundUp_mod (by decide : 0 < 8) (2 * slots.length)
  have aligned := laid.aligned
  show (base + (4 + Bytes.roundUp 8 (2 * slots.length))) % 8 = 4
  omega

theorem entries : Holds buffer base (Bytes.ofNat 2 (4 + 2 * slots.length)) :=
  laid.holds.left.left.left.left.left

theorem entry (found : slots[index]? = some slot) :
    Holds buffer (base + (4 + 2 * index)) (Bytes.ofNat 2 (slot.entryOffset (4 + 8 * index))) := by
  have all : Holds buffer (base + 4) (Block.entryOffsets 4 slots) :=
    laid.holds.left.left.left.right.left
  rw [← Nat.add_assoc]
  exact all.entryOffset found

theorem distance :
    Holds buffer (position base slots) (Bytes.ofNat 4 (Block.table slots).entry) := by
  have there := laid.holds.left.left.right
  simp only [List.length_append, Bytes.length_ofNat, Bytes.length_padded, length_entryOffsets]
    at there
  exact there

theorem cell (found : slots[index]? = some slot) :
    Holds buffer (position base slots + (4 + 8 * index))
      (slot.cell ((Block.table slots).entry + (4 + 8 * index))
        ((Block.table slots).entry + (4 + 8 * slots.length) + childLength (slots.take index))) := by
  have all := laid.holds.left.right
  simp only [List.length_append, Bytes.length_ofNat, Bytes.length_padded, length_entryOffsets]
    at all
  have own := all.cell laid.sound found
  have here : base + (2 + 2 + Bytes.roundUp 8 (2 * slots.length) + 4) + 8 * index =
      position base slots + (4 + 8 * index) := by
    show _ = base + (4 + Bytes.roundUp 8 (2 * slots.length)) + (4 + 8 * index)
    omega
  rw [here, Nat.add_assoc (4 + Bytes.roundUp 8 (2 * slots.length)) 4] at own
  exact own

theorem child (found : slots[index]? = some slot) :
    Holds buffer (base + ((Block.table slots).entry + (4 + 8 * slots.length) +
      childLength (slots.take index))) slot.childBytes := by
  have all := laid.holds.right
  simp only [List.length_append, Bytes.length_ofNat, Bytes.length_padded, length_entryOffsets,
    length_cells laid.sound] at all
  have own := all.child found
  have here : base + (2 + 2 + Bytes.roundUp 8 (2 * slots.length) + 4 + 8 * slots.length) +
      childLength (slots.take index) = base + ((Block.table slots).entry +
        (4 + 8 * slots.length) + childLength (slots.take index)) := by
    show _ = base + (4 + Bytes.roundUp 8 (2 * slots.length) + (4 + 8 * slots.length) + _)
    omega
  rwa [here] at own

theorem leads {block : Block} (found : slots[index]? = some (.child block)) :
    Leads buffer (position base slots + (4 + 8 * index)) block := by
  have whole := Bytes.roundUp_mod (by decide : 0 < 8) (2 * slots.length)
  have own : block.Sound := laid.sound _ (List.mem_of_getElem? found)
  have before := childLength_take found
  have start : childLength (slots.take index) % 8 = 0 :=
    childLength_mod fun other member => laid.sound other (List.mem_of_mem_take member)
  have inside := (List.getElem?_eq_some_iff.mp found).1
  have total := laid.small
  rw [length_table laid.sound] at total
  have reference := (laid.cell found).left
  have placed := laid.child found
  have entry : (Block.table slots).entry = 4 + Bytes.roundUp 8 (2 * slots.length) := rfl
  rw [position, Nat.add_assoc] at reference ⊢
  simp only [Slot.childBytes] at before placed
  exact leads_of_holds reference placed own laid.aligned (by omega) (by omega) (by omega) (by omega)

theorem enter {depth : Nat} (allowed : 0 < depth) :
    Reads (Table.enter buffer depth (position base slots)) 1 (10 + 2 * slots.length)
      (entered base slots) := by
  have few := laid.few
  have aligned := laid.aligned
  have place := laid.position_mod
  have inside := laid.holds.within
  rw [length_table laid.sound] at inside
  have enough := Bytes.le_roundUp 8 (2 * slots.length)
  have near : (Block.table slots).entry < 2 ^ 31 := by
    show 4 + Bytes.roundUp 8 (2 * slots.length) < _
    rw [Bytes.roundUp, Bytes.gap]
    omega
  have back : Table.entriesAt? (position base slots) (Block.table slots).entry = some base := by
    have same : (position base slots : Int) - (Block.table slots).entry = base := by
      rw [position]
      omega
    simp [Table.entriesAt?, same]
  have length := reads_unsigned laid.entries (by omega) (by omega : base % 2 = 0)
  unfold Table.enter
  have distance := reads_signed laid.distance (by omega)
  rw [toInt_ofNat near] at distance
  refine Reads.mono (.bind (reads_require (decide_eq_true allowed)) (.bind distance
    (?_ : Reads _ 1 (6 + 2 * slots.length) _)))
    (by omega) (by omega)
  rw [back]
  exact Reads.mono (.bind (reads_require (decide_eq_true (by omega))) (.bind length
    (.bind (reads_require (decide_eq_true (by omega))) (.bind (reads_claim (by omega))
      (.bind reads_countTable (.pure _)))))) (by omega) (by omega)

theorem find_none (empty : slots.getD index .absent = .absent) :
    Reads ((entered base slots).find buffer index) 0 2 none := by
  unfold Table.find
  by_cases inside : index < slots.length
  · have found : slots[index]? = some .absent := by
      simpa [inside] using empty
    have aligned := laid.aligned
    have entry : Holds buffer (base + (4 + 2 * index)) (Bytes.ofNat 2 0) := laid.entry found
    rw [if_pos (by simp only [entered]; omega)]
    exact Reads.mono (.bind (reads_unsigned entry (by decide) (by simp only [entered]; omega))
      (.pure none)) rfl (Nat.le_refl _)
  · rw [if_neg (by simp only [entered]; omega)]
    exact (Reads.pure none).mono rfl (by omega)

theorem find_some (found : slots[index]? = some slot) (present : slot ≠ .absent) :
    Reads ((entered base slots).find buffer index) 0 2
      (some (position base slots + (4 + 8 * index))) := by
  have inside := (List.getElem?_eq_some_iff.mp found).1
  have few := laid.few
  have aligned := laid.aligned
  have offset : slot.entryOffset (4 + 8 * index) = 4 + 8 * index := by
    cases slot with
    | absent => exact absurd rfl present
    | scalar width value => rfl
    | child block => rfl
  have entry := laid.entry found
  rw [offset] at entry
  unfold Table.find
  rw [if_pos (by simp only [entered]; omega)]
  refine Reads.mono (.bind (reads_unsigned entry (by omega) (by simp only [entered]; omega))
    (.pure_eq ?_)) rfl (Nat.le_refl _)
  rw [if_neg (by omega)]
  rfl

theorem field_none (empty : slots.getD index .absent = .absent) (read : Nat → Reader α) :
    Reads ((entered base slots).field buffer index read) 0 2 none := by
  unfold Table.field
  exact Reads.mono (.bind (laid.find_none empty) (.pure none)) rfl (Nat.le_refl _)

theorem field_some {read : Nat → Reader α} {tables bytes : Nat} {value : α}
    (found : slots[index]? = some slot) (present : slot ≠ .absent)
    (reads : Reads (read (position base slots + (4 + 8 * index))) tables bytes value) :
    Reads ((entered base slots).field buffer index read) tables (2 + bytes) (some value) := by
  unfold Table.field
  exact Reads.mono (.bind (laid.find_some found present) (reads.map some)) (by omega) (Nat.le_refl _)

theorem small_child {block : Block} (found : slots[index]? = some (.child block)) :
    block.bytes.length < 2 ^ 32 := by
  have total := laid.small
  rw [length_table laid.sound] at total
  have before := childLength_take found
  simp only [Slot.childBytes] at before
  omega

theorem field_child {read : Buffer → Nat → Reader α} {block : Block} {tables : Nat} {value : α}
    (found : slots[index]? = some (.child block)) (means : Means read block tables value) :
    Reads ((entered base slots).field buffer index (Reader.refer buffer (read buffer))) tables
      (6 + 2 * block.bytes.length) (some value) :=
  (laid.field_some found (by simp) ((laid.leads found).refer means (laid.small_child found))).mono
    rfl (by omega)

theorem scalar {width value : Nat} (found : slots[index]? = some (.scalar width value)) :
    Holds buffer (position base slots + (4 + 8 * index)) (Bytes.ofNat width value) :=
  (laid.cell found).left

theorem fieldD_word {width value : Nat} (found : slots[index]? = some (.scalar width value))
    (divides : width ∣ 8) (default : Int) :
    Reads ((entered base slots).fieldD buffer index default (Reader.signed buffer width)) 0
      (2 + width) (Bytes.toInt width (Bytes.ofNat width value)) := by
  have aligned : (position base slots + (4 + 8 * index)) % width = 0 := by
    have place := laid.position_mod
    exact Nat.mod_eq_zero_of_dvd (Nat.dvd_trans divides (by omega))
  have read := reads_signed (laid.scalar found) aligned
  unfold Table.fieldD
  exact Reads.mono (.bind (laid.field_some found (by simp) read) (.pure _)) (by omega) (by omega)

theorem fieldD_signed {width value : Nat} (found : slots[index]? = some (.scalar width value))
    (divides : width ∣ 8) (fits : value < 256 ^ width / 2) (default : Int) :
    Reads ((entered base slots).fieldD buffer index default (Reader.signed buffer width)) 0
      (2 + width) (value : Int) :=
  toInt_ofNat fits ▸ laid.fieldD_word found divides default

theorem fieldD_truth (found : slots[index]? = some (.scalar 1 1)) (default : Bool) :
    Reads ((entered base slots).fieldD buffer index default (Reader.truth buffer)) 0 3 true := by
  have read := reads_truth (laid.scalar found)
  unfold Table.fieldD
  exact Reads.mono (.bind (laid.field_some found (by simp) read) (.pure true)) (by omega) (by omega)

theorem choice {read : Nat → Nat → Reader α} {kind tables bytes : Nat} {value : α} {block : Block}
    (found : slots[index]? = some (.scalar 1 kind)) (fits : kind < 256)
    (found' : slots[index + 1]? = some (.child block))
    (reads : Reads (read kind (position base slots + (4 + 8 * (index + 1)))) tables bytes value) :
    Reads ((entered base slots).choice buffer index read) tables (5 + bytes) (some value) := by
  have kinds := reads_unsigned (laid.scalar found) fits (Nat.mod_one _)
  unfold Table.choice
  exact Reads.mono (.bind (laid.find_some found' (by simp)) (.bind (laid.find_some found (by simp))
    (.bind kinds (reads.map some)))) (by omega) (by omega)

end Laid

/-- What a table means, if its slots are read in at most twice the bytes that they take. -/
theorem means_table {α : Type} {read : Buffer → Nat → Reader α} {slots : List Slot} {tables : Nat}
    {value : α} (few : slots.length < 2 ^ 12) (sound : ∀ slot ∈ slots, slot.Sound)
    (reads : ∀ (buffer : Buffer) (base : Nat), Laid buffer base slots →
      Reads (read buffer (Laid.position base slots)) tables
        (16 + 20 * slots.length + 2 * childLength slots) value) :
    Means read (Block.table slots) tables value where
  sound := sound_table sound
  reads small buffer base aligned holds := by
    refine (reads buffer base ⟨aligned, holds, few, small, sound⟩).mono rfl ?_
    have enough := Bytes.le_roundUp 8 (2 * slots.length)
    rw [length_table sound]
    omega

theorem Leads.laid {buffer : Buffer} {position : Nat} {slots : List Slot}
    (leads : Leads buffer position (Block.table slots)) (few : slots.length < 2 ^ 12)
    (small : (Block.table slots).bytes.length < 2 ^ 32) (sound : ∀ slot ∈ slots, slot.Sound) :
    ∃ base, Laid buffer base slots ∧
      Reads (Reader.refer buffer pure position) 0 4 (Laid.position base slots) := by
  obtain ⟨aligned, offset, base, holds, fits, aligned', placed, same⟩ := leads
  exact ⟨base, ⟨aligned', placed, few, small, sound⟩,
    reads_refer holds fits aligned (.pure_eq same)⟩

section Root

variable {α : Type} {read : Buffer → Nat → Reader α} {root : Block} {tables : Nat} {value : α}
  (means : Means read root tables value) (small : root.finish.length < 2 ^ 32)

include means small

/-- The root of a buffer that ends in anything. -/
theorem reads_finish (rest : Bytes) :
    Reads (Reader.refer (root.finish ++ rest).toArray (read (root.finish ++ rest).toArray) 0) tables
      (4 + 2 * root.bytes.length) value := by
  have length : root.finish.length = 8 + root.bytes.length := by simp [Block.finish]; omega
  have inside := means.sound.inside
  have holds : Holds (root.finish ++ rest).toArray 0 root.finish := (Holds.whole _).left
  have entry : Holds (root.finish ++ rest).toArray 0 (Bytes.ofNat 4 (8 + root.entry)) :=
    holds.left.left
  have placed : Holds (root.finish ++ rest).toArray 8 root.bytes := by
    simpa using holds.right
  refine reads_refer entry (by omega) (by decide) ?_
  rw [Nat.zero_add]
  exact means.reads (by omega) _ 8 (by decide) placed

theorem readRoot_finish {budget : Budget} (enough : tables ≤ budget.tables)
    (enough' : 2 * root.finish.length ≤ budget.bytes) (rest : Bytes) :
    readRoot budget (root.finish ++ rest).toArray (read (root.finish ++ rest).toArray) =
      some value := by
  have length : root.finish.length = 8 + root.bytes.length := by simp [Block.finish]; omega
  exact readRoot_of_reads (reads_finish means small rest) enough (by omega)

end Root

end Columnar.Flatbuffer
