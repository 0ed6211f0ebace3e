import Columnar.Flatbuffer.Layout
import Columnar.Proofs.Bytes
import Columnar.Proofs.Flatbuffer.Reading

/-!
What blocks mean to readers. A block means a value (`Means`) if the reader that is led to it answers
with the value wherever the block is placed. Texts, vectors and structures mean what they are made of,
and the fields of a table mean what its slots hold. On the way no byte is looked at more than twice.
-/
namespace Columnar.Flatbuffer

/-- Whether a block may stand among others: it fills a multiple of eight bytes and is entered within
them. -/
structure Block.Sound (block : Block) : Prop where
  whole : block.bytes.length % 8 = 0
  inside : block.entry ≤ block.bytes.length

/-- Whether a reader answers with a value at the entry of a block, wherever the block is placed at a
multiple of eight, and enters so many tables. -/
structure Means {α : Type} (read : Buffer → Nat → Reader α) (block : Block) (tables : Nat)
    (value : α) : Prop where
  sound : block.Sound
  reads : block.bytes.length < 2 ^ 32 → ∀ (buffer : Buffer) (base : Nat), base % 8 = 0 →
    Holds buffer base block.bytes →
      Reads (read buffer (base + block.entry)) tables (2 * block.bytes.length) value

/-- Whether the reference at a position leads to a block. -/
structure Leads (buffer : Buffer) (position : Nat) (block : Block) : Prop where
  aligned : position % 4 = 0
  target : ∃ offset start, Holds buffer position (Bytes.ofNat 4 offset) ∧ offset < 2 ^ 32 ∧
    start % 8 = 0 ∧ Holds buffer start block.bytes ∧ position + offset = start + block.entry

theorem Leads.refer {α : Type} {buffer : Buffer} {position : Nat} {block : Block}
    {read : Buffer → Nat → Reader α} {tables : Nat} {value : α}
    (leads : Leads buffer position block) (means : Means read block tables value)
    (small : block.bytes.length < 2 ^ 32) :
    Reads (Reader.refer buffer (read buffer) position) tables (4 + 2 * block.bytes.length) value := by
  obtain ⟨aligned, offset, start, holds, fits, aligned', placed, same⟩ := leads
  refine reads_refer holds fits aligned ?_
  rw [same]
  exact means.reads small buffer start aligned' placed

/-- A reference within a block of less than 2 ^ 32 bytes that is placed at `base`. -/
theorem leads_of_holds {buffer : Buffer} {base position start : Nat} {block : Block}
    (reference : Holds buffer (base + position) (Bytes.ofNat 4 (start + block.entry - position)))
    (placed : Holds buffer (base + start) block.bytes) (sound : block.Sound)
    (aligned : base % 8 = 0) (aligned' : position % 4 = 0) (aligned'' : start % 8 = 0)
    (before : position ≤ start) (small : start + block.bytes.length < 2 ^ 32) :
    Leads buffer (base + position) block := by
  have inside := sound.inside
  exact ⟨by omega, _, _, reference, by omega, by omega, placed, by omega⟩

section Leaves

theorem length_text (text : String) :
    (Block.text text).bytes.length = Bytes.roundUp 8 (4 + ((Text.bytes text).length + 1)) := by
  simp [Block.text]

theorem means_text (text : String) : Means Reader.text (Block.text text) 0 text where
  sound := by
    constructor
    · rw [length_text]
      exact Bytes.roundUp_mod (by decide) _
    · exact Nat.zero_le _
  reads small buffer base aligned holds := by
    rw [length_text] at small ⊢
    have enough := Bytes.le_roundUp 8 (4 + ((Text.bytes text).length + 1))
    have raw : Holds buffer base (Bytes.ofNat 4 (Text.bytes text).length ++ Text.bytes text ++ [0]) :=
      holds.left
    have body := raw.left.right
    rw [Bytes.length_ofNat] at body
    have zero := raw.right
    rw [List.length_append, Bytes.length_ofNat] at zero
    have inside := body.within
    have range := reads_vectorRange 1 1 raw.left.left (by omega) (by omega : base % 4 = 0)
      (Nat.mod_one _) (by omega)
    unfold Reader.text
    refine Reads.mono (.bind range (.bind (reads_require ?_) (?_ : Reads _ 0 0 text)))
      rfl (by omega)
    · rw [Nat.add_assoc, zero.getElem?_zero]
      rfl
    · rw [body.part_eq, Text.ofBytes?_bytes]
      exact Reads.pure text

theorem Holds.flatMap {α : Type} {buffer : Buffer} {size : Nat} {toBytes : α → Bytes} {xs : List α}
    {position : Nat} (sized : ∀ x ∈ xs, (toBytes x).length = size)
    (holds : Holds buffer position (xs.flatMap toBytes)) (index : Nat) (inside : index < xs.length) :
    Holds buffer (position + index * size) (toBytes xs[index]) := by
  induction xs generalizing position index with
  | nil => simp at inside
  | cons x xs ih =>
    rw [List.flatMap_cons] at holds
    cases index with
    | zero => simpa using holds.left
    | succ index =>
      have rest := holds.right
      rw [sized x (by simp)] at rest
      have found := ih (fun y member => sized y (by simp [member])) rest index (by simpa using inside)
      rwa [Nat.add_assoc, Nat.add_comm size, ← Nat.succ_mul] at found

theorem length_structs (count : Nat) (raw : Bytes) :
    (Block.structs count raw).bytes.length = Bytes.roundUp 8 (8 + raw.length) := by
  simp [Block.structs, ← Nat.add_assoc]

theorem sound_structs (count : Nat) (raw : Bytes) : (Block.structs count raw).Sound := by
  have enough := Bytes.le_roundUp 8 (8 + raw.length)
  constructor
  · rw [length_structs]
    exact Bytes.roundUp_mod (by decide) _
  · rw [length_structs]
    exact Nat.le_trans (by omega : 4 ≤ 8 + raw.length) enough

theorem means_structs {α : Type} {size alignment : Nat} {ofBytes : Bytes → α} {toBytes : α → Bytes}
    {xs : List α} (positive : 0 < size) (divides : alignment ∣ 8)
    (exact : ∀ x ∈ xs, (toBytes x).length = size ∧ ofBytes (toBytes x) = x) :
    Means (fun buffer => Reader.structs buffer size alignment ofBytes)
      (Block.structs xs.length (xs.flatMap toBytes)) 0 xs where
  sound := sound_structs _ _
  reads small buffer base aligned holds := by
    have total : (xs.flatMap toBytes).length = xs.length * size := by
      rw [List.length_flatMap, List.map_congr_left fun x member => (exact x member).1,
        List.map_const', List.sum_replicate_nat]
    rw [length_structs, total] at small ⊢
    have enough := Bytes.le_roundUp 8 (8 + xs.length * size)
    have raw : Holds buffer base
        (Bytes.zeros 4 ++ Bytes.ofNat 4 xs.length ++ xs.flatMap toBytes) := holds.left
    have count := raw.left.right
    have items := raw.right
    rw [List.length_append, Bytes.length_zeros, Bytes.length_ofNat] at items
    rw [Bytes.length_zeros] at count
    have inside := items.within
    have few : xs.length ≤ xs.length * size := Nat.le_mul_of_pos_right _ positive
    have range := reads_vectorRange size alignment count (by omega)
      (by omega : (base + 4) % 4 = 0)
      (Nat.mod_eq_zero_of_dvd (Nat.dvd_trans divides (by omega))) (by omega)
    unfold Reader.structs
    refine Reads.mono (.bind range (.pure_eq ?_)) rfl (by omega)
    refine List.ext_getElem (by simp) fun index left right => ?_
    have part := (items.flatMap (fun x member => (exact x member).1) index right).part_eq
    rw [(exact _ (List.getElem_mem right)).1] at part
    simp only [List.getElem_map, List.getElem_range]
    exact (congrArg ofBytes part).trans (exact _ (List.getElem_mem right)).2

end Leaves

section Vectors

private theorem length_references (position start : Nat) (items : List Block) :
    (Block.references position start items).length = 4 * items.length := by
  induction items generalizing position start with
  | nil => rfl
  | cons block rest ih =>
    simp only [Block.references, List.length_append, Bytes.length_ofNat, ih, List.length_cons]
    omega

private theorem leads_references {buffer : Buffer} {base position start : Nat} {items : List Block}
    (sound : ∀ block ∈ items, block.Sound)
    (references : Holds buffer (base + position) (Block.references position start items))
    (placed : Holds buffer (base + start) (items.flatMap (·.bytes)))
    (aligned : base % 8 = 0) (aligned' : position % 4 = 0) (aligned'' : start % 8 = 0)
    (before : position + 4 * items.length ≤ start)
    (small : start + (items.flatMap (·.bytes)).length < 2 ^ 32) (index : Nat)
    (inside : index < items.length) :
    Leads buffer (base + position + 4 * index) items[index] := by
  induction items generalizing position start index with
  | nil => simp at inside
  | cons block rest ih =>
    rw [Block.references] at references
    rw [List.flatMap_cons] at placed small
    rw [List.length_append] at small
    rw [List.length_cons] at before
    have own := sound block (by simp)
    have whole := own.whole
    cases index with
    | zero =>
      show Leads buffer (base + position) block
      exact leads_of_holds references.left placed.left own aligned aligned' aligned'' (by omega)
        (by omega)
    | succ index =>
      have later := @ih (position + 4) (start + block.bytes.length)
        (fun other member => sound other (by simp [member]))
        (by simpa [Nat.add_assoc] using references.right)
        (by simpa [Nat.add_assoc] using placed.right) (by omega) (by omega) (by omega)
        (by omega) index (by simpa using inside)
      have same : base + (position + 4) + 4 * index = base + position + 4 * (index + 1) := by omega
      rwa [same] at later

theorem reads_each {α β : Type} {buffer : Buffer} {read : Buffer → Nat → Reader α} {xs : List β}
    {block : β → Block} {tables : β → Nat} {value : β → α} {position : Nat}
    (leads : ∀ (index : Nat) (inside : index < xs.length),
      Leads buffer (position + 4 * index) (block xs[index]))
    (means : ∀ x ∈ xs, Means read (block x) (tables x) (value x))
    (small : ∀ x ∈ xs, (block x).bytes.length < 2 ^ 32) :
    Reads (Reader.each (Reader.refer buffer (read buffer)) 4 xs.length position)
      (xs.map tables).sum (4 * xs.length + 2 * ((xs.map block).flatMap (·.bytes)).length)
      (xs.map value) := by
  induction xs generalizing position with
  | nil => exact Reads.pure []
  | cons x xs ih =>
    have lead : Leads buffer position (block x) := leads 0 (by simp)
    have first := lead.refer (means x (by simp)) (small x (by simp))
    have later := @ih (position + 4)
      (fun index inside => by
        have lead := leads (index + 1) (by simpa using inside)
        rwa [Nat.mul_add, Nat.add_comm (4 * index), ← Nat.add_assoc] at lead)
      (fun y member => means y (by simp [member])) (fun y member => small y (by simp [member]))
    simp only [List.map_cons, List.sum_cons, List.flatMap_cons, List.length_append, List.length_cons]
    exact Reads.mono (.bind first (.bind later (.pure _))) (by omega) (by omega)

theorem length_vector (items : List Block) :
    (Block.vector items).bytes.length =
      8 + Bytes.roundUp 8 (4 * items.length) + (items.flatMap (·.bytes)).length := by
  simp only [Block.vector, List.length_append, Bytes.length_zeros, Bytes.length_ofNat,
    Bytes.length_padded, length_references]

theorem whole_flatMap {items : List Block} (sound : ∀ block ∈ items, block.Sound) :
    (items.flatMap (·.bytes)).length % 8 = 0 := by
  induction items with
  | nil => rfl
  | cons block rest ih =>
    have own := (sound block (by simp)).whole
    have later := ih fun other member => sound other (by simp [member])
    rw [List.flatMap_cons, List.length_append]
    omega

private theorem length_le_flatMap {items : List Block} {block : Block} (member : block ∈ items) :
    block.bytes.length ≤ (items.flatMap (·.bytes)).length := by
  obtain ⟨before, after, rfl⟩ := List.append_of_mem member
  rw [List.flatMap_append, List.flatMap_cons, List.length_append, List.length_append]
  omega

theorem means_vector {α β : Type} {read : Buffer → Nat → Reader α} {xs : List β}
    {block : β → Block} {tables : β → Nat} {value : β → α}
    (means : ∀ x ∈ xs, Means read (block x) (tables x) (value x)) :
    Means (fun buffer => Reader.vector buffer (read buffer)) (Block.vector (xs.map block))
      (xs.map tables).sum (xs.map value) where
  sound := by
    have whole := Bytes.roundUp_mod (by decide : 0 < 8) (4 * (xs.map block).length)
    have items := whole_flatMap (List.forall_mem_map.mpr fun x member => (means x member).sound)
    constructor
    · rw [length_vector]
      omega
    · rw [length_vector]
      show 4 ≤ _
      omega
  reads small buffer base aligned holds := by
    have whole := Bytes.roundUp_mod (by decide : 0 < 8) (4 * (xs.map block).length)
    have enough := Bytes.le_roundUp 8 (4 * (xs.map block).length)
    rw [length_vector] at small ⊢
    have front : Holds buffer base (Bytes.zeros 4 ++ Bytes.ofNat 4 (xs.map block).length ++
        Bytes.padded 8 (Block.references 8 (8 + Bytes.roundUp 8 (4 * (xs.map block).length))
          (xs.map block))) := holds.left
    have count := front.left.right
    rw [Bytes.length_zeros] at count
    have references := front.right.left
    rw [List.length_append, Bytes.length_zeros, Bytes.length_ofNat] at references
    have blocks := holds.right
    simp only [List.length_append, Bytes.length_zeros, Bytes.length_ofNat, Bytes.length_padded,
      length_references] at blocks
    have inside := references.within
    rw [length_references] at inside
    rw [List.length_map] at *
    have range := reads_vectorRange 4 4 count (by omega) (by omega : (base + 4) % 4 = 0)
      (by omega) (by omega)
    have leads := leads_references (List.forall_mem_map.mpr fun x member => (means x member).sound)
      references blocks aligned (by omega) (by omega) (by simp; omega) small
    unfold Reader.vector
    refine Reads.mono (.bind range (reads_each (fun index inside => ?_) means ?_)) (by omega)
      (by omega)
    · have lead := leads index (by simpa using inside)
      rw [List.getElem_map] at lead
      simpa only [Nat.add_assoc] using lead
    · intro x member
      have below := length_le_flatMap (List.mem_map_of_mem (f := block) member)
      omega

theorem means_vector_nil {α : Type} (read : Buffer → Nat → Reader α) :
    Means (fun buffer => Reader.vector buffer (read buffer)) (Block.vector []) 0 [] :=
  @means_vector α Empty read [] Empty.elim Empty.elim Empty.elim (by simp)

end Vectors

end Columnar.Flatbuffer
