import Columnar.Flatbuffer.Reader

/-!
What readers answer. `Holds` says that a buffer has some bytes at a position, and `Reads` that a reader
answers with a value and what it spends on the way. The readers of words, vectors and texts
answer with what the buffer holds.
-/
namespace Columnar.Flatbuffer

/-- Whether a buffer has the given bytes at a position. -/
def Holds (buffer : Buffer) (position : Nat) (bytes : Bytes) : Prop :=
  ∃ before after, buffer.toList = before ++ (bytes ++ after) ∧ before.length = position

namespace Holds

variable {buffer : Buffer} {position : Nat} {first second : Bytes}

theorem whole (bytes : Bytes) : Holds bytes.toArray 0 bytes :=
  ⟨[], [], by simp, rfl⟩

theorem left (holds : Holds buffer position (first ++ second)) : Holds buffer position first := by
  obtain ⟨before, after, same, placed⟩ := holds
  exact ⟨before, second ++ after, by simpa using same, placed⟩

theorem right (holds : Holds buffer position (first ++ second)) :
    Holds buffer (position + first.length) second := by
  obtain ⟨before, after, same, placed⟩ := holds
  exact ⟨before ++ first, after, by simpa using same, by simp [placed]⟩

theorem within {bytes : Bytes} (holds : Holds buffer position bytes) :
    position + bytes.length ≤ buffer.size := by
  obtain ⟨before, after, same, rfl⟩ := holds
  rw [← Array.length_toList, same]
  simp

theorem part_eq {bytes : Bytes} (holds : Holds buffer position bytes) :
    Reader.part buffer position bytes.length = bytes := by
  obtain ⟨before, after, same, rfl⟩ := holds
  simp [Reader.part, same, List.extract_eq_take_drop]

theorem getElem?_zero {byte : UInt8} (holds : Holds buffer position [byte]) :
    buffer[position]? = some byte := by
  obtain ⟨before, after, same, rfl⟩ := holds
  simp [← Array.getElem?_toList, same]

end Holds

/-- Whether a reader answers with a value and spends so many tables, and at most so many bytes. -/
def Reads {α : Type} (reader : Reader α) (tables bytes : Nat) (value : α) : Prop :=
  ∀ budget : Budget, tables ≤ budget.tables → bytes ≤ budget.bytes →
    ∃ rest, reader budget = some (value, rest) ∧
      budget.tables = rest.tables + tables ∧ budget.bytes ≤ rest.bytes + bytes

namespace Reads

variable {α β : Type}

theorem pure (value : α) : Reads (pure value) 0 0 value :=
  fun budget _ _ => ⟨budget, rfl, rfl, Nat.le_refl _⟩

theorem pure_eq {a b : α} (same : a = b) : Reads (Pure.pure a) 0 0 b :=
  same ▸ pure a

theorem bind {first : Reader α} {next : α → Reader β} {tables tables' bytes bytes' : Nat} {a : α}
    {b : β} (read : Reads first tables bytes a) (later : Reads (next a) tables' bytes' b) :
    Reads (first >>= next) (tables + tables') (bytes + bytes') b := by
  intro budget enough enough'
  obtain ⟨middle, answer, left, left'⟩ := read budget (by omega) (by omega)
  obtain ⟨rest, answer', kept, kept'⟩ := later middle (by omega) (by omega)
  refine ⟨rest, ?_, by omega, by omega⟩
  show (first budget).bind (fun step => next step.1 step.2) = _
  rw [answer]
  exact answer'

theorem mono {reader : Reader α} {tables tables' bytes bytes' : Nat} {value : α}
    (read : Reads reader tables bytes value) (same : tables = tables') (more : bytes ≤ bytes') :
    Reads reader tables' bytes' value := by
  intro budget enough enough'
  obtain ⟨rest, answer, left, left'⟩ := read budget (by omega) (by omega)
  exact ⟨rest, answer, by omega, by omega⟩

theorem map {reader : Reader α} {tables bytes : Nat} {value : α} (f : α → β)
    (read : Reads reader tables bytes value) : Reads (f <$> reader) tables bytes (f value) := by
  intro budget enough enough'
  obtain ⟨rest, answer, left⟩ := read budget enough enough'
  refine ⟨rest, ?_, left⟩
  show (reader budget).bind (fun step => some (f step.1, step.2)) = _
  rw [answer]
  rfl

end Reads

section Words

variable {buffer : Buffer} {position : Nat}

theorem reads_require {condition : Bool} (holds : condition = true) :
    Reads (Reader.require condition) 0 0 () :=
  fun budget _ _ => ⟨budget, if_pos holds, rfl, Nat.le_refl _⟩

theorem reads_claim {size : Nat} (inside : position + size ≤ buffer.size) :
    Reads (Reader.claim buffer position size) 0 size () := by
  intro budget _ enough
  refine ⟨{ budget with bytes := budget.bytes - size }, if_pos ⟨inside, enough⟩, rfl, ?_⟩
  simp only
  omega

theorem reads_countTable : Reads Reader.countTable 1 0 () := by
  intro budget some _
  refine ⟨{ budget with tables := budget.tables - 1 }, if_pos some, ?_, Nat.le_refl _⟩
  simp only
  omega

theorem reads_word {width : Nat} {bytes : Bytes} (holds : Holds buffer position bytes)
    (size : bytes.length = width) (aligned : position % width = 0) :
    Reads (Reader.word buffer width position) 0 width bytes := by
  subst size
  unfold Reader.word
  refine Reads.mono (.bind (reads_require (decide_eq_true aligned))
    (.bind (reads_claim holds.within) (.pure_eq holds.part_eq))) rfl (by omega)

theorem reads_unsigned {width value : Nat} (holds : Holds buffer position (Bytes.ofNat width value))
    (fits : value < 256 ^ width) (aligned : position % width = 0) :
    Reads (Reader.unsigned buffer width position) 0 width value := by
  unfold Reader.unsigned
  exact Reads.mono (.bind (reads_word holds (Bytes.length_ofNat width value) aligned)
    (.pure_eq (Bytes.toNat_ofNat_of_lt fits))) rfl (Nat.le_refl _)

theorem reads_signed {width value : Nat} (holds : Holds buffer position (Bytes.ofNat width value))
    (aligned : position % width = 0) :
    Reads (Reader.signed buffer width position) 0 width
      (Bytes.toInt width (Bytes.ofNat width value)) := by
  unfold Reader.signed
  exact Reads.mono (.bind (reads_word holds (Bytes.length_ofNat width value) aligned)
    (.pure _)) rfl (Nat.le_refl _)

theorem toInt_ofNat {width value : Nat} (fits : value < 256 ^ width / 2) :
    Bytes.toInt width (Bytes.ofNat width value) = value := by
  have fits' : value < 256 ^ width := by omega
  rw [Bytes.toInt, Bytes.toNat_ofNat_of_lt fits']
  exact if_pos fits

theorem reads_truth (holds : Holds buffer position (Bytes.ofNat 1 1)) :
    Reads (Reader.truth buffer position) 0 1 true := by
  unfold Reader.truth
  exact Reads.mono (.bind (reads_unsigned holds (by decide) (Nat.mod_one _)) (.pure_eq rfl))
    rfl (Nat.le_refl _)

theorem reads_refer {α : Type} {read : Nat → Reader α} {offset tables bytes : Nat} {value : α}
    (holds : Holds buffer position (Bytes.ofNat 4 offset)) (fits : offset < 2 ^ 32)
    (aligned : position % 4 = 0) (target : Reads (read (position + offset)) tables bytes value) :
    Reads (Reader.refer buffer read position) tables (4 + bytes) value :=
  Reads.mono (.bind (reads_unsigned holds fits aligned) target) (by omega) (Nat.le_refl _)

theorem reads_vectorRange (size alignment : Nat) {count : Nat}
    (holds : Holds buffer position (Bytes.ofNat 4 count)) (fits : count < 2 ^ 32)
    (aligned : position % 4 = 0) (aligned' : (position + 4) % alignment = 0)
    (inside : position + 4 + count * size ≤ buffer.size) :
    Reads (Reader.vectorRange buffer size alignment position) 0 (4 + count * size)
      (position + 4, count) := by
  unfold Reader.vectorRange
  exact Reads.mono (.bind (reads_unsigned holds fits aligned)
    (.bind (reads_require (decide_eq_true aligned')) (.bind (reads_claim inside) (.pure _))))
    rfl (by omega)

end Words

/-- What is read from a budget that suffices. -/
theorem readRoot_of_reads {α : Type} {buffer : Buffer} {read : Nat → Reader α} {budget : Budget}
    {tables bytes : Nat} {value : α} (reads : Reads (Reader.refer buffer read 0) tables bytes value)
    (enough : tables ≤ budget.tables) (enough' : bytes ≤ budget.bytes) :
    readRoot budget buffer read = some value := by
  obtain ⟨rest, answer, -⟩ := reads budget enough enough'
  show (Reader.refer buffer read 0 budget).map Prod.fst = _
  rw [answer]
  rfl

end Columnar.Flatbuffer
