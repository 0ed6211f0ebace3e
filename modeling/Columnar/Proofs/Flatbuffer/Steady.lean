import Columnar.Proofs.Flatbuffer.Reading

/-!
Budgets that do not suffice. Whatever a reader answers it answers with a larger budget too, and what has
been added is left over (`Steady`). So a reader that is known to spend some number of tables has no
answer within fewer (`readRoot_of_few`).
-/
namespace Columnar.Flatbuffer

def Budget.more (budget extra : Budget) : Budget :=
  ⟨budget.tables + extra.tables, budget.bytes + extra.bytes⟩

/-- Whether a reader answers alike with a larger budget, and leaves what was added. -/
def Steady {α : Type} (reader : Reader α) : Prop :=
  ∀ (budget extra rest : Budget) (value : α), reader budget = some (value, rest) →
    reader (budget.more extra) = some (value, rest.more extra)

namespace Steady

variable {α β : Type}

theorem pure (value : α) : Steady (pure value) := by
  rintro budget extra rest value' ⟨⟩
  rfl

theorem reject : Steady (Reader.reject : Reader α) :=
  nofun

theorem bind {first : Reader α} {next : α → Reader β} (steady : Steady first)
    (later : ∀ value, Steady (next value)) : Steady (first >>= next) := by
  intro budget extra rest value answer
  obtain ⟨⟨middle, left⟩, begun, ended⟩ := Option.bind_eq_some_iff.mp answer
  exact Option.bind_eq_some_iff.mpr
    ⟨_, steady budget extra left middle begun, later middle left extra rest value ended⟩

theorem map {reader : Reader α} (steady : Steady reader) (f : α → β) : Steady (f <$> reader) :=
  steady.bind fun value => .pure (f value)

section Words

variable {buffer : Buffer} {position : Nat}

theorem require (condition : Bool) : Steady (Reader.require condition) := by
  intro budget extra rest value answer
  unfold Reader.require at answer ⊢
  split at answer
  case isTrue met =>
    cases answer
    exact if_pos met
  case isFalse => cases answer

theorem claim (buffer : Buffer) (position size : Nat) : Steady (Reader.claim buffer position size) := by
  intro budget extra rest value answer
  unfold Reader.claim at answer ⊢
  split at answer
  case isFalse => cases answer
  case isTrue enough =>
    cases answer
    have enough' : position + size ≤ buffer.size ∧ size ≤ (budget.more extra).bytes :=
      ⟨enough.1, Nat.le_add_right_of_le enough.2⟩
    rw [if_pos enough']
    unfold Budget.more
    rw [Nat.sub_add_comm enough.2]

theorem countTable : Steady Reader.countTable := by
  intro budget extra rest value answer
  unfold Reader.countTable at answer ⊢
  split at answer
  case isFalse => cases answer
  case isTrue some =>
    cases answer
    have some' : 0 < (budget.more extra).tables := Nat.lt_add_right _ some
    rw [if_pos some']
    unfold Budget.more
    rw [Nat.sub_add_comm some]

theorem word (width position : Nat) : Steady (Reader.word buffer width position) :=
  (require _).bind fun _ => (claim buffer position width).bind fun _ => .pure _

theorem unsigned (width position : Nat) : Steady (Reader.unsigned buffer width position) :=
  (word width position).bind fun _ => .pure _

theorem signed (width position : Nat) : Steady (Reader.signed buffer width position) :=
  (word width position).bind fun _ => .pure _

theorem truth (position : Nat) : Steady (Reader.truth buffer position) :=
  (unsigned 1 position).bind fun _ => .pure _

theorem refer {read : Nat → Reader α} (steady : ∀ position, Steady (read position)) (position : Nat) :
    Steady (Reader.refer buffer read position) :=
  (unsigned 4 position).bind fun _ => steady _

theorem vectorRange (size alignment position : Nat) :
    Steady (Reader.vectorRange buffer size alignment position) :=
  (unsigned 4 position).bind fun _ => (require _).bind fun _ => (claim _ _ _).bind fun _ => .pure _

theorem each {read : Nat → Reader α} (steady : ∀ position, Steady (read position))
    (stride count position : Nat) : Steady (Reader.each read stride count position) := by
  induction count generalizing position with
  | zero => exact .pure []
  | succ count ih => exact (steady position).bind fun _ => (ih _).bind fun _ => .pure _

theorem vector {read : Nat → Reader α} (steady : ∀ position, Steady (read position))
    (position : Nat) : Steady (Reader.vector buffer read position) :=
  (vectorRange 4 4 position).bind fun _ => each (refer steady) 4 _ _

theorem structs (size alignment : Nat) (ofBytes : Bytes → α) (position : Nat) :
    Steady (Reader.structs buffer size alignment ofBytes position) :=
  (vectorRange size alignment position).bind fun _ => .pure _

theorem text (position : Nat) : Steady (Reader.text buffer position) := by
  apply (vectorRange 1 1 position).bind
  rintro ⟨start, count⟩
  apply (require _).bind
  intro _
  split
  · exact .pure _
  · exact .reject

end Words

section Tables

variable {buffer : Buffer} {table : Table}

theorem enter (buffer : Buffer) (depth position : Nat) : Steady (Table.enter buffer depth position) := by
  apply (require _).bind
  intro _
  apply (signed 4 position).bind
  intro distance
  split
  · exact .reject
  · exact (require _).bind fun _ => (unsigned 2 _).bind fun _ => (require _).bind fun _ =>
      (claim _ _ _).bind fun _ => countTable.bind fun _ => .pure _

theorem find (slot : Nat) : Steady (table.find buffer slot) := by
  unfold Table.find
  split
  · exact (unsigned 2 _).bind fun _ => .pure _
  · exact .pure none

theorem field {read : Nat → Reader α} (steady : ∀ position, Steady (read position)) (slot : Nat) :
    Steady (table.field buffer slot read) := by
  apply (find slot).bind
  intro position?
  cases position? with
  | none => exact .pure none
  | some position => exact (steady position).map some

theorem fieldD {read : Nat → Reader α} (steady : ∀ position, Steady (read position)) (slot : Nat)
    (default : α) : Steady (table.fieldD buffer slot default read) :=
  (field steady slot).bind fun _ => .pure _

theorem choice {read : Nat → Nat → Reader α} (steady : ∀ kind position, Steady (read kind position))
    (slot : Nat) : Steady (table.choice buffer slot read) := by
  apply (find (slot + 1)).bind
  intro value
  apply (find slot).bind
  intro kind
  cases kind with
  | none =>
    cases value with
    | none => exact .pure none
    | some value => exact .reject
  | some kind =>
    cases value with
    | none => exact .reject
    | some value => exact (unsigned 1 kind).bind fun _ => (steady _ value).map some

end Tables

end Steady

/-- What is not read within so many tables is not read at all within fewer. -/
theorem readRoot_of_few {α : Type} {buffer : Buffer} {read : Nat → Reader α} {budget : Budget}
    {tables bytes : Nat} {value : α} (steady : ∀ position, Steady (read position))
    (reads : Reads (Reader.refer buffer read 0) tables bytes value) (few : budget.tables < tables) :
    readRoot budget buffer read = none := by
  cases answer : Reader.refer buffer read 0 budget with
  | none =>
    show (Reader.refer buffer read 0 budget).map Prod.fst = _
    rw [answer]
    rfl
  | some found =>
    -- With the missing tables added, as many would have to be left as were missing, but none are.
    have again := Steady.refer steady 0 budget ⟨tables - budget.tables, bytes⟩ _ _ answer
    obtain ⟨rest, answer', spent, -⟩ := reads (budget.more ⟨tables - budget.tables, bytes⟩)
      (by simp only [Budget.more]; omega) (Nat.le_add_left _ _)
    obtain rfl := (Prod.mk.inj (Option.some.inj (again.symm.trans answer'))).2
    simp only [Budget.more] at spent
    omega

end Columnar.Flatbuffer
