import Columnar.Proofs.Dictionary.Provider
import Mathlib.Data.List.Induction

/-!
Columns that are refused encodings. There has to be one field for each column, each field has to be
readable, and no two may declare one id (`Encodable`); nothing else can go wrong, whatever ids are made up.
Of several faults the first is reported (`Fault`, `tracedBuild_rejects`).
-/
namespace Columnar.DictionaryProvider

open DictionaryEncoding (declared)

/-- What is asked of fields that are to give columns their encodings. -/
structure Encodable (fields : List Field) : Prop where
  readable : ∀ field ∈ fields, ∃ encoding?, declared field = .ok encoding?
  distinct : fields.Pairwise fun field other => ∀ encoding encoding',
    declared field = .ok (some encoding) → declared other = .ok (some encoding') →
      encoding.id ≠ encoding'.id

/-- What is wrong with a list of fields: the first that cannot be read, or that declares the id of an
earlier one. -/
inductive Fault (fields : List Field) : Malformation → Prop where
  | unreadable {before after : List Field} {field : Field} {cause : Malformation}
    (here : fields = before ++ field :: after) (sound : Encodable before)
    (failed : declared field = .error cause) : Fault fields cause
  | clash {before after : List Field} {field other : Field} {first : Nat}
    {encoding held : DictionaryEncoding} (here : fields = before ++ field :: after)
    (sound : Encodable before) (own : declared field = .ok (some encoding))
    (earlier : before[first]? = some other) (claimed : declared other = .ok (some held))
    (same : held.id = encoding.id) :
    Fault fields (.dictionaryClash encoding.id first before.length)

/-- Why columns with fields are refused encodings. -/
inductive Rejected (columns : List Column) (fields : List Field) : Malformation → Prop where
  | count (uneven : columns.length ≠ fields.length) :
    Rejected columns fields (.fieldCount columns.length fields.length)
  | field {cause : Malformation} (even : columns.length = fields.length)
    (fault : Fault fields cause) : Rejected columns fields cause

private theorem declaredId?_eq_some {field : Field} {id : Int64} :
    declaredId? field = some id ↔ ∃ encoding, declared field = .ok (some encoding) ∧ encoding.id = id := by
  unfold declaredId?
  split
  case h_1 encoding own => simp [own]
  case h_2 other => simpa using fun encoding own => absurd own (other encoding)

private theorem nodup_declaredIds {fields : List Field} :
    (declaredIds fields).Nodup ↔ fields.Pairwise fun field other => ∀ encoding encoding',
      declared field = .ok (some encoding) → declared other = .ok (some encoding') →
        encoding.id ≠ encoding'.id := by
  unfold declaredIds List.Nodup
  rw [List.pairwise_filterMap]
  simp only [declaredId?_eq_some]
  apply List.Pairwise.iff
  intro field other
  constructor
  · intro distinct encoding encoding' own own'
    exact distinct _ ⟨encoding, own, rfl⟩ _ ⟨encoding', own', rfl⟩
  · intro distinct id own id' own'
    obtain ⟨encoding, own, rfl⟩ := own
    obtain ⟨encoding', own', rfl⟩ := own'
    exact distinct encoding encoding' own own'

private theorem encodable_nil : Encodable [] :=
  ⟨by simp, .nil⟩

private theorem Fault.append {fields more : List Field} {cause : Malformation}
    (fault : Fault fields cause) :
    Fault (fields ++ more) cause := by
  cases fault with
  | @unreadable before after field _ here sound failed =>
    subst here
    exact .unreadable (List.append_assoc before (field :: after) more) sound failed
  | @clash before after field other first encoding held here sound own earlier claimed same =>
    subst here
    exact .clash (List.append_assoc before (field :: after) more) sound own earlier claimed same

theorem encodable_or_fault (fields : List Field) :
    Encodable fields ∨ ∃ cause, Fault fields cause := by
  induction fields using List.reverseRecOn with
  | nil => exact .inl encodable_nil
  | append_singleton fields field ih =>
    obtain sound | ⟨cause, fault⟩ := ih
    · cases own : declared field with
      | error cause => exact .inr ⟨cause, .unreadable rfl sound own⟩
      | ok encoding? =>
        by_cases clash : ∃ other ∈ fields, ∃ held encoding, declared other = .ok (some held) ∧
            encoding? = some encoding ∧ held.id = encoding.id
        · obtain ⟨other, member, held, encoding, claimed, rfl, same⟩ := clash
          obtain ⟨first, earlier⟩ := List.getElem?_of_mem member
          exact .inr ⟨_, .clash rfl sound own earlier claimed same⟩
        · refine .inl ⟨?_, ?_⟩
          · rw [List.forall_mem_append]
            exact ⟨sound.readable, by simp [own]⟩
          · rw [List.pairwise_append]
            refine ⟨sound.distinct, List.pairwise_singleton _ _, ?_⟩
            intro other member last here held encoding claimed own'
            obtain rfl := List.mem_singleton.mp here
            obtain rfl := Except.ok.inj (own.symm.trans own')
            intro same
            exact clash ⟨other, member, held, encoding, claimed, rfl, same⟩
    · exact .inr ⟨cause, fault.append⟩

private theorem Divides.mem {items undeclared : List Placed} {entries : List DictionaryEntry}
    (divides : Divides items entries undeclared) {item : Placed} {encoding : DictionaryEncoding}
    (member : item ∈ items)
    (own : DictionaryEncoding.declared item.field = .ok (some encoding)) :
    ⟨item.position, item.column, encoding, false⟩ ∈ entries := by
  induction divides with
  | nil => cases member
  | declared own' _ ih =>
    rcases List.mem_cons.mp member with rfl | later
    · cases own.symm.trans own'
      exact List.mem_cons_self
    · exact List.mem_cons_of_mem _ (ih later)
  | undeclared none _ ih =>
    rcases List.mem_cons.mp member with rfl | later
    · cases own.symm.trans none
    · exact ih later

section Build

variable {columns : List Column} {fields : List Field} (even : columns.length = fields.length)

include even

private theorem placed_append {before after : List Field} {field : Field}
    (here : fields = before ++ field :: after) :
    ∃ (front : List Placed) (item : Placed) (back : List Placed),
      placed columns fields = front ++ item :: back ∧ front.map (·.field) = before ∧
        item.field = field ∧ item.position = before.length ∧
        ∀ (index : Nat) (earlier : Placed), front[index]? = some earlier →
          earlier.position = index := by
  have inside : before.length < (placed columns fields).length := by
    rw [length_placed even, here]
    simp
  have parted := (List.take_append_drop before.length (placed columns fields)).symm
  rw [List.drop_eq_getElem_cons inside] at parted
  obtain ⟨position, -, own⟩ := placed_getElem?.mp (List.getElem?_eq_getElem inside)
  refine ⟨_, _, _, parted, ?_, ?_, position, ?_⟩
  · rw [List.map_take, placed_fields even, here, List.take_left]
  · simpa [here] using own.symm
  · intro index earlier found
    rw [List.getElem?_take] at found
    split at found
    · exact (placed_getElem?.mp found).1
    · cases found

private theorem build_of_fault {cause : Malformation} (fault : Fault fields cause) :
    build columns fields = .error cause := by
  suffices failed : claimDeclared empty (placed columns fields) = .error cause by
    rw [build_of_length even, failed]
    rfl
  cases fault with
  | @unreadable before after field _ here sound failed =>
    obtain ⟨front, item, back, parted, rfl, rfl, -, -⟩ := placed_append even here
    obtain ⟨entries, undeclared, divides⟩ := @exists_divides front
      fun item member => sound.readable item.field (List.mem_map_of_mem member)
    have distinct := nodup_declaredIds.mpr sound.distinct
    rw [← entryIds_of_divides divides] at distinct
    rw [parted, claimDeclared_append _ divides (by simpa [empty, ids] using distinct), claimDeclared,
      failed]
    rfl
  | @clash before after field other first encoding held here sound own earlier claimed same =>
    obtain ⟨front, item, back, parted, rfl, rfl, position, positions⟩ :=
      placed_append even here
    obtain ⟨entries, undeclared, divides⟩ := @exists_divides front
      fun item member => sound.readable item.field (List.mem_map_of_mem member)
    have distinct := nodup_declaredIds.mpr sound.distinct
    rw [← entryIds_of_divides divides] at distinct
    have distinct : (entryIds entries ++ empty.ids).Nodup := by simpa [empty, ids] using distinct
    rw [List.getElem?_map, Option.map_eq_some_iff] at earlier
    obtain ⟨holder, found, rfl⟩ := earlier
    have stored := (placeAll_perm empty entries).mem_iff.mpr (List.mem_append_left _
      (divides.mem (List.mem_of_getElem? found) claimed))
    have got := get?_of_mem (nodup_ids_placeAll.mpr distinct) stored
    dsimp only at got
    rw [same] at got
    rw [parted, claimDeclared_append _ divides distinct, claimDeclared, own, ok_bind]
    dsimp only
    rw [insert_of_held got, positions first holder found, position, List.length_map]
    rfl

private theorem build_of_encodable (few : fields.length < 2 ^ 64) (sound : Encodable fields) :
    ∃ provider, build columns fields = .ok provider :=
  exists_build even sound.readable (nodup_declaredIds.mpr sound.distinct) few

end Build

section Rejects

variable {columns : List Column} {fields : List Field}

theorem build_of_rejected {cause : Malformation} (rejected : Rejected columns fields cause) :
    build columns fields = .error cause := by
  cases rejected with
  | count uneven => rw [build, if_pos uneven]
  | field even fault => exact build_of_fault even fault

private theorem encodable_or_rejected (columns : List Column) (fields : List Field) :
    columns.length = fields.length ∧ Encodable fields ∨ ∃ cause, Rejected columns fields cause := by
  by_cases even : columns.length = fields.length
  · obtain sound | ⟨cause, fault⟩ := encodable_or_fault fields
    · exact .inl ⟨even, sound⟩
    · exact .inr ⟨cause, .field even fault⟩
  · exact .inr ⟨_, .count even⟩

theorem build_iff (few : fields.length < 2 ^ 64) :
    ((∃ provider, build columns fields = .ok provider) ↔
      columns.length = fields.length ∧ Encodable fields) ∧
    ∀ cause, build columns fields = .error cause ↔ Rejected columns fields cause := by
  apply outcome_iff (encodable_or_rejected columns fields)
  · intro encodable
    exact build_of_encodable encodable.1 few encodable.2
  · intro cause
    exact build_of_rejected

/-- Columns are given encodings exactly if their fields are as many, can be read and declare pairwise
different ids. What is reported otherwise is malformed input, with the first cause there is. The number
of fields is a length, and so a word. -/
theorem tracedBuild_rejects (few : fields.length < 2 ^ 64) :
    ((∃ provider, (tracedBuild columns fields).result = .ok provider) ↔
      columns.length = fields.length ∧ Encodable fields) ∧
    ∀ e, (tracedBuild columns fields).result = .error e ↔
      ∃ cause, e = .malformedInput cause ∧ Rejected columns fields cause := by
  rw [tracedBuild_result]
  constructor
  · simp only [mapError_eq_ok]
    exact (build_iff few).1
  · intro e
    simp only [mapError_eq_error, (build_iff few).2]
    constructor
    · intro failed
      obtain ⟨cause, rejected, same⟩ := failed
      exact ⟨cause, same.symm, rejected⟩
    · intro refused
      obtain ⟨cause, same, rejected⟩ := refused
      exact ⟨cause, rejected, same.symm⟩

end Rejects

def stating (id : String) (metadata : Metadata) : Field :=
  { Field.ofColumn "x" .int64 with metadata := metadata.insert DictionaryEncoding.idKey id }

/-- Ids are numbers: one declared as `5` and one as `+005` clash. An id that is marked as synthesized
clashes with nothing. -/
theorem tracedBuild_rejects_spellings :
    let columns := List.replicate 2 (Column.nulls "x" .int64 1)
    let marked := Metadata.empty.insert DictionaryEncoding.synthesizedKey "true"
    [stating "5" .empty, stating "+005" .empty].length < 2 ^ 64 ∧
      (tracedBuild columns [stating "5" .empty, stating "+005" .empty]).result =
        .error (.malformedInput (.dictionaryClash 5 0 1)) ∧
      ∃ provider, (tracedBuild columns [stating "5" marked, stating "+005" .empty]).result =
        .ok provider := by
  intro columns marked
  have first : declared (stating "5" .empty) = .ok (some ⟨5, false⟩) := by decide +kernel
  have second : declared (stating "+005" .empty) = .ok (some ⟨5, false⟩) := by decide +kernel
  have silent : declared (stating "5" marked) = .ok none := by decide +kernel
  have few : ∀ field, [field, stating "+005" .empty].length < 2 ^ 64 := by simp
  refine ⟨few _, ?_, ?_⟩
  · apply ((tracedBuild_rejects (few _)).2 _).mpr
    refine ⟨_, rfl, .field rfl ?_⟩
    have sound : Encodable [stating "5" .empty] :=
      ⟨by simp [first], List.pairwise_singleton _ _⟩
    exact @Fault.clash _ [_] [] _ _ 0 _ _ rfl sound second rfl first rfl
  · apply (tracedBuild_rejects (few _)).1.mpr
    refine ⟨rfl, by simp [silent, second], ?_⟩
    simp [silent]

end Columnar.DictionaryProvider
