import Columnar.Proofs.Dictionary.Annotation
import Mathlib.Order.Bounds.Basic

/-!
Which column is given which id. A declared encoding is kept as it is. Any other column gets the least id
from its position on that no field declares and no earlier column was given (`openIds`), so that the ids
made up ascend with the positions and stay near them (`assigned_of_build`).
-/
namespace Columnar.DictionaryProvider

open DictionaryEncoding (declared)

/-- The ids open to the column at a position: from the position on, those that are neither held nor given
to an earlier column. -/
def openIds (held : List Int64) (given : List DictionaryEntry) (position : Nat) : Set Int :=
  {id | (position : Int) ≤ id ∧ (∀ other ∈ held, other.toInt ≠ id) ∧
    ∀ entry ∈ given, entry.position < position → entry.encoding.id.toInt ≠ id}

def freeIds (held : List Int64) (position : Nat) : Set Int :=
  {id | (position : Int) ≤ id ∧ ∀ other ∈ held, other.toInt ≠ id}

theorem openIds_anti {held : List Int64} {given : List DictionaryEntry} {first second : Nat}
    (order : first ≤ second) : openIds held given second ⊆ openIds held given first := by
  intro id allowed
  obtain ⟨above, free, fresh⟩ := allowed
  refine ⟨by omega, free, ?_⟩
  intro entry member before
  exact fresh entry member (by omega)

theorem toInt_add_ofNat {start steps : Nat} (small : start + steps < 2 ^ 63) :
    (Int64.ofNat start + Int64.ofNat steps).toInt = start + steps := by
  rw [← Int64.ofNat_add, Int64.toInt_ofNat_of_lt small, Int.natCast_add]

private theorem freeIdentity_steps {provider : DictionaryProvider} {position : Nat}
    (small : position + provider.size < 2 ^ 63) :
    ∃ steps ≤ provider.size, (provider.freeIdentity position).id.toInt = position + steps ∧
      ∀ step < steps, ∃ held ∈ provider.ids, held.toInt = position + step := by
  obtain ⟨steps, within, found, passed, -⟩ :=
    freeIdFrom_spec provider.ids provider.size (DictionaryEncoding.identity position).id
  refine ⟨steps, within, ?_, ?_⟩
  · have small' : position + steps < 2 ^ 63 := by omega
    exact (congrArg Int64.toInt found).trans (toInt_add_ofNat small')
  · intro step before
    have small' : position + step < 2 ^ 63 := by omega
    exact ⟨_, passed step before, toInt_add_ofNat small'⟩

theorem freeIdentity_isLeast {provider : DictionaryProvider} {position : Nat}
    (small : position + provider.size < 2 ^ 63) :
    IsLeast (freeIds provider.ids position) (provider.freeIdentity position).id.toInt := by
  obtain ⟨steps, -, value, passed⟩ := freeIdentity_steps small
  constructor
  · refine ⟨by omega, fun other held same => ?_⟩
    rw [Int64.toInt_inj.mp same] at held
    exact freeIdentity_not_mem (by omega) position held
  · rintro id ⟨above, free⟩
    by_contra below
    -- An id below the one found is one that the search has passed.
    obtain ⟨held, member, same⟩ := passed (id - position).toNat (by omega)
    exact free held member (by omega)

section Given

variable {provider : DictionaryProvider} {items : List Placed} {given : List DictionaryEntry}

theorem freeEntry_isLeast {item : Placed} (small : item.position + provider.size < 2 ^ 63)
    (after : ∀ entry ∈ given, item.position ≤ entry.position) :
    IsLeast (openIds provider.ids given item.position)
      (provider.freeEntry item).encoding.id.toInt := by
  obtain ⟨⟨above, free⟩, least⟩ := freeIdentity_isLeast small
  constructor
  · refine ⟨above, free, fun entry member before => ?_⟩
    exact absurd (after entry member) (by omega)
  · rintro id ⟨above, free, -⟩
    exact least ⟨above, free⟩

private theorem openIds_placeAll {entry : DictionaryEntry} {position : Nat}
    (before : entry.position < position) :
    openIds (provider.placeAll [entry]).ids given position =
      openIds provider.ids (entry :: given) position := by
  have held : ∀ id, id ∈ (provider.placeAll [entry]).ids ↔ id ∈ entry.encoding.id :: provider.ids :=
    fun id => (ids_placeAll provider [entry]).mem_iff
  ext id
  simp only [openIds, Set.mem_ofPred_eq, held, List.forall_mem_cons, before, forall_const]
  tauto

private theorem Given.le_position {bound : Nat} (own : Given provider items given)
    (after : ∀ item ∈ items, bound < item.position) : ∀ entry ∈ given, bound < entry.position := by
  induction own with
  | nil => simp
  | cons _ ih =>
    obtain ⟨first, others⟩ := List.forall_mem_cons.mp after
    exact List.forall_mem_cons.mpr ⟨first, ih others⟩

private theorem Given.made_up (own : Given provider items given) :
    ∀ entry ∈ given, entry.encoding.ordered = false ∧ entry.synthesized = true := by
  induction own with
  | nil => simp
  | cons _ ih => exact List.forall_mem_cons.mpr ⟨⟨rfl, rfl⟩, ih⟩

private theorem Given.near (own : Given provider items given)
    (small : ∀ item ∈ items, item.position + provider.size + items.length ≤ 2 ^ 63) :
    ∀ entry ∈ given, entry.encoding.id.toInt < entry.position + provider.size + items.length := by
  induction own with
  | nil => simp
  | @cons provider item items given rest ih =>
    obtain ⟨first, others⟩ := List.forall_mem_cons.mp small
    rw [List.length_cons] at first others ⊢
    rw [size_placeAll_singleton] at ih
    rw [List.forall_mem_cons]
    constructor
    · obtain ⟨steps, few, value, -⟩ := @freeIdentity_steps provider item.position (by omega)
      simp only [freeEntry, value]
      omega
    · intro entry member
      have near := ih (fun other inside => by have := others other inside; omega) entry member
      omega

/-- Each column is given the least id that is open to it. -/
private theorem Given.isLeast (own : Given provider items given)
    (ascending : items.Pairwise (·.position < ·.position))
    (small : ∀ item ∈ items, item.position + provider.size + items.length ≤ 2 ^ 63) :
    ∀ entry ∈ given,
      IsLeast (openIds provider.ids given entry.position) entry.encoding.id.toInt := by
  induction own with
  | nil => simp
  | @cons provider item items given rest ih =>
    obtain ⟨later, ascending⟩ := List.pairwise_cons.mp ascending
    obtain ⟨first, others⟩ := List.forall_mem_cons.mp small
    rw [List.length_cons] at first others
    rw [size_placeAll_singleton] at ih
    have after := rest.le_position later
    rw [List.forall_mem_cons]
    constructor
    · apply freeEntry_isLeast (by omega)
      rw [List.forall_mem_cons]
      exact ⟨Nat.le_refl _, fun entry member => (after entry member).le⟩
    · intro entry member
      have least := ih ascending (fun other inside => by have := others other inside; omega)
        entry member
      rwa [openIds_placeAll (after entry member)] at least

end Given

private theorem Divides.sublist {items undeclared : List Placed} {entries : List DictionaryEntry}
    (divides : Divides items entries undeclared) : undeclared.Sublist items := by
  induction divides with
  | nil => exact .slnil
  | declared _ _ ih => exact ih.cons _
  | undeclared _ _ ih => exact ih.cons_cons _

private theorem Divides.synthesized {items undeclared : List Placed} {entries : List DictionaryEntry}
    (divides : Divides items entries undeclared) :
    ∀ entry ∈ entries, entry.synthesized = false := by
  induction divides with
  | nil => simp
  | declared _ _ ih => exact List.forall_mem_cons.mpr ⟨rfl, ih⟩
  | undeclared _ _ ih => exact ih

theorem pairwise_placed (columns : List Column) (fields : List Field) :
    (placed columns fields).Pairwise (·.position < ·.position) := by
  have positions : (placed columns fields).map (·.position) =
      List.range' 0 (columns.zip fields).length := by
    unfold placed
    rw [List.map_map, ← List.zipIdx_map_snd]
    rfl
  apply List.pairwise_map.mp
  rw [positions]
  exact List.pairwise_lt_range'

def madeUp (provider : DictionaryProvider) : List DictionaryEntry :=
  provider.entries.filter (·.synthesized)

/-- Which encodings the columns of a batch are given. There is one entry for each position, found by its
id and by its position alike. A declared encoding is kept, and any other column has the least id that is
open to it. -/
structure Assigned (columns : List Column) (fields : List Field) (provider : DictionaryProvider) :
    Prop where
  positions : (provider.entries.map (·.position)).Perm (List.range columns.length)
  found : ∀ entry ∈ provider.entries, provider.get? entry.encoding.id = some entry ∧
    provider.forColumn? entry.position = some entry ∧ columns[entry.position]? = some entry.column
  declared : ∀ (position : Nat) (field : Field) (encoding : DictionaryEncoding),
    fields[position]? = some field → declared field = .ok (some encoding) →
      ∃ column, provider.forColumn? position = some ⟨position, column, encoding, false⟩
  undeclared : ∀ (position : Nat) (field : Field),
    fields[position]? = some field → DictionaryEncoding.declared field = .ok none →
      ∃ column id, provider.forColumn? position = some ⟨position, column, ⟨id, false⟩, true⟩ ∧
        IsLeast (openIds (declaredIds fields) provider.madeUp position) id.toInt
  ascending : ∀ first ∈ provider.madeUp, ∀ second ∈ provider.madeUp,
    first.position < second.position → first.encoding.id.toInt < second.encoding.id.toInt
  near : ∀ entry ∈ provider.madeUp, (entry.position : Int) ≤ entry.encoding.id.toInt ∧
    entry.encoding.id.toInt ≤ entry.position + columns.length - 1

section Build

variable {columns : List Column} {fields : List Field} {provider : DictionaryProvider}

/-- The entry of a column, by what its field declares. -/
theorem Built.entry_at {entries : List DictionaryEntry}
    (built : Built columns fields provider entries) {position : Nat} {field : Field}
    (named : fields[position]? = some field) :
    ∃ column encoding synthesized,
      provider.forColumn? position = some ⟨position, column, encoding, synthesized⟩ ∧
        ⟨position, column, encoding, synthesized⟩ ∈ provider.entries ∧
        declared field = .ok (if synthesized then none else some encoding) := by
  have inside : position < entries.length := by
    rw [built.length]
    exact (List.getElem?_eq_some_iff.mp named).1
  have found := List.getElem?_eq_getElem inside
  obtain ⟨item, placed, describes⟩ := built.describes_at found
  obtain ⟨-, -, own⟩ := placed_getElem?.mp placed
  obtain rfl := Option.some.inj (own.symm.trans named)
  have here := built.position_eq found
  have member := built.perm.mem_iff.mpr (List.mem_of_getElem? found)
  generalize entries[position] = entry at *
  obtain ⟨_, column, encoding, synthesized⟩ := entry
  obtain rfl := here
  exact ⟨column, encoding, synthesized, (built.forColumn?_eq _).trans found, member,
    describes.declared⟩

namespace Claimed

variable {entries given : List DictionaryEntry} {undeclared : List Placed}
  (claimed : Claimed columns fields provider entries given undeclared)

include claimed

private theorem mem_madeUp {entry : DictionaryEntry} : entry ∈ provider.madeUp ↔ entry ∈ given := by
  unfold madeUp
  rw [List.mem_filter, claimed.perm.mem_iff, List.mem_append]
  constructor
  · intro member
    obtain ⟨declaring | given, marked⟩ := member
    · rw [claimed.divides.synthesized entry declaring] at marked
      cases marked
    · exact given
  · intro member
    exact ⟨.inr member, (claimed.given.made_up entry member).2⟩

private theorem mem_declaredIds {id : Int64} :
    id ∈ (empty.placeAll entries).ids ↔ id ∈ declaredIds fields := by
  rw [(ids_placeAll empty entries).mem_iff, entryIds_of_divides claimed.divides,
    placed_fields claimed.width]
  simp [empty, ids]

private theorem openIds_eq (position : Nat) :
    openIds (declaredIds fields) provider.madeUp position =
      openIds (empty.placeAll entries).ids given position := by
  ext id
  simp only [openIds, Set.mem_ofPred_eq, claimed.mem_declaredIds, claimed.mem_madeUp]

private theorem size_add : (empty.placeAll entries).size + undeclared.length = columns.length := by
  unfold size
  rw [(placeAll_perm empty entries).length_eq, claimed.width, ← length_placed claimed.width,
    ← claimed.divides.length_eq]
  simp [empty]

private theorem position_lt {item : Placed} (member : item ∈ undeclared) :
    item.position < columns.length := by
  obtain ⟨index, found⟩ := List.getElem?_of_mem (claimed.divides.sublist.subset member)
  obtain ⟨position, column, -⟩ := placed_getElem?.mp found
  rw [position]
  exact (List.getElem?_eq_some_iff.mp column).1

variable (few : columns.length ≤ 2 ^ 62)

include few

private theorem small : ∀ item ∈ undeclared,
    item.position + (empty.placeAll entries).size + undeclared.length ≤ 2 ^ 63 := by
  intro item member
  have inside := claimed.position_lt member
  have size := claimed.size_add
  omega

private theorem isLeast {entry : DictionaryEntry} (member : entry ∈ provider.madeUp) :
    IsLeast (openIds (declaredIds fields) provider.madeUp entry.position)
      entry.encoding.id.toInt := by
  have ascending := (pairwise_placed columns fields).sublist claimed.divides.sublist
  rw [claimed.openIds_eq]
  exact claimed.given.isLeast ascending (claimed.small few) entry (claimed.mem_madeUp.mp member)

private theorem near {entry : DictionaryEntry} (member : entry ∈ provider.madeUp) :
    entry.encoding.id.toInt ≤ entry.position + columns.length - 1 := by
  have near := claimed.given.near (claimed.small few) entry (claimed.mem_madeUp.mp member)
  have size := claimed.size_add
  omega

private theorem ascending {first second : DictionaryEntry} (member : first ∈ provider.madeUp)
    (member' : second ∈ provider.madeUp) (order : first.position < second.position) :
    first.encoding.id.toInt < second.encoding.id.toInt := by
  have least := claimed.isLeast few member
  have least' := claimed.isLeast few member'
  have below := least.2 (openIds_anti order.le least'.1)
  have other := least'.1.2.2 first member order
  omega

end Claimed

/-- The bound on the columns keeps the ids that are counted up within the signed words. -/
theorem assigned_of_build (few : columns.length ≤ 2 ^ 62)
    (ok : build columns fields = .ok provider) : Assigned columns fields provider := by
  obtain ⟨all, built⟩ := built_of_build ok
  obtain ⟨entries, given, undeclared, claimed⟩ := claimed_of_build ok
  refine ⟨built.positions_perm, ?_, ?_, ?_, ?_, ?_⟩
  · intro entry member
    obtain ⟨index, found⟩ := List.getElem?_of_mem (built.perm.mem_iff.mp member)
    refine ⟨get?_of_mem built.distinct member, ?_, built.column_of_mem member⟩
    rw [built.forColumn?_eq, built.position_eq found, found]
  · intro position field encoding named own
    obtain ⟨column, _, synthesized, found, -, declares⟩ := built.entry_at named
    cases synthesized with
    | true => cases own.symm.trans declares
    | false =>
      cases own.symm.trans declares
      exact ⟨column, found⟩
  · intro position field named own
    obtain ⟨column, encoding, synthesized, found, member, declares⟩ := built.entry_at named
    cases synthesized with
    | false => cases own.symm.trans declares
    | true =>
      have made : _ ∈ provider.madeUp := List.mem_filter.mpr ⟨member, rfl⟩
      obtain ⟨id, ordered⟩ := encoding
      obtain rfl : ordered = false := (claimed.given.made_up _ (claimed.mem_madeUp.mp made)).1
      exact ⟨column, id, found, claimed.isLeast few made⟩
  · intro first member second member' order
    exact claimed.ascending few member member' order
  · intro entry member
    exact ⟨(claimed.isLeast few member).1.1, claimed.near few member⟩

end Build

def crowded : TableSchema :=
  ⟨[⟨"a", .int64, none⟩, ⟨"b", .text, none⟩, ⟨"c", .blob, some ⟨1, true⟩⟩, ⟨"d", .float32, none⟩]⟩

def crowdedColumns : List Column :=
  crowded.columns.map fun spec => Column.nulls spec.name spec.type 2

/-- The second column is pushed on to the id after its own, and with it the fourth to its own. -/
theorem assigned_crowded :
    ∃ provider, crowdedColumns.length ≤ 2 ^ 62 ∧
      build crowdedColumns crowded.fields = .ok provider ∧
      Assigned crowdedColumns crowded.fields provider ∧
      provider.encodings = [(0, ⟨0, false⟩, true), (2, ⟨1, true⟩, false), (1, ⟨2, false⟩, true),
        (3, ⟨3, false⟩, true)] := by
  have few : crowdedColumns.length ≤ 2 ^ 62 := by decide
  have run : (build crowdedColumns crowded.fields).map encodings =
      .ok [(0, ⟨0, false⟩, true), (2, ⟨1, true⟩, false), (1, ⟨2, false⟩, true),
        (3, ⟨3, false⟩, true)] := by decide +kernel
  obtain ⟨provider, built, shown⟩ := map_eq_ok.mp run
  exact ⟨provider, few, built, assigned_of_build few built, shown⟩

end Columnar.DictionaryProvider
