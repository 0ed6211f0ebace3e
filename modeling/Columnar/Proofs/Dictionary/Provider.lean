import Columnar.Proofs.Dictionary.Encoding
import Columnar.Proofs.Dictionary.FreeId

/-!
Providers as they are built. No two entries of a provider hold one id (`insert_eq_ok`). The declared
ids are claimed exactly if they are pairwise different (`claimDeclared_eq_ok`), and claiming a free
one never fails (`exists_claimFree`); the entries of a provider come from these two passes and from
nowhere else (`Claimed`). So it has one entry for each column, at the column's position and with the
encoding that its field declares, if it declares any (`Describes`), and nothing else that the field
says counts (`build_congr`).
-/
namespace Columnar.DictionaryProvider

open DictionaryEncoding (declared)

private theorem place_perm (entry : DictionaryEntry) (entries : List DictionaryEntry) :
    (place entry entries).Perm (entry :: entries) := by
  induction entries with
  | nil => exact .refl _
  | cons head rest ih =>
    rw [place]
    split
    · exact .refl _
    · exact (ih.cons head).trans (.swap entry head rest)

private theorem get?_eq_none {provider : DictionaryProvider} {id : Int64} :
    provider.get? id = none ↔ id ∉ provider.ids := by
  simp [get?, ids, List.find?_eq_none]

theorem get?_of_mem {provider : DictionaryProvider} (distinct : provider.ids.Nodup)
    {entry : DictionaryEntry} (member : entry ∈ provider.entries) :
    provider.get? entry.encoding.id = some entry := by
  cases found : provider.get? entry.encoding.id with
  | none =>
    rw [get?_eq_none] at found
    exact absurd (List.mem_map_of_mem member) found
  | some holder =>
    have same : holder.encoding.id = entry.encoding.id := by simpa using List.find?_some found
    have held := List.mem_of_find?_eq_some found
    rw [List.inj_on_of_nodup_map distinct held member same]

def entryIds (entries : List DictionaryEntry) : List Int64 :=
  entries.map (·.encoding.id)

theorem insert_eq_ok {provider next : DictionaryProvider} {entry : DictionaryEntry} :
    provider.insert entry = .ok next ↔
      entry.encoding.id ∉ provider.ids ∧ next = ⟨place entry provider.entries⟩ := by
  rw [insert, ← get?_eq_none]
  split
  case h_1 held found => simp [found]
  case h_2 free => simp [free, eq_comm]

theorem insert_of_held {provider : DictionaryProvider} {entry holder : DictionaryEntry}
    (held : provider.get? entry.encoding.id = some holder) :
    provider.insert entry =
      .error (.dictionaryClash entry.encoding.id holder.position entry.position) := by
  rw [insert, held]

theorem insert_eq_error {provider : DictionaryProvider} {entry : DictionaryEntry}
    (held : entry.encoding.id ∈ provider.ids) :
    ∃ first, provider.insert entry =
      .error (.dictionaryClash entry.encoding.id first entry.position) := by
  cases found : provider.get? entry.encoding.id with
  | none => exact absurd held (get?_eq_none.mp found)
  | some holder => exact ⟨holder.position, insert_of_held found⟩

/-- How columns divide into entries of the encodings they declare and columns that declare none. -/
inductive Divides : List Placed → List DictionaryEntry → List Placed → Prop where
  | nil : Divides [] [] []
  | declared {item : Placed} {encoding : DictionaryEncoding} {items undeclared : List Placed}
      {entries : List DictionaryEntry} (own : declared item.field = .ok (some encoding))
      (rest : Divides items entries undeclared) :
      Divides (item :: items) (⟨item.position, item.column, encoding, false⟩ :: entries) undeclared
  | undeclared {item : Placed} {items undeclared : List Placed} {entries : List DictionaryEntry}
      (none : declared item.field = .ok none) (rest : Divides items entries undeclared) :
      Divides (item :: items) entries (item :: undeclared)

theorem exists_divides {items : List Placed}
    (readable : ∀ item ∈ items, ∃ encoding?, declared item.field = .ok encoding?) :
    ∃ entries undeclared, Divides items entries undeclared := by
  induction items with
  | nil => exact ⟨[], [], .nil⟩
  | cons item items ih =>
    obtain ⟨entries, undeclared, rest⟩ := ih fun other member => readable other (by simp [member])
    obtain ⟨encoding?, own⟩ := readable item (by simp)
    cases encoding? with
    | none => exact ⟨_, _, .undeclared own rest⟩
    | some encoding => exact ⟨_, _, .declared own rest⟩

theorem Divides.length_eq {items undeclared : List Placed} {entries : List DictionaryEntry}
    (divides : Divides items entries undeclared) :
    entries.length + undeclared.length = items.length := by
  induction divides with
  | nil => rfl
  | declared _ _ ih => simp only [List.length_cons, ← ih, Nat.add_right_comm]
  | undeclared _ _ ih => simp only [List.length_cons, ← ih, Nat.add_assoc]

def placeAll (provider : DictionaryProvider) (entries : List DictionaryEntry) : DictionaryProvider :=
  ⟨entries.foldl (fun placed entry => place entry placed) provider.entries⟩

theorem placeAll_perm (provider : DictionaryProvider) (entries : List DictionaryEntry) :
    (provider.placeAll entries).entries.Perm (entries ++ provider.entries) := by
  induction entries generalizing provider with
  | nil => exact .refl _
  | cons entry rest ih =>
    calc (provider.placeAll (entry :: rest)).entries
      _ = (placeAll ⟨place entry provider.entries⟩ rest).entries := rfl
      _ |>.Perm (rest ++ place entry provider.entries) := ih _
      _ |>.Perm (rest ++ entry :: provider.entries) := (place_perm _ _).append_left rest
      _ |>.Perm (entry :: rest ++ provider.entries) := List.perm_middle

theorem size_placeAll_singleton (provider : DictionaryProvider) (entry : DictionaryEntry) :
    (provider.placeAll [entry]).size = provider.size + 1 :=
  (placeAll_perm provider [entry]).length_eq.trans List.length_cons

theorem ids_placeAll (provider : DictionaryProvider) (entries : List DictionaryEntry) :
    (provider.placeAll entries).ids.Perm (entryIds entries ++ provider.ids) := by
  have same := (placeAll_perm provider entries).map (·.encoding.id)
  rwa [List.map_append] at same

theorem nodup_ids_placeAll {provider : DictionaryProvider} {entries : List DictionaryEntry} :
    (provider.placeAll entries).ids.Nodup ↔ (entryIds entries ++ provider.ids).Nodup :=
  (ids_placeAll provider entries).nodup_iff

theorem nodup_ids_empty : empty.ids.Nodup :=
  List.nodup_nil

private theorem insert_of_free {provider : DictionaryProvider} {entry : DictionaryEntry}
    (free : entry.encoding.id ∉ provider.ids) :
    provider.insert entry = .ok (provider.placeAll [entry]) :=
  insert_eq_ok.mpr ⟨free, rfl⟩

private theorem nodup_claims_cons {provider : DictionaryProvider} {entry : DictionaryEntry}
    {entries : List DictionaryEntry} :
    (entryIds (entry :: entries) ++ provider.ids).Nodup ↔
      (entryIds entries ++ (provider.placeAll [entry]).ids).Nodup := by
  have moved : (entryIds entries ++ (provider.placeAll [entry]).ids).Perm
      (entryIds (entry :: entries) ++ provider.ids) :=
    ((ids_placeAll provider [entry]).append_left _).trans List.perm_middle
  exact moved.nodup_iff.symm

private theorem free_of_nodup {provider : DictionaryProvider} {entry : DictionaryEntry}
    {entries : List DictionaryEntry}
    (distinct : (entryIds (entry :: entries) ++ provider.ids).Nodup) :
    entry.encoding.id ∉ provider.ids := by
  obtain ⟨fresh, -⟩ := List.nodup_cons.mp distinct
  exact fun held => fresh (List.mem_append_right _ held)

section Declared

variable {provider : DictionaryProvider} {items undeclared : List Placed}
  {entries : List DictionaryEntry}

/-- Once some columns have claimed their ids, the claims of the rest go on from there. -/
theorem claimDeclared_append (rest : List Placed) (divides : Divides items entries undeclared)
    (distinct : (entryIds entries ++ provider.ids).Nodup) :
    claimDeclared provider (items ++ rest) =
      (claimDeclared (provider.placeAll entries) rest).map fun (next, more) =>
        (next, undeclared ++ more) := by
  induction divides generalizing provider with
  | nil => exact (congrFun Except.map_id _).symm
  | declared own _ ih =>
    rw [List.cons_append, claimDeclared, own, ok_bind]
    dsimp only
    rw [insert_of_free (free_of_nodup distinct), ok_bind]
    exact ih (nodup_claims_cons.mp distinct)
  | undeclared none _ ih =>
    rw [List.cons_append, claimDeclared, none, ok_bind]
    dsimp only
    rw [ih distinct]
    cases claimDeclared (provider.placeAll _) rest <;> rfl

private theorem claimDeclared_of_nodup (divides : Divides items entries undeclared)
    (distinct : (entryIds entries ++ provider.ids).Nodup) :
    claimDeclared provider items = .ok (provider.placeAll entries, undeclared) := by
  have claimed := claimDeclared_append [] divides distinct
  simpa [claimDeclared, Except.map] using claimed

private theorem claimDeclared_of_clash (divides : Divides items entries undeclared)
    (held : provider.ids.Nodup) (clash : ¬(entryIds entries ++ provider.ids).Nodup) :
    ∃ id first second, claimDeclared provider items = .error (.dictionaryClash id first second) := by
  induction divides generalizing provider with
  | nil => exact absurd held clash
  | @declared item encoding _ _ _ own rest ih =>
    rw [claimDeclared, own, ok_bind]
    dsimp only
    by_cases taken : encoding.id ∈ provider.ids
    · obtain ⟨first, failed⟩ :=
        @insert_eq_error _ ⟨item.position, item.column, encoding, false⟩ taken
      exact ⟨encoding.id, first, item.position, by rw [failed]; rfl⟩
    · rw [insert_of_free taken, ok_bind]
      refine ih ?_ (fun distinct => clash (nodup_claims_cons.mpr distinct))
      exact nodup_ids_placeAll.mpr (List.nodup_cons.mpr ⟨taken, held⟩)
  | undeclared none rest ih =>
    rw [claimDeclared, none, ok_bind]
    dsimp only
    obtain ⟨id, first, second, failed⟩ := ih held clash
    exact ⟨id, first, second, by rw [failed]; rfl⟩

private theorem readable_of_claimDeclared {outcome : DictionaryProvider × List Placed}
    (claimed : claimDeclared provider items = .ok outcome) :
    ∀ item ∈ items, ∃ encoding?, declared item.field = .ok encoding? := by
  induction items generalizing provider outcome with
  | nil => simp
  | cons item items ih =>
    obtain ⟨encoding?, own, claimed⟩ := bind_eq_ok.mp claimed
    refine List.forall_mem_cons.mpr ⟨⟨encoding?, own⟩, ?_⟩
    cases encoding? with
    | none =>
      obtain ⟨_, later, -⟩ := bind_eq_ok.mp claimed
      exact ih later
    | some encoding =>
      obtain ⟨_, -, later⟩ := bind_eq_ok.mp claimed
      exact ih later

theorem claimDeclared_eq_ok {next : DictionaryProvider} (held : provider.ids.Nodup) :
    claimDeclared provider items = .ok (next, undeclared) ↔
      ∃ entries, Divides items entries undeclared ∧ (entryIds entries ++ provider.ids).Nodup ∧
        next = provider.placeAll entries := by
  constructor
  · intro claimed
    obtain ⟨entries, undeclared', divides⟩ := exists_divides (readable_of_claimDeclared claimed)
    by_cases distinct : (entryIds entries ++ provider.ids).Nodup
    · cases claimed.symm.trans (claimDeclared_of_nodup divides distinct)
      exact ⟨entries, divides, distinct, rfl⟩
    · obtain ⟨_, _, _, failed⟩ := claimDeclared_of_clash divides held distinct
      cases claimed.symm.trans failed
  · rintro ⟨entries, divides, distinct, rfl⟩
    exact claimDeclared_of_nodup divides distinct

end Declared

theorem freeIdentity_not_mem {provider : DictionaryProvider} (few : provider.size < 2 ^ 64)
    (position : Nat) : (provider.freeIdentity position).id ∉ provider.ids := by
  have count : provider.ids.length = provider.size := List.length_map _
  rw [freeIdentity, ← count]
  exact freeIdFrom_not_mem (by omega) _

def freeEntry (provider : DictionaryProvider) (item : Placed) : DictionaryEntry :=
  ⟨item.position, item.column, provider.freeIdentity item.position, true⟩

/-- How columns without a declaration are given entries, one after the other. -/
inductive Given : DictionaryProvider → List Placed → List DictionaryEntry → Prop where
  | nil {provider : DictionaryProvider} : Given provider [] []
  | cons {provider : DictionaryProvider} {item : Placed} {items : List Placed}
    {given : List DictionaryEntry}
    (rest : Given (provider.placeAll [provider.freeEntry item]) items given) :
    Given provider (item :: items) (provider.freeEntry item :: given)

private theorem given_of_claimFree {provider next : DictionaryProvider} {items : List Placed}
    (claimed : claimFree provider items = .ok next) (held : provider.ids.Nodup) :
    ∃ given, Given provider items given ∧ (entryIds given ++ provider.ids).Nodup ∧
      next = provider.placeAll given := by
  induction items generalizing provider with
  | nil =>
    obtain rfl := Except.ok.inj claimed
    exact ⟨[], .nil, held, rfl⟩
  | cons item items ih =>
    obtain ⟨more, inserted, claimed⟩ := bind_eq_ok.mp claimed
    obtain ⟨free, rfl⟩ := insert_eq_ok.mp inserted
    have distinct := (@nodup_ids_placeAll provider [_]).mpr (List.nodup_cons.mpr ⟨free, held⟩)
    obtain ⟨given, rest, distinct, rfl⟩ := ih claimed distinct
    exact ⟨_, .cons rest, nodup_claims_cons.mpr distinct, rfl⟩

/-- What makes an entry one that a column without a declaration is given. -/
structure Synthesized (item : Placed) (entry : DictionaryEntry) : Prop where
  position : entry.position = item.position
  column : entry.column = item.column
  unordered : entry.encoding.ordered = false
  synthesized : entry.synthesized = true

private theorem Given.synthesized {provider : DictionaryProvider} {items : List Placed}
    {given : List DictionaryEntry} (own : Given provider items given) :
    List.Forall₂ Synthesized items given := by
  induction own with
  | nil => exact .nil
  | cons _ ih => exact .cons ⟨rfl, rfl, rfl, rfl⟩ ih

private theorem exists_claimFree {provider : DictionaryProvider} {items : List Placed}
    (few : provider.size + items.length < 2 ^ 64) : ∃ next, claimFree provider items = .ok next := by
  induction items generalizing provider with
  | nil => exact ⟨provider, rfl⟩
  | cons item items ih =>
    rw [List.length_cons] at few
    have free : (provider.freeEntry item).encoding.id ∉ provider.ids :=
      freeIdentity_not_mem (by omega) item.position
    obtain ⟨next, claimed⟩ := @ih (provider.placeAll [provider.freeEntry item])
      (by rw [size_placeAll_singleton]; omega)
    refine ⟨next, ?_⟩
    unfold freeEntry at free claimed
    rw [claimFree, insert_of_free free]
    exact claimed

/-- What makes an entry the one of a column: the position and the column, and if it is not
synthesized, the encoding that the field declares. -/
structure Describes (item : Placed) (entry : DictionaryEntry) : Prop where
  position : entry.position = item.position
  column : entry.column = item.column
  declared : declared item.field = .ok (if entry.synthesized then none else some entry.encoding)

private theorem exists_describes {items undeclared : List Placed} {entries given : List DictionaryEntry}
    (divides : Divides items entries undeclared)
    (synthesized : List.Forall₂ Synthesized undeclared given) :
    ∃ all, List.Forall₂ Describes items all ∧ all.Perm (entries ++ given) := by
  induction divides generalizing given with
  | nil =>
    cases synthesized
    exact ⟨[], .nil, .refl _⟩
  | @declared item encoding _ _ _ own rest ih =>
    obtain ⟨all, describes, perm⟩ := ih synthesized
    exact ⟨⟨item.position, item.column, encoding, false⟩ :: all, .cons ⟨rfl, rfl, own⟩ describes,
      perm.cons _⟩
  | undeclared none rest ih =>
    obtain ⟨entry, given, own, later, rfl⟩ := List.forall₂_cons_left_iff.mp synthesized
    obtain ⟨all, describes, perm⟩ := ih later
    refine ⟨entry :: all, .cons ⟨own.position, own.column, ?_⟩ describes, ?_⟩
    · rw [none, own.synthesized]
      rfl
    · exact (perm.cons entry).trans List.perm_middle.symm

section Build

variable {columns : List Column} {fields : List Field}

def declaredId? (field : Field) : Option Int64 :=
  match declared field with
  | .ok (some encoding) => some encoding.id
  | _ => none

/-- The ids that fields declare. -/
def declaredIds (fields : List Field) : List Int64 :=
  fields.filterMap declaredId?

theorem entryIds_of_divides {items undeclared : List Placed} {entries : List DictionaryEntry}
    (divides : Divides items entries undeclared) :
    entryIds entries = declaredIds (items.map (·.field)) := by
  induction divides with
  | nil => rfl
  | declared own rest ih =>
    rw [declaredIds, List.map_cons, List.filterMap_cons, declaredId?, own]
    exact congrArg _ ih
  | undeclared none rest ih =>
    rw [ih, declaredIds, declaredIds, List.map_cons, List.filterMap_cons, declaredId?, none]

theorem placed_getElem? {index : Nat} {item : Placed} :
    (placed columns fields)[index]? = some item ↔
      item.position = index ∧ columns[index]? = some item.column ∧
        fields[index]? = some item.field := by
  obtain ⟨position, column, field⟩ := item
  have pair := @List.getElem?_zip_eq_some _ _ columns fields (column, field) index
  rw [← pair, placed, List.getElem?_map, List.getElem?_zipIdx]
  cases (columns.zip fields)[index]? with
  | none => simp
  | some found =>
    obtain ⟨column', field'⟩ := found
    simp only [Option.map_some, Option.some.injEq, Placed.mk.injEq, Nat.zero_add, Prod.mk.injEq,
      eq_comm]

variable (same : columns.length = fields.length)
include same

theorem placed_fields : (placed columns fields).map (·.field) = fields := by
  have names : (placed columns fields).map (·.field) =
      ((columns.zip fields).zipIdx.map Prod.fst).map Prod.snd := by
    simp only [placed, List.map_map, Function.comp_def]
  rw [names, List.zipIdx_map_fst, List.map_snd_zip (Nat.le_of_eq same.symm)]

theorem length_placed : (placed columns fields).length = fields.length := by
  simp [placed, same]

omit same in
theorem build_of_length (same : columns.length = fields.length) :
    build columns fields = (do
      let (provider, undeclared) ← claimDeclared empty (placed columns fields)
      claimFree provider undeclared) := by
  rw [build, if_neg (not_not_intro same)]

/-- What a provider built for columns with fields is: entries that describe the columns one by one,
in the order of their ids, no two of which are one. -/
structure Built (columns : List Column) (fields : List Field) (provider : DictionaryProvider)
    (entries : List DictionaryEntry) : Prop where
  width : columns.length = fields.length
  distinct : provider.ids.Nodup
  perm : provider.entries.Perm entries
  describes : List.Forall₂ Describes (placed columns fields) entries

/-- Where the entries of a provider come from: some are declared, and the others given to the columns
that are left. -/
structure Claimed (columns : List Column) (fields : List Field) (provider : DictionaryProvider)
    (entries given : List DictionaryEntry) (undeclared : List Placed) : Prop where
  width : columns.length = fields.length
  divides : Divides (placed columns fields) entries undeclared
  distinct : provider.ids.Nodup
  provider_eq : provider = (empty.placeAll entries).placeAll given
  given : Given (empty.placeAll entries) undeclared given

omit same in
theorem claimed_of_build {provider : DictionaryProvider} (ok : build columns fields = .ok provider) :
    ∃ entries given undeclared, Claimed columns fields provider entries given undeclared := by
  by_cases same : columns.length = fields.length
  · rw [build_of_length same] at ok
    obtain ⟨⟨declaring, undeclared⟩, claimed, ok⟩ := bind_eq_ok.mp ok
    obtain ⟨entries, divides, distinct, rfl⟩ := (claimDeclared_eq_ok nodup_ids_empty).mp claimed
    obtain ⟨given, own, distinct, rfl⟩ := given_of_claimFree ok (nodup_ids_placeAll.mpr distinct)
    exact ⟨entries, given, undeclared, same, divides, nodup_ids_placeAll.mpr distinct, rfl, own⟩
  · rw [build, if_pos same] at ok
    cases ok

omit same in
theorem Claimed.perm {provider : DictionaryProvider} {entries given : List DictionaryEntry}
    {undeclared : List Placed} (claimed : Claimed columns fields provider entries given undeclared) :
    provider.entries.Perm (entries ++ given) := by
  rw [claimed.provider_eq]
  calc ((empty.placeAll entries).placeAll given).entries
    _ |>.Perm (given ++ (empty.placeAll entries).entries) := placeAll_perm _ _
    _ |>.Perm (given ++ (entries ++ [])) := (placeAll_perm _ _).append_left _
    _ |>.Perm (entries ++ given) := by simpa using List.perm_append_comm

omit same in
theorem built_of_build {provider : DictionaryProvider}
    (ok : build columns fields = .ok provider) : ∃ entries, Built columns fields provider entries := by
  obtain ⟨entries, given, undeclared, claimed⟩ := claimed_of_build ok
  obtain ⟨all, describes, perm⟩ := exists_describes claimed.divides claimed.given.synthesized
  exact ⟨all, claimed.width, claimed.distinct, claimed.perm.trans perm.symm, describes⟩

private theorem exists_divides_placed
    (readable : ∀ field ∈ fields, ∃ encoding?, declared field = .ok encoding?) :
    ∃ entries undeclared, Divides (placed columns fields) entries undeclared ∧
      entryIds entries ++ empty.ids = declaredIds fields := by
  obtain ⟨entries, undeclared, divides⟩ := @exists_divides (placed columns fields)
    fun item member => readable item.field (by
      rw [← placed_fields same]
      exact List.mem_map_of_mem member)
  have ids := entryIds_of_divides divides
  rw [placed_fields same] at ids
  exact ⟨entries, undeclared, divides, (List.append_nil _).trans ids⟩

theorem exists_build (readable : ∀ field ∈ fields, ∃ encoding?, declared field = .ok encoding?)
    (distinct : (declaredIds fields).Nodup) (few : fields.length < 2 ^ 64) :
    ∃ provider, build columns fields = .ok provider := by
  obtain ⟨entries, undeclared, divides, ids⟩ := exists_divides_placed same readable
  have claims := claimDeclared_of_nodup divides (by rwa [ids])
  have count := divides.length_eq
  have size : (empty.placeAll entries).size = entries.length :=
    (placeAll_perm empty entries).length_eq.trans (by simp [empty])
  obtain ⟨next, claimed⟩ := @exists_claimFree (empty.placeAll entries) undeclared (by
    rw [size, count, length_placed same]
    exact few)
  exact ⟨next, by rw [build_of_length same, claims]; exact claimed⟩

theorem build_of_clash (readable : ∀ field ∈ fields, ∃ encoding?, declared field = .ok encoding?)
    (clash : ¬(declaredIds fields).Nodup) :
    ∃ id first second, build columns fields = .error (.dictionaryClash id first second) := by
  obtain ⟨entries, undeclared, divides, ids⟩ := exists_divides_placed same readable
  obtain ⟨id, first, second, failed⟩ :=
    claimDeclared_of_clash divides nodup_ids_empty (by rwa [ids])
  exact ⟨id, first, second, by rw [build_of_length same, failed]; rfl⟩

end Build

section Alike

/-- Whether two columns are one at one position and their fields declare the same, whatever else the
fields say. -/
structure Alike (first second : Placed) : Prop where
  position : first.position = second.position
  column : first.column = second.column
  declared : declared first.field = declared second.field

private theorem claimFree_congr {items items' : List Placed} (alike : List.Forall₂ Alike items items')
    (provider : DictionaryProvider) : claimFree provider items = claimFree provider items' := by
  induction alike generalizing provider with
  | nil => rfl
  | cons own _ ih => simp only [claimFree, own.position, own.column, ih]

private theorem claimDeclared_congr {β : Type} {items items' : List Placed}
    (alike : List.Forall₂ Alike items items')
    {next next' : DictionaryProvider × List Placed → Except Malformation β}
    (same : ∀ provider {undeclared undeclared'}, List.Forall₂ Alike undeclared undeclared' →
      next (provider, undeclared) = next' (provider, undeclared')) (provider : DictionaryProvider) :
    (claimDeclared provider items >>= next) = (claimDeclared provider items' >>= next') := by
  induction alike generalizing provider next next' with
  | nil => exact same provider .nil
  | @cons item item' items items' own _ ih =>
    rw [claimDeclared, claimDeclared, ← own.position, ← own.column, ← own.declared]
    cases declared item.field with
    | error cause => rfl
    | ok encoding? =>
      rw [ok_bind, ok_bind]
      cases encoding? with
      | some encoding =>
        dsimp only
        cases insert provider ⟨item.position, item.column, encoding, false⟩ with
        | error cause => rfl
        | ok provider => exact ih same provider
      | none =>
        dsimp only
        -- Whatever comes after takes this column together with those left over of the rest.
        rw [bind_assoc, bind_assoc]
        exact @ih (fun found => next (found.1, item :: found.2))
          (fun found => next' (found.1, item' :: found.2))
          (fun provider _ _ rest => same provider (.cons own rest)) provider

private theorem placed_congr {columns : List Column} {fields fields' : List Field}
    (same : fields.map declared = fields'.map declared) :
    List.Forall₂ Alike (placed columns fields) (placed columns fields') := by
  have count : fields.length = fields'.length := by simpa using congrArg List.length same
  refine List.forall₂_iff_get.mpr ⟨by simp [placed, count], fun index left right => ?_⟩
  obtain ⟨position, column, own⟩ := placed_getElem?.mp (List.getElem?_eq_getElem left)
  obtain ⟨position', column', own'⟩ := placed_getElem?.mp (List.getElem?_eq_getElem right)
  have declares := congrArg (·[index]?) same
  simp only [List.getElem?_map, own, own', Option.map_some, Option.some.injEq] at declares
  exact ⟨position.trans position'.symm, Option.some.inj (column.symm.trans column'), declares⟩

/-- Of the fields nothing counts but what they declare. -/
theorem build_congr {columns : List Column} {fields fields' : List Field}
    (same : fields.map declared = fields'.map declared) :
    build columns fields = build columns fields' := by
  have count : fields.length = fields'.length := by simpa using congrArg List.length same
  rw [build, build, count]
  split
  · rfl
  · exact claimDeclared_congr (placed_congr same) (fun provider _ _ => (claimFree_congr · provider)) empty

end Alike

namespace Built

variable {columns : List Column} {fields : List Field} {provider : DictionaryProvider}
  {entries : List DictionaryEntry} (built : Built columns fields provider entries)
include built

theorem length : entries.length = fields.length :=
  built.describes.length_eq.symm.trans (length_placed built.width)

theorem describes_at {index : Nat} {entry : DictionaryEntry} (found : entries[index]? = some entry) :
    ∃ item, (placed columns fields)[index]? = some item ∧ Describes item entry := by
  obtain ⟨inside, rfl⟩ := List.getElem?_eq_some_iff.mp found
  have inside' : index < (placed columns fields).length := built.describes.length_eq ▸ inside
  exact ⟨_, List.getElem?_eq_getElem inside', (List.forall₂_iff_get.mp built.describes).2 _ _ _⟩

theorem position_eq {index : Nat} {entry : DictionaryEntry} (found : entries[index]? = some entry) :
    entry.position = index := by
  obtain ⟨item, at', describes⟩ := built.describes_at found
  rw [describes.position, (placed_getElem?.mp at').1]

theorem forColumn?_eq (index : Nat) : provider.forColumn? index = entries[index]? := by
  have member {entry : DictionaryEntry} : entry ∈ provider.entries ↔ entry ∈ entries :=
    built.perm.mem_iff
  cases found : provider.forColumn? index with
  | none =>
    rw [eq_comm, List.getElem?_eq_none_iff, ← Nat.not_lt]
    intro inside
    have other := List.find?_eq_none.mp found _ (member.mpr (List.getElem_mem inside))
    exact other (by simpa using built.position_eq (List.getElem?_eq_getElem inside))
  | some entry =>
    have here : entry.position = index := by simpa using List.find?_some found
    obtain ⟨at', found'⟩ := List.getElem?_of_mem (member.mp (List.mem_of_find?_eq_some found))
    rw [← found', ← built.position_eq found', here]

theorem annotateFields_eq :
    provider.annotateFields fields =
      List.zipWith (fun field entry => entry.encoding.annotate field entry.synthesized)
        fields entries := by
  refine List.ext_getElem? fun index => ?_
  rw [annotateFields, List.getElem?_map, List.getElem?_zipIdx, List.getElem?_zipWith]
  cases found : fields[index]? with
  | none => rfl
  | some field =>
    have inside : index < entries.length := by
      rw [built.length]
      exact (List.getElem?_eq_some_iff.mp found).1
    simp [built.forColumn?_eq, inside]

theorem positions_perm : (provider.entries.map (·.position)).Perm (List.range columns.length) := by
  have positions : entries.map (·.position) = List.range columns.length := by
    refine List.ext_getElem (by simp [built.length, built.width]) fun index left right => ?_
    rw [List.length_map] at left
    simpa using built.position_eq (List.getElem?_eq_getElem left)
  rw [← positions]
  exact built.perm.map _

theorem column_of_mem {entry : DictionaryEntry} (member : entry ∈ provider.entries) :
    columns[entry.position]? = some entry.column := by
  obtain ⟨index, found⟩ := List.getElem?_of_mem (built.perm.mem_iff.mp member)
  obtain ⟨item, placed, describes⟩ := built.describes_at found
  obtain ⟨position, column, -⟩ := placed_getElem?.mp placed
  rw [describes.position, position, column, describes.column]

end Built

end Columnar.DictionaryProvider
