import Columnar.Proofs.Dictionary.Provider

/-!
Annotated fields. An annotation replaces the encoding that a field has and leaves the rest of the field as
it is (`annotate_replaces`). The fields that a provider has annotated say the same about encodings as those
it was built for, so the same provider is built of them (`build_annotateFields`): an encoding that was
declared is declared again, and one that was made up is marked so and made up again. The columns count for
nothing in this but their number (`encodings_eq_of_build`).
-/
namespace Columnar

namespace DictionaryEncoding

theorem record_record (first second : DictionaryEncoding) (marked marked' : Bool)
    (metadata : Metadata) :
    second.record marked' (first.record marked metadata) = second.record marked' metadata := by
  apply Metadata.ext_get?
  intro key
  by_cases own : key ∈ keys
  · simp only [keys, List.mem_cons, List.not_mem_nil, or_false] at own
    rw [get?_record second, get?_record second]
    rcases own with rfl | rfl | rfl <;> simp [idKey, orderedKey, synthesizedKey]
  · rw [get?_record_of_ne _ _ _ own, get?_record_of_ne _ _ _ own, get?_record_of_ne _ _ _ own]

@[simp] theorem annotate_annotate (first second : DictionaryEncoding) (marked marked' : Bool)
    (field : Field) :
    second.annotate (first.annotate field marked) marked' = second.annotate field marked' := by
  unfold annotate
  rw [record_record]

/-- What is recorded has nothing to do with an entry of another key that goes. -/
theorem record_erase (encoding : DictionaryEncoding) (marked : Bool) (metadata : Metadata)
    {key : String} (other : key ∉ keys) :
    encoding.record marked (metadata.erase key) = (encoding.record marked metadata).erase key := by
  apply Metadata.ext_get?
  intro asked
  rw [Metadata.get?_erase]
  by_cases gone : asked = key
  · subst gone
    rw [if_pos rfl, get?_record_of_ne _ _ _ other, Metadata.get?_erase, if_pos rfl]
  · rw [if_neg gone, get?_record, get?_record, Metadata.get?_erase, if_neg gone]

private theorem annotate_withoutHint (encoding : DictionaryEncoding) (marked : Bool) (field : Field) :
    encoding.annotate field.withoutHint marked = (encoding.annotate field marked).withoutHint := by
  unfold annotate Field.withoutHint
  rw [record_erase encoding marked field.metadata (by decide : TypeHint.key ∉ keys)]

end DictionaryEncoding

/-- Whether a field is another but for the dictionary keys of its metadata. -/
structure Field.Marks (field marked : Field) : Prop where
  name : marked.name = field.name
  dataType : marked.dataType = field.dataType
  nullable : marked.nullable = field.nullable
  dictionaryId : marked.dictionaryId = field.dictionaryId
  dictionaryOrdered : marked.dictionaryOrdered = field.dictionaryOrdered
  metadata : ∀ key ∉ DictionaryEncoding.keys, marked.metadata.get? key = field.metadata.get? key

theorem DictionaryEncoding.marks_annotate (encoding : DictionaryEncoding) (field : Field)
    (synthesized : Bool) : field.Marks (encoding.annotate field synthesized) := by
  refine ⟨rfl, rfl, rfl, rfl, rfl, ?_⟩
  intro key other
  exact encoding.get?_record_of_ne synthesized field.metadata other

/-- An annotated field declares the encoding it was given, unless it was marked as synthesized, and
nothing is left of an encoding that it had before. All else about the field stays as it was, so it has the
same column type, and whether its hint goes before or after makes no difference. -/
theorem DictionaryEncoding.annotate_replaces (encoding : DictionaryEncoding) (field : Field) :
    declared (encoding.annotate field false) = .ok (some encoding) ∧
    declared (encoding.annotate field true) = .ok none ∧
    ∀ marked,
      (∀ (earlier : DictionaryEncoding) (marked' : Bool),
        encoding.annotate (earlier.annotate field marked') marked = encoding.annotate field marked) ∧
      field.Marks (encoding.annotate field marked) ∧
      (encoding.annotate field marked).columnType = field.columnType ∧
      (encoding.annotate field marked).withoutHint = encoding.annotate field.withoutHint marked := by
  refine ⟨declared_annotate encoding false field, declared_annotate encoding true field, ?_⟩
  intro marked
  refine ⟨fun earlier marked' => annotate_annotate earlier encoding marked' marked field,
    encoding.marks_annotate field marked, columnType_annotate encoding marked field, ?_⟩
  exact (encoding.annotate_withoutHint marked field).symm

namespace DictionaryProvider

open DictionaryEncoding (declared)

section Annotation

variable (provider : DictionaryProvider)

/-- The field at a position with the encoding of its column. -/
def mark (position : Nat) (field : Field) : Field :=
  match provider.forColumn? position with
  | some entry => entry.encoding.annotate field entry.synthesized
  | none => field

theorem annotateFields_getElem? (fields : List Field) (index : Nat) :
    (provider.annotateFields fields)[index]? = fields[index]?.map (provider.mark index) := by
  unfold annotateFields
  rw [List.getElem?_map, List.getElem?_zipIdx, Nat.zero_add]
  cases fields[index]? <;> rfl

@[simp] theorem length_annotateFields (fields : List Field) :
    (provider.annotateFields fields).length = fields.length := by
  unfold annotateFields
  rw [List.length_map, List.length_zipIdx]

private theorem mark_mark (position : Nat) (field : Field) :
    provider.mark position (provider.mark position field) = provider.mark position field := by
  unfold mark
  cases provider.forColumn? position with
  | none => rfl
  | some entry => exact entry.encoding.annotate_annotate _ _ _ _

/-- Annotating a second time changes no field. -/
theorem annotateFields_annotateFields (fields : List Field) :
    provider.annotateFields (provider.annotateFields fields) = provider.annotateFields fields := by
  apply List.ext_getElem?
  intro index
  rw [annotateFields_getElem?, annotateFields_getElem?, Option.map_map]
  congr 1
  funext field
  exact provider.mark_mark index field

theorem marks_annotateFields (fields : List Field) :
    List.Forall₂ Field.Marks fields (provider.annotateFields fields) := by
  rw [List.forall₂_iff_get]
  refine ⟨(provider.length_annotateFields fields).symm, ?_⟩
  intro index left right
  have marked := provider.annotateFields_getElem? fields index
  rw [List.getElem?_eq_getElem right, List.getElem?_eq_getElem left] at marked
  rw [List.get_eq_getElem, List.get_eq_getElem, Option.some.inj marked, mark]
  cases provider.forColumn? index with
  | none => exact ⟨rfl, rfl, rfl, rfl, rfl, fun _ _ => rfl⟩
  | some entry => exact entry.encoding.marks_annotate _ _

end Annotation

section Build

variable {columns : List Column} {fields : List Field} {provider : DictionaryProvider}

/-- The fields that a provider has annotated declare what they declared before. -/
theorem declared_annotateFields (ok : build columns fields = .ok provider) :
    (provider.annotateFields fields).map declared = fields.map declared := by
  obtain ⟨entries, built⟩ := built_of_build ok
  apply List.ext_getElem?
  intro index
  rw [List.getElem?_map, List.getElem?_map, annotateFields_getElem?]
  cases own : fields[index]? with
  | none => rfl
  | some field =>
    have inside : index < entries.length := by
      rw [built.length]
      exact (List.getElem?_eq_some_iff.mp own).1
    have found := List.getElem?_eq_getElem inside
    obtain ⟨item, listed, describes⟩ := built.describes_at found
    obtain rfl := Option.some.inj ((placed_getElem?.mp listed).2.2.symm.trans own)
    simp only [Option.map_some, mark, built.forColumn?_eq, found]
    rw [DictionaryEncoding.declared_annotate, describes.declared]

/-- Of the fields that a provider has annotated the same provider is built. -/
theorem build_annotateFields (ok : build columns fields = .ok provider) :
    build columns (provider.annotateFields fields) = .ok provider := by
  rw [build_congr (declared_annotateFields ok), ok]

end Build

/-- What a provider says of each column, in the order of its ids: where the column is, how it is encoded
and whether that was made up. -/
def encodings (provider : DictionaryProvider) : List (Nat × DictionaryEncoding × Bool) :=
  provider.entries.map fun entry => (entry.position, entry.encoding, entry.synthesized)

section Columns

variable (f : Column → Column)

def recolumn (entry : DictionaryEntry) : DictionaryEntry :=
  { entry with column := f entry.column }

def mapColumns (provider : DictionaryProvider) : DictionaryProvider :=
  ⟨provider.entries.map (recolumn f)⟩

def Placed.recolumn (item : Placed) : Placed :=
  { item with column := f item.column }

@[simp] theorem encodings_mapColumns (provider : DictionaryProvider) :
    (provider.mapColumns f).encodings = provider.encodings := by
  unfold encodings mapColumns
  rw [List.map_map]
  rfl

@[simp] theorem ids_mapColumns (provider : DictionaryProvider) :
    (provider.mapColumns f).ids = provider.ids := by
  unfold ids mapColumns
  rw [List.map_map]
  rfl

private theorem place_recolumn (entry : DictionaryEntry) (entries : List DictionaryEntry) :
    place (recolumn f entry) (entries.map (recolumn f)) =
      (place entry entries).map (recolumn f) := by
  induction entries with
  | nil => rfl
  | cons head rest ih =>
    rw [List.map_cons, place, place, ih]
    by_cases before : entry.encoding.id < head.encoding.id
    · have before' : (recolumn f entry).encoding.id < (recolumn f head).encoding.id := before
      rw [if_pos before, if_pos before']
      rfl
    · have before' : ¬(recolumn f entry).encoding.id < (recolumn f head).encoding.id := before
      rw [if_neg before, if_neg before']
      rfl

private theorem insert_mapColumns (provider : DictionaryProvider) (entry : DictionaryEntry) :
    (provider.mapColumns f).insert (recolumn f entry) =
      (provider.insert entry).map (mapColumns f) := by
  have held : (provider.mapColumns f).get? entry.encoding.id =
      (provider.get? entry.encoding.id).map (recolumn f) := by
    unfold get? mapColumns
    rw [List.find?_map]
    rfl
  have id : (recolumn f entry).encoding.id = entry.encoding.id := rfl
  rw [insert, insert, id, held]
  cases provider.get? entry.encoding.id with
  | some holder => rfl
  | none =>
    dsimp only [Option.map_none, Except.map, mapColumns]
    rw [place_recolumn]

private theorem freeIdentity_mapColumns (provider : DictionaryProvider) (position : Nat) :
    (provider.mapColumns f).freeIdentity position = provider.freeIdentity position := by
  have size : (provider.mapColumns f).size = provider.size := List.length_map _
  unfold freeIdentity
  rw [ids_mapColumns, size]

private theorem claimFree_mapColumns (provider : DictionaryProvider) (items : List Placed) :
    claimFree (provider.mapColumns f) (items.map (Placed.recolumn f)) =
      (claimFree provider items).map (mapColumns f) := by
  induction items generalizing provider with
  | nil => rfl
  | cons item rest ih =>
    have inserted := insert_mapColumns f provider
      ⟨item.position, item.column, provider.freeIdentity item.position, true⟩
    rw [List.map_cons, claimFree, claimFree]
    dsimp only [recolumn, Placed.recolumn] at inserted ⊢
    rw [freeIdentity_mapColumns, inserted]
    cases provider.insert
        ⟨item.position, item.column, provider.freeIdentity item.position, true⟩ with
    | error cause => rfl
    | ok next => exact ih next

private theorem claimDeclared_mapColumns (provider : DictionaryProvider) (items : List Placed) :
    claimDeclared (provider.mapColumns f) (items.map (Placed.recolumn f)) =
      (claimDeclared provider items).map
        (Prod.map (mapColumns f) (List.map (Placed.recolumn f))) := by
  induction items generalizing provider with
  | nil => rfl
  | cons item rest ih =>
    rw [List.map_cons, claimDeclared, claimDeclared]
    have field : (Placed.recolumn f item).field = item.field := rfl
    rw [field]
    cases declared item.field with
    | error cause => rfl
    | ok encoding? =>
      rw [ok_bind, ok_bind]
      cases encoding? with
      | none =>
        dsimp only
        rw [ih]
        cases claimDeclared provider rest <;> rfl
      | some encoding =>
        have inserted := insert_mapColumns f provider ⟨item.position, item.column, encoding, false⟩
        dsimp only [recolumn, Placed.recolumn] at inserted ⊢
        rw [inserted]
        cases provider.insert ⟨item.position, item.column, encoding, false⟩ with
        | error cause => rfl
        | ok next => exact ih next

private theorem placed_mapColumns (columns : List Column) (fields : List Field) :
    placed (columns.map f) fields = (placed columns fields).map (Placed.recolumn f) := by
  unfold placed
  rw [List.zip_map_left, List.zipIdx_map, List.map_map, List.map_map]
  rfl

theorem build_mapColumns (columns : List Column) (fields : List Field) :
    build (columns.map f) fields = (build columns fields).map (mapColumns f) := by
  rw [build, build, List.length_map]
  split
  case isTrue => rfl
  case isFalse =>
    have start : empty.mapColumns f = empty := rfl
    have claimed := claimDeclared_mapColumns f empty (placed columns fields)
    rw [start] at claimed
    rw [placed_mapColumns, claimed]
    cases claimDeclared empty (placed columns fields) with
    | error cause => rfl
    | ok found => exact claimFree_mapColumns f found.1 found.2

end Columns

/-- Encodings depend on the number of the columns and on what the fields declare. -/
theorem encodings_eq_of_build {columns columns' : List Column} {fields fields' : List Field}
    {provider provider' : DictionaryProvider} (count : columns.length = columns'.length)
    (declares : fields.map declared = fields'.map declared)
    (built : build columns fields = .ok provider)
    (built' : build columns' fields' = .ok provider') :
    provider.encodings = provider'.encodings := by
  -- Both lists of columns become the same list once all columns are one.
  let one : Column → Column := fun _ => Column.nulls "" .boolean 0
  have same : columns.map one = columns'.map one := by
    rw [List.map_const', List.map_const', count]
  have first := build_mapColumns one columns fields
  have second := build_mapColumns one columns' fields'
  rw [built] at first
  rw [built', ← same, ← build_congr declares, first] at second
  rw [← encodings_mapColumns one provider, ← encodings_mapColumns one provider']
  exact congrArg encodings (Except.ok.inj second)

end DictionaryProvider

end Columnar
