import Columnar.Proofs.Dictionary.Annotation
import Columnar.Proofs.Ipc.Records
import Columnar.Proofs.TableFile.WrittenFields

/-!
The fields of a file with type hints. Their metadata is the hint and the encoding and nothing else
(`Settled.hinted_fields`), whatever the fields of another file may have said that the columns come from. So
the tables of the footer are known of the encodings alone (`Settled.tables_eq`).
-/
namespace Columnar

open DictionaryEncoding (idKey orderedKey synthesizedKey spelling)

theorem DictionaryEncoding.entries_record (encoding : DictionaryEncoding) (synthesized : Bool)
    (hint : String) :
    (encoding.record synthesized (Metadata.empty.insert TypeHint.key hint)).entries =
      [(TypeHint.key, hint), (idKey, Decimal.text encoding.id.toInt),
        (orderedKey, spelling encoding.ordered)] ++
          if synthesized then [(synthesizedKey, spelling true)] else [] := by
  have ids : TypeHint.key < idKey := by decide
  have orders : TypeHint.key < orderedKey ∧ idKey < orderedKey := by decide
  have marks : TypeHint.key < synthesizedKey ∧ idKey < synthesizedKey ∧ orderedKey < synthesizedKey := by
    decide
  have others : TypeHint.key ≠ synthesizedKey ∧ idKey ≠ synthesizedKey ∧ orderedKey ≠ synthesizedKey := by
    decide
  -- each key comes after all that are there already, so its entry goes to the end
  have identified : ((Metadata.empty.insert TypeHint.key hint).insert idKey
      (Decimal.text encoding.id.toInt)).entries =
        [(TypeHint.key, hint), (idKey, Decimal.text encoding.id.toInt)] :=
    Metadata.entries_insert_of_above _ (List.forall_mem_singleton.mpr ids)
  have stated : (((Metadata.empty.insert TypeHint.key hint).insert idKey
      (Decimal.text encoding.id.toInt)).insert orderedKey (spelling encoding.ordered)).entries =
        [(TypeHint.key, hint), (idKey, Decimal.text encoding.id.toInt),
          (orderedKey, spelling encoding.ordered)] := by
    rw [Metadata.entries_insert_of_above, identified]
    · rfl
    · rw [identified]
      exact List.forall_mem_cons.mpr ⟨orders.1, List.forall_mem_singleton.mpr orders.2⟩
  cases synthesized with
  | false =>
    change List.filter _ (Metadata.entries _) = _
    rw [stated]
    simp [others]
  | true =>
    change (Metadata.insert _ _ _).entries = _
    rw [Metadata.entries_insert_of_above, stated]
    · rfl
    · rw [stated]
      exact List.forall_mem_cons.mpr ⟨marks.1,
        List.forall_mem_cons.mpr ⟨marks.2.1, List.forall_mem_singleton.mpr marks.2.2⟩⟩

def hintedField (spec : ColumnSpec) (entry : DictionaryEntry) : Ipc.WrittenField :=
  ⟨spec.name, spec.type.storage,
    entry.encoding.record entry.synthesized (Metadata.empty.insert TypeHint.key spec.type.hint)⟩

private theorem ColumnSpec.metadata_annotate (spec : ColumnSpec) (encoding : DictionaryEncoding)
    (synthesized : Bool) :
    (encoding.annotate spec.toField synthesized).metadata =
      encoding.record synthesized (Metadata.empty.insert TypeHint.key spec.type.hint) := by
  unfold toField
  cases spec.dictionary with
  | none => rfl
  | some own =>
    rw [DictionaryEncoding.annotate_annotate]
    rfl

/-- How many tables a written file takes to say of a column what it says with a type hint. -/
def DictionaryEntry.tables (entry : DictionaryEntry) : Nat :=
  if entry.synthesized then 6 else 5

/-- How many tables the footer of a file with type hints takes. -/
def DictionaryProvider.tables (provider : DictionaryProvider) : Nat :=
  2 + (provider.entries.map DictionaryEntry.tables).sum

private theorem tableCount_hintedField (spec : ColumnSpec) (entry : DictionaryEntry) :
    (hintedField spec entry).tableCount = entry.tables := by
  unfold Ipc.WrittenField.tableCount hintedField DictionaryEntry.tables
  rw [DictionaryEncoding.entries_record]
  cases entry.synthesized <;> rfl

namespace TableFile

section Hinted

variable [Footprint Column] {batch : RowBatch} {options : WriteOptions} {writer : ColumnArena}
  {settled : Plan} (ready : Settled writer batch options settled) (hints : options.typeHints = true)

include ready hints

theorem Settled.hinted_fields :
    ∃ entries, settled.dictionaries.entries.Perm entries ∧ entries.length = batch.schema.width ∧
      settled.contents.fields = List.zipWith hintedField batch.schema.columns entries := by
  have fields : plainFields batch.schema options.typeHints = batch.schema.fields := if_pos hints
  have dictionaries := ready.dictionaries
  rw [fields] at dictionaries
  obtain ⟨entries, built⟩ := DictionaryProvider.built_of_build dictionaries
  have count : entries.length = batch.schema.width := by
    rw [built.length, TableSchema.length_fields]
  obtain ⟨width, fills⟩ := ready.fills
  refine ⟨entries, built.perm, count, ?_⟩
  rw [ready.contents, fields, built.annotateFields_eq]
  apply List.ext_getElem
  · simp [count, width, TableSchema.fields, TableSchema.width]
  · intro index left right
    rw [List.length_zipWith] at right
    have inside : index < batch.schema.columns.length := by omega
    have inside' : index < settled.columns.length := by
      rw [width]
      exact inside
    have type := (fills index _ _ (List.getElem?_eq_getElem inside)
      (List.getElem?_eq_getElem inside')).type
    simp only [List.getElem_zipWith, TableSchema.fields, List.getElem_map, writtenField, hintedField,
      type, ColumnSpec.metadata_annotate]
    rw [DictionaryEncoding.annotate, ColumnSpec.toField_name]

/-- The footer takes two tables and five for each column, or six where its encoding is made up. -/
theorem Settled.tables_eq :
    1 + Ipc.tableCount settled.contents.fields = settled.dictionaries.tables := by
  obtain ⟨entries, perm, count, fields⟩ := ready.hinted_fields hints
  have tables : settled.contents.fields.map Ipc.WrittenField.tableCount =
      entries.map DictionaryEntry.tables := by
    rw [fields]
    apply List.ext_getElem
    · simp [count, TableSchema.width]
    · intro index left right
      simp only [List.getElem_map, List.getElem_zipWith, tableCount_hintedField]
  rw [Ipc.tableCount, DictionaryProvider.tables, tables, (perm.map DictionaryEntry.tables).sum_nat,
    ← Nat.add_assoc]

end Hinted

end TableFile

end Columnar
