import Columnar.Ipc.FieldType
import Columnar.Proofs.Ipc.Records

/-!
Written fields, read back. The tables of written fields stand for the fields themselves, their
metadata included (`toSchema?_schemaTableOf`).
-/
namespace Columnar

namespace Metadata

private theorem entries_foldl_insert {rest : List (String × String)} {metadata : Metadata}
    (ascending : (metadata.entries ++ rest).Pairwise fun a b => a.1 < b.1) :
    (rest.foldl (fun metadata entry => metadata.insert entry.1 entry.2) metadata).entries =
      metadata.entries ++ rest := by
  induction rest generalizing metadata with
  | nil => simp
  | cons entry rest ih =>
    have above : ∀ other ∈ metadata.entries, other.1 < entry.1 := fun other member =>
      (List.pairwise_append.mp ascending).2.2 other member entry (by simp)
    have next : (metadata.insert entry.1 entry.2).entries = metadata.entries ++ [entry] :=
      insertEntry_of_above above
    rw [List.foldl_cons, ih (by simpa [next] using ascending), next, List.append_assoc]
    rfl

@[simp] theorem ofList_entries (metadata : Metadata) : ofList metadata.entries = metadata :=
  Metadata.ext (@entries_foldl_insert metadata.entries empty metadata.ascending)

end Metadata

namespace Ipc

@[simp] theorem metadataOf_entries (metadata : Metadata) :
    metadataOf (some (metadata.entries.map .ofPair)) = metadata := by
  rw [metadataOf, Option.getD_some, List.filterMap_map]
  exact (congrArg Metadata.ofList List.filterMap_some).trans metadata.ofList_entries

theorem plainType?_typeTable (storage : StorageType) (children : Children) :
    plainType? (typeTable storage) children = some storage.dataType := by
  cases storage <;> rfl

theorem toField?_table (field : WrittenField) : field.table.toField? = some field.toField := by
  have type : fieldType? (some (typeTable field.storage)) none (FieldTable.children? (some [])) =
      some field.storage.dataType := by
    rw [fieldType?, Option.bind_eq_bind, Option.bind_some, plainType?_typeTable]
    rfl
  rw [WrittenField.table, FieldTable.toField?, type, metadataOf_entries]
  rfl

theorem toFields?_table (fields : List WrittenField) :
    FieldTable.toFields? (fields.map WrittenField.table) =
      some (fields.map WrittenField.toField) := by
  induction fields with
  | nil => rw [List.map_nil, FieldTable.toFields?]; rfl
  | cons field rest ih =>
    rw [List.map_cons, FieldTable.toFields?, toField?_table, ih]
    rfl

theorem toSchema?_schemaTableOf (fields : List WrittenField) :
    (schemaTableOf fields).toSchema? = some ⟨fields.map WrittenField.toField, ∅⟩ := by
  rw [SchemaTable.toSchema?, schemaTableOf, Option.bind_eq_bind, Option.bind_some, toFields?_table]
  rfl

end Ipc

end Columnar
