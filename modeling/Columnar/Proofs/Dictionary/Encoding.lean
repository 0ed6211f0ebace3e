import Columnar.Proofs.Text.Decimal
import Columnar.Proofs.Sequence

/-!
Encodings on fields. Recording an encoding changes the three dictionary keys only
(`get?_record_of_ne`), and the encoding that a field then states is the one recorded
(`stated_annotate`), so that a column and the field made for it stand for one another
(`ofField_toField`).
-/
namespace Columnar

namespace DictionaryEncoding

def keys : List String :=
  [idKey, orderedKey, synthesizedKey]

variable (encoding : DictionaryEncoding) (synthesized : Bool)

theorem get?_record (metadata : Metadata) (key : String) :
    (encoding.record synthesized metadata).get? key =
      if key = synthesizedKey then if synthesized then some (spelling true) else none
      else if key = orderedKey then some (spelling encoding.ordered)
      else if key = idKey then some (Decimal.text encoding.id.toInt)
      else metadata.get? key := by
  cases synthesized <;> simp [record, Metadata.get?_insert, Metadata.get?_erase]

theorem get?_record_of_ne (metadata : Metadata) {key : String} (other : key ∉ keys) :
    (encoding.record synthesized metadata).get? key = metadata.get? key := by
  simp only [keys, List.mem_cons, List.not_mem_nil, or_false, not_or] at other
  rw [get?_record, if_neg other.2.2, if_neg other.2.1, if_neg other.1]

theorem ordering?_record (metadata : Metadata) :
    ordering? (encoding.record synthesized metadata) = .ok encoding.ordered := by
  have stated : (encoding.record synthesized metadata).get? orderedKey =
      some (spelling encoding.ordered) := by
    rw [get?_record, if_neg (by decide), if_pos rfl]
  rw [ordering?, stated]
  cases encoding.ordered <;> rfl

@[simp] theorem stated_annotate (field : Field) :
    stated (encoding.annotate field synthesized) = .ok (some (encoding, synthesized)) := by
  have id : (encoding.record synthesized field.metadata).get? idKey =
      some (Decimal.text encoding.id.toInt) := by
    rw [get?_record, if_neg (by decide), if_neg (by decide), if_pos rfl]
  have marked : (encoding.record synthesized field.metadata).get? synthesizedKey =
      if synthesized then some (spelling true) else none := by
    rw [get?_record, if_pos rfl]
  simp only [stated, annotate, id, Decimal.int64?_text, ordering?_record, marked]
  cases synthesized <;> rfl

@[simp] theorem declared_annotate (field : Field) :
    declared (encoding.annotate field synthesized) =
      .ok (if synthesized then none else some encoding) := by
  rw [declared, stated_annotate]
  cases synthesized <;> rfl

@[simp] theorem columnType_annotate (field : Field) :
    (encoding.annotate field synthesized).columnType = field.columnType := by
  have hint := get?_record_of_ne encoding synthesized field.metadata
    (by decide : TypeHint.key ∉ keys)
  simp only [Field.columnType, annotate, hint, Field.hintedType]

end DictionaryEncoding

namespace Field

open DictionaryEncoding (declared)

@[simp] theorem columnType_ofColumn (name : String) (type : ColumnType) :
    (ofColumn name type).columnType = .ok type := by
  have hint : (Metadata.empty.insert TypeHint.key type.hint).get? TypeHint.key = some type.hint := by
    rw [Metadata.get?_insert, if_pos rfl]
  simp [columnType, ofColumn, plain, ColumnType.dataType, hint, hintedType]

@[simp] theorem declared_ofColumn (name : String) (type : ColumnType) :
    declared (ofColumn name type) = .ok none := by
  have absent : (ofColumn name type).metadata.get? DictionaryEncoding.idKey = none := by
    rw [ofColumn, Metadata.get?_insert, if_neg (by decide)]
    rfl
  rw [declared, DictionaryEncoding.stated, absent]

end Field

namespace ColumnSpec

open DictionaryEncoding (declared)

@[simp] theorem toField_name (spec : ColumnSpec) : spec.toField.name = spec.name := by
  rw [toField]
  split <;> rfl

@[simp] theorem toField_dataType (spec : ColumnSpec) :
    spec.toField.dataType = spec.type.dataType := by
  rw [toField]
  split <;> rfl

@[simp] theorem columnType_toField (spec : ColumnSpec) : spec.toField.columnType = .ok spec.type := by
  rw [toField]
  split <;> simp

@[simp] theorem declared_toField (spec : ColumnSpec) :
    declared spec.toField = .ok spec.dictionary := by
  rw [toField]
  split <;> simp [*]

/-- A field stands for a column exactly if it has its name and type and declares its encoding. -/
theorem ofField_eq_ok {field : Field} {spec : ColumnSpec} :
    ofField field = .ok spec ↔
      field.name = spec.name ∧ field.columnType = .ok spec.type ∧
        declared field = .ok spec.dictionary := by
  rw [ofField]
  cases field.columnType with
  | error e => exact iff_of_false (fun ok => nomatch ok) fun both => nomatch both.2.1
  | ok type =>
    rw [ok_bind]
    cases declared field with
    | error e => exact iff_of_false (fun ok => nomatch ok) fun both => nomatch both.2.2
    | ok dictionary =>
      cases spec
      simp

theorem ofField_toField (spec : ColumnSpec) : ofField spec.toField = .ok spec :=
  ofField_eq_ok.mpr ⟨spec.toField_name, spec.columnType_toField, spec.declared_toField⟩

end ColumnSpec

end Columnar
