import Columnar.Proofs.Schema

/-!
File schemas of numbers. `FileSchema.isMatrixCompatible` asks each field for a numeric column type and
does not look at what it says of a dictionary, which a table schema needs as well. So a table schema of
numbers is found exactly for the compatible schemas in which all of that can be read
(`ofFile_numeric_iff`); with an entry that cannot be read, a compatible schema is no table schema
(`mislabelled_compatible`).
-/
namespace Columnar

open DictionaryEncoding (declared)

namespace Field

variable {field : Field} {type : ColumnType}

private theorem exists_declared : (∃ encoding?, declared field = .ok encoding?) ↔
    ∃ stated?, DictionaryEncoding.stated field = .ok stated? := by
  simp only [declared_eq_ok]
  exact exists_declares

private theorem Typed.convertible_iff (typed : field.Typed type) :
    field.Convertible ↔ ∃ encoding?, declared field = .ok encoding? := by
  constructor
  · intro convertible
    exact exists_declared.mpr convertible.dictionary
  · rintro ⟨encoding?, read⟩
    exact exists_standsFor.mp ⟨⟨field.name, type, encoding?⟩, rfl, typed, declared_eq_ok.mp read⟩

private theorem Typed.refused_iff (typed : field.Typed type) {e : ConversionError} :
    field.Refused e ↔ ∃ cause, declared field = .error cause ∧ e = .malformedInput cause := by
  constructor
  · intro refused
    cases refused with
    | untyped untyped => cases untyped.columnType.symm.trans typed.columnType
    | unreadable _ unreadable => exact ⟨_, declared_eq_error.mpr unreadable, rfl⟩
  · rintro ⟨cause, failed, rfl⟩
    exact .unreadable typed (declared_eq_error.mp failed)

end Field

namespace FileSchema

variable {schema : FileSchema}

theorem isMatrixCompatible_iff : schema.isMatrixCompatible = true ↔
    ∀ field ∈ schema.fields, ∃ type, field.Typed type ∧ type.isNumeric = true := by
  unfold isMatrixCompatible
  rw [List.all_eq_true]
  apply forall₂_congr
  intro field _
  simp only [← Field.columnType_eq_ok]
  cases field.columnType <;> simp

/-- The fields of columns are compatible exactly if the columns are numeric. -/
theorem isMatrixCompatible_of_standsFor {specs : List ColumnSpec}
    (stands : List.Forall₂ Field.StandsFor schema.fields specs) :
    schema.isMatrixCompatible = true ↔ ∀ spec ∈ specs, spec.type.isNumeric = true := by
  obtain ⟨fields, metadata⟩ := schema
  rw [isMatrixCompatible_iff]
  dsimp only at stands ⊢
  induction stands with
  | nil => simp
  | @cons field spec _ _ own _ ih =>
    have type : (∃ type, field.Typed type ∧ type.isNumeric = true) ↔ spec.type.isNumeric = true := by
      constructor
      · rintro ⟨type, typed, numeric⟩
        obtain rfl := Except.ok.inj (own.type.columnType.symm.trans typed.columnType)
        exact numeric
      · intro numeric
        exact ⟨_, own.type, numeric⟩
    rw [List.forall_mem_cons, List.forall_mem_cons, ih, type]

/-- A table schema of numbers is found exactly for the compatible file schemas in which every field says
readably whether it declares an encoding. A compatible schema in which one does not is refused for the
first that does not, as malformed input. -/
theorem ofFile_numeric_iff (schema : FileSchema) :
    ((∃ table, TableSchema.ofFile schema = .ok table ∧
        ∀ type ∈ table.types, type.isNumeric = true) ↔
      schema.isMatrixCompatible = true ∧
        ∀ field ∈ schema.fields, ∃ encoding?, declared field = .ok encoding?) ∧
    (schema.isMatrixCompatible = true → ∀ e, TableSchema.ofFile schema = .error e ↔
      ∃ before field after, schema.fields = before ++ field :: after ∧
        (∀ earlier ∈ before, ∃ encoding?, declared earlier = .ok encoding?) ∧
        ∃ cause, declared field = .error cause ∧ e = .malformedInput cause) := by
  constructor
  · constructor
    · rintro ⟨table, ok, numeric⟩
      have stands := TableSchema.ofFile_eq_ok.mp ok
      refine ⟨(isMatrixCompatible_of_standsFor stands).mpr (List.forall_mem_map.mp numeric), ?_⟩
      intro field member
      exact Field.exists_declared.mpr (TableSchema.exists_ofFile.mp ⟨table, ok⟩ field member).dictionary
    · rintro ⟨compatible, readable⟩
      have typed := isMatrixCompatible_iff.mp compatible
      have convertible : ∀ field ∈ schema.fields, field.Convertible := by
        intro field member
        obtain ⟨type, own, -⟩ := typed field member
        exact own.convertible_iff.mpr (readable field member)
      obtain ⟨table, ok⟩ := TableSchema.exists_ofFile.mpr convertible
      refine ⟨table, ok, List.forall_mem_map.mpr ?_⟩
      exact (isMatrixCompatible_of_standsFor (TableSchema.ofFile_eq_ok.mp ok)).mp compatible
  · intro compatible e
    rw [TableSchema.ofFile_eq_error]
    refine exists_congr fun before => exists_congr fun field => exists_congr fun after =>
      and_congr_right fun here => ?_
    have typed := isMatrixCompatible_iff.mp compatible
    rw [here, List.forall_mem_append, List.forall_mem_cons] at typed
    obtain ⟨earlier, ⟨type, own, -⟩, -⟩ := typed
    rw [own.refused_iff]
    refine and_congr_left' (forall₂_congr fun other member => ?_)
    obtain ⟨type, own, -⟩ := earlier other member
    exact own.convertible_iff

def mislabelled : FileSchema :=
  ⟨[{ Field.plain "x" .int64 with
      metadata := Metadata.empty.insert DictionaryEncoding.idKey "seven" }], ∅⟩

/-- A schema can be compatible with a matrix and not stand for a table. -/
theorem mislabelled_compatible :
    ¬(mislabelled.isMatrixCompatible = true ↔
      ∃ table, TableSchema.ofFile mislabelled = .ok table ∧
        ∀ type ∈ table.types, type.isNumeric = true) := by
  have compatible : mislabelled.isMatrixCompatible = true := rfl
  have refused : TableSchema.ofFile mislabelled =
      .error (.malformedInput (.dictionaryId "x" "seven")) := rfl
  rintro ⟨accepted, -⟩
  obtain ⟨table, ok, -⟩ := accepted compatible
  cases refused.symm.trans ok

end FileSchema

end Columnar
