import Columnar.Proofs.Dictionary.Encoding

/-!
File schemas as table schemas. `Field.Typed` says which column type a field has, and `Field.Untyped`
with which error it has none; `Field.columnType` finds just these (`columnType_eq_ok`,
`columnType_eq_error`). A file schema is accepted exactly if each of its fields stands for a column; if
not, it is refused with the error of the first field that does not (`TableSchema.ofFile_accepts`).
-/
namespace Columnar

/-- Which data types take over the values of which storage unchanged. -/
inductive DataType.Stores : DataType → StorageType → Prop where
  | int32 : Stores .int32 .int32
  | int64 : Stores .int64 .int64
  | float32 : Stores .float32 .float32
  | float64 : Stores .float64 .float64
  | boolean : Stores .boolean .boolean
  | utf8 : Stores .utf8 .utf8
  | binary : Stores .binary .binary
  | date64 : Stores .date64 .timestampMillis
  | timestamp (zone : Option String) : Stores (.timestamp .millisecond zone) .timestampMillis

private theorem DataType.storage?_eq_some {dataType : DataType} {storage : StorageType} :
    dataType.storage? = some storage ↔ dataType.Stores storage := by
  constructor
  · intro found
    unfold storage? at found
    split at found <;> cases found <;> constructor
  · rintro ⟨⟩ <;> rfl

private theorem DataType.storage?_eq_none {dataType : DataType} :
    dataType.storage? = none ↔ ∀ storage, ¬dataType.Stores storage := by
  simp only [← storage?_eq_some]
  exact Option.eq_none_iff_forall_ne_some

theorem ColumnType.dataType_eq_plainType {type : ColumnType} {storage : StorageType} :
    type.dataType = storage.plainType.dataType ↔ type.storage = storage := by
  unfold dataType
  rw [StorageType.storage_plainType]
  constructor
  · intro same
    simpa using congrArg DataType.storage? same
  · intro same
    rw [same]

private theorem ColumnType.ofHint?_eq_none {hint : String} :
    ofHint? hint = none ↔ ∀ type : ColumnType, type.hint ≠ hint := by
  constructor
  · rintro absent type rfl
    simp at absent
  · intro unknown
    unfold ofHint?
    rw [List.find?_eq_none]
    intro type _
    simpa using unknown type

namespace Field

open DictionaryEncoding (declared stated)

/-- Which column type a field has. Without a hint it is the plain type of the stored form; a hint names
a type that has the same form in a file. -/
inductive Typed (field : Field) : ColumnType → Prop where
  | plain {storage : StorageType} (stored : field.dataType.Stores storage)
    (bare : field.metadata.get? TypeHint.key = none) : Typed field storage.plainType
  | hinted {storage : StorageType} {type : ColumnType} (stored : field.dataType.Stores storage)
    (hint : field.metadata.get? TypeHint.key = some type.hint)
    (alike : type.dataType = storage.plainType.dataType) : Typed field type

/-- Why a field has no column type, with the error that says so. -/
inductive Untyped (field : Field) : ConversionError → Prop where
  | unsupported (foreign : ∀ storage, ¬field.dataType.Stores storage) :
    Untyped field (.unsupportedDataType field.name field.dataType)
  | unknown {storage : StorageType} {hint : String} (stored : field.dataType.Stores storage)
    (hinted : field.metadata.get? TypeHint.key = some hint)
    (unknown : ∀ type : ColumnType, type.hint ≠ hint) :
    Untyped field (.unknownTypeHint field.name hint)
  | unlike {storage : StorageType} {type : ColumnType} (stored : field.dataType.Stores storage)
    (hinted : field.metadata.get? TypeHint.key = some type.hint)
    (unlike : type.dataType ≠ storage.plainType.dataType) :
    Untyped field
      (.unknownTypeHint field.name s!"{type.hint} (field is {field.dataType.describe})")

variable {field : Field} {type : ColumnType} {e : ConversionError} {spec : ColumnSpec}

theorem Typed.columnType (typed : field.Typed type) : field.columnType = .ok type := by
  cases typed with
  | plain stored bare =>
    rw [Field.columnType, DataType.storage?_eq_some.mpr stored, bare]
  | hinted stored hint alike =>
    rw [Field.columnType, DataType.storage?_eq_some.mpr stored, hint]
    dsimp only
    rw [hintedType, ColumnType.ofHint?_hint]
    exact if_pos (ColumnType.dataType_eq_plainType.mp alike)

theorem Untyped.columnType (untyped : field.Untyped e) : field.columnType = .error e := by
  cases untyped with
  | unsupported foreign => rw [Field.columnType, DataType.storage?_eq_none.mpr foreign]
  | unknown stored hinted unknown =>
    rw [Field.columnType, DataType.storage?_eq_some.mpr stored, hinted]
    dsimp only
    rw [hintedType, ColumnType.ofHint?_eq_none.mpr unknown]
  | unlike stored hinted unlike =>
    rw [Field.columnType, DataType.storage?_eq_some.mpr stored, hinted]
    dsimp only
    rw [hintedType, ColumnType.ofHint?_hint]
    exact if_neg (mt ColumnType.dataType_eq_plainType.mpr unlike)

private theorem typed_or_untyped (field : Field) :
    (∃ type, field.Typed type) ∨ ∃ e, field.Untyped e := by
  cases stored : field.dataType.storage? with
  | none => exact .inr ⟨_, .unsupported (DataType.storage?_eq_none.mp stored)⟩
  | some storage =>
    rw [DataType.storage?_eq_some] at stored
    cases hinted : field.metadata.get? TypeHint.key with
    | none => exact .inl ⟨_, .plain stored hinted⟩
    | some hint =>
      cases named : ColumnType.ofHint? hint with
      | none => exact .inr ⟨_, .unknown stored hinted (ColumnType.ofHint?_eq_none.mp named)⟩
      | some type =>
        obtain rfl := ColumnType.hint_of_ofHint? named
        by_cases alike : type.dataType = storage.plainType.dataType
        · exact .inl ⟨_, .hinted stored hinted alike⟩
        · exact .inr ⟨_, .unlike stored hinted alike⟩

theorem columnType_eq_ok : field.columnType = .ok type ↔ field.Typed type := by
  constructor
  · intro found
    obtain ⟨own, typed⟩ | ⟨e, untyped⟩ := field.typed_or_untyped
    · obtain rfl := Except.ok.inj (typed.columnType.symm.trans found)
      exact typed
    · cases untyped.columnType.symm.trans found
  · exact Typed.columnType

theorem columnType_eq_error : field.columnType = .error e ↔ field.Untyped e := by
  constructor
  · intro failed
    obtain ⟨own, typed⟩ | ⟨cause, untyped⟩ := field.typed_or_untyped
    · cases typed.columnType.symm.trans failed
    · obtain rfl := Except.error.inj (untyped.columnType.symm.trans failed)
      exact untyped
  · exact Untyped.columnType

/-- Which encoding a field declares: the one that it states, unless that is marked as synthesized. -/
inductive Declares (field : Field) : Option DictionaryEncoding → Prop where
  | nothing (silent : stated field = .ok none) : Declares field none
  | synthesized {encoding : DictionaryEncoding}
    (marked : stated field = .ok (some (encoding, true))) : Declares field none
  | encoding {encoding : DictionaryEncoding}
    (own : stated field = .ok (some (encoding, false))) : Declares field (some encoding)

/-- Whether a field stands for a column: it has its name, its type and its encoding. -/
structure StandsFor (field : Field) (spec : ColumnSpec) : Prop where
  name : spec.name = field.name
  type : field.Typed spec.type
  dictionary : field.Declares spec.dictionary

/-- Why a field stands for no column, with the error that says so. What is wrong with the type is said
before what is wrong with the dictionary. -/
inductive Refused (field : Field) : ConversionError → Prop where
  | untyped {e : ConversionError} (untyped : field.Untyped e) : Refused field e
  | unreadable {type : ColumnType} {cause : Malformation} (typed : field.Typed type)
    (unreadable : stated field = .error cause) : Refused field (.malformedInput cause)

/-- What is asked of a field that is to stand for a column: a stored form, a hint, if there is one, that
names a type of that form, and dictionary metadata that can be read. -/
structure Convertible (field : Field) : Prop where
  type : ∃ storage, field.dataType.Stores storage ∧
    ∀ hint, field.metadata.get? TypeHint.key = some hint →
      ∃ type : ColumnType, type.hint = hint ∧ type.dataType = storage.plainType.dataType
  dictionary : ∃ stated?, stated field = .ok stated?

theorem declared_eq_ok {dictionary : Option DictionaryEncoding} :
    declared field = .ok dictionary ↔ field.Declares dictionary := by
  unfold DictionaryEncoding.declared
  constructor
  · intro found
    split at found
    case h_1 => cases found
    case h_2 own =>
      cases found
      exact .encoding own
    case h_3 stated? other own =>
      cases found
      obtain _ | ⟨encoding, _ | _⟩ := stated?
      · exact .nothing own
      · exact absurd rfl (other encoding)
      · exact .synthesized own
  · rintro (silent | marked | own)
    · rw [silent]
    · rw [marked]
    · rw [own]

theorem declared_eq_error {cause : Malformation} :
    declared field = .error cause ↔ stated field = .error cause := by
  unfold DictionaryEncoding.declared
  cases stated field with
  | error cause => simp
  | ok stated? => obtain _ | ⟨encoding, _ | _⟩ := stated? <;> simp

theorem ofField_eq_ok_iff : ColumnSpec.ofField field = .ok spec ↔ field.StandsFor spec := by
  rw [ColumnSpec.ofField_eq_ok, columnType_eq_ok, declared_eq_ok]
  exact ⟨fun ⟨name, type, dictionary⟩ => ⟨name.symm, type, dictionary⟩,
    fun ⟨name, type, dictionary⟩ => ⟨name.symm, type, dictionary⟩⟩

theorem ofField_eq_error_iff : ColumnSpec.ofField field = .error e ↔ field.Refused e := by
  unfold ColumnSpec.ofField
  constructor
  · intro failed
    cases typed : field.columnType with
    | error cause =>
      rw [typed] at failed
      obtain rfl := Except.error.inj failed
      exact .untyped (columnType_eq_error.mp typed)
    | ok type =>
      rw [typed, ok_bind] at failed
      cases read : declared field with
      | ok dictionary =>
        rw [read] at failed
        cases failed
      | error cause =>
        rw [read] at failed
        cases failed
        exact .unreadable (columnType_eq_ok.mp typed) (declared_eq_error.mp read)
  · intro refused
    cases refused with
    | untyped untyped => rw [untyped.columnType, error_bind]
    | unreadable typed unreadable =>
      rw [typed.columnType, ok_bind, declared_eq_error.mpr unreadable]

theorem exists_declares : (∃ dictionary, field.Declares dictionary) ↔
    ∃ stated?, stated field = .ok stated? := by
  constructor
  · rintro ⟨dictionary, silent | marked | own⟩
    · exact ⟨_, silent⟩
    · exact ⟨_, marked⟩
    · exact ⟨_, own⟩
  · rintro ⟨_ | ⟨encoding, _ | _⟩, read⟩
    · exact ⟨_, .nothing read⟩
    · exact ⟨_, .encoding read⟩
    · exact ⟨_, .synthesized read⟩

theorem exists_standsFor : (∃ spec, field.StandsFor spec) ↔ field.Convertible := by
  constructor
  · rintro ⟨⟨name, type, dictionary⟩, -, typed, declares⟩
    refine ⟨?_, exists_declares.mp ⟨dictionary, declares⟩⟩
    dsimp only at typed
    cases typed with
    | plain stored bare =>
      refine ⟨_, stored, fun hint hinted => ?_⟩
      cases bare.symm.trans hinted
    | hinted stored own alike =>
      refine ⟨_, stored, fun hint hinted => ⟨type, ?_, alike⟩⟩
      exact Option.some.inj (own.symm.trans hinted)
  · rintro ⟨⟨storage, stored, named⟩, readable⟩
    obtain ⟨dictionary, declares⟩ := exists_declares.mpr readable
    cases hinted : field.metadata.get? TypeHint.key with
    | none => exact ⟨⟨field.name, _, dictionary⟩, rfl, .plain stored hinted, declares⟩
    | some hint =>
      obtain ⟨type, rfl, alike⟩ := named hint hinted
      exact ⟨⟨field.name, type, dictionary⟩, rfl, .hinted stored hinted alike, declares⟩

end Field

namespace TableSchema

open Columnar.Field (ofField_eq_ok_iff ofField_eq_error_iff)

theorem ofFile_eq_ok {schema : FileSchema} {table : TableSchema} :
    ofFile schema = .ok table ↔ List.Forall₂ Field.StandsFor schema.fields table.columns := by
  unfold ofFile
  rw [bind_eq_ok]
  constructor
  · rintro ⟨columns, each, same⟩
    obtain rfl := Except.ok.inj same
    exact (mapM_eq_ok.mp each).imp fun _ _ => ofField_eq_ok_iff.mp
  · intro stands
    exact ⟨_, mapM_eq_ok.mpr (stands.imp fun _ _ => ofField_eq_ok_iff.mpr), rfl⟩

theorem ofFile_eq_error {schema : FileSchema} {e : ConversionError} :
    ofFile schema = .error e ↔ ∃ before field after, schema.fields = before ++ field :: after ∧
      (∀ earlier ∈ before, earlier.Convertible) ∧ field.Refused e := by
  unfold ofFile
  simp only [bind_ok_eq_error, mapM_eq_error, ofField_eq_ok_iff, ofField_eq_error_iff,
    Field.exists_standsFor]

theorem exists_ofFile {schema : FileSchema} :
    (∃ table, ofFile schema = .ok table) ↔ ∀ field ∈ schema.fields, field.Convertible := by
  simp only [← Field.exists_standsFor, ← ofField_eq_ok_iff, ← exists_mapM_eq_ok]
  exact exists_bind_ok

/-- The schema of a table is found again in the one made for a file. A file schema is accepted exactly
if each field can stand for a column, and then has one column for each field, in order; otherwise the
first field that cannot says why. -/
theorem ofFile_accepts :
    (∀ table : TableSchema, ofFile table.toFile = .ok table) ∧
    (∀ schema : FileSchema, (∃ table, ofFile schema = .ok table) ↔
      ∀ field ∈ schema.fields, field.Convertible) ∧
    (∀ (schema : FileSchema) (table : TableSchema), ofFile schema = .ok table ↔
      List.Forall₂ Field.StandsFor schema.fields table.columns) ∧
    ∀ (schema : FileSchema) (e : ConversionError), ofFile schema = .error e ↔
      ∃ before field after, schema.fields = before ++ field :: after ∧
        (∀ earlier ∈ before, earlier.Convertible) ∧ field.Refused e := by
  refine ⟨fun table => ?_, fun schema => exists_ofFile, fun schema table => ofFile_eq_ok,
    fun schema e => ofFile_eq_error⟩
  rw [ofFile_eq_ok, toFile, fields, List.forall₂_map_left_iff, List.forall₂_same]
  exact fun spec _ => ofField_eq_ok_iff.mp spec.ofField_toField

end TableSchema

end Columnar
