import Columnar.Proofs.Ipc.FileFaults
import Columnar.Proofs.TableFile.RoundTrip

/-!
Reading bytes all or not at all. A read of bytes that fails leaves the arena as it was, and its error says
what is wrong with the bytes or that there is no room (`ConversionError.OfBytes`); a read that succeeds
adds the columns of the batch to the arena and nothing else (`readBytes_all_or_nothing`).
-/
namespace Columnar

/-- The errors that a read of bytes can end in. -/
inductive ConversionError.OfBytes : ConversionError → Prop
  | malformedInput (cause : Malformation) : OfBytes (.malformedInput cause)
  | unsupportedDataType (field : String) (dataType : DataType) :
    OfBytes (.unsupportedDataType field dataType)
  | unknownTypeHint (field hint : String) : OfBytes (.unknownTypeHint field hint)
  | allocation (cause : ArenaError) : OfBytes (.allocation cause)

/-- Whether a failure, if it is an error, is one that a read of bytes can end in. -/
def ReadFailure.OfBytes : ReadFailure → Prop
  | .failed cause => cause.OfBytes
  | .aborted => True

private theorem ReadFailure.ofBytes_ofFault {fault : Ipc.Fault} (ofBytes : fault.OfBytes) :
    (ReadFailure.ofFault fault).OfBytes := by
  cases fault with
  | aborted => trivial
  | rejected cause =>
    cases cause with
    | io cause =>
      have kind : cause.kind = .unexpectedEnd ∨ cause.kind = .invalidInput := ofBytes
      rw [ofFault, ConversionError.ofRead, if_pos kind]
      exact .malformedInput _
    | _ => exact .malformedInput _

namespace Reading

variable {α : Type} {failure : ReadFailure}

private theorem ofBytes_of_ofDecoded {good : α → Prop} {decoded : Ipc.Decoded α}
    (decodes : Ipc.Decodes good decoded) (failed : (ofDecoded decoded).result = .error failure) :
    failure.OfBytes := by
  cases decoded with
  | ok value => cases failed
  | error fault =>
    cases failed
    exact ReadFailure.ofBytes_ofFault decodes

private theorem ofBytes_of_mapError {result : Except ConversionError α}
    (named : ∀ e, result = .error e → e.OfBytes)
    (failed : result.mapError ReadFailure.failed = .error failure) : failure.OfBytes := by
  cases result with
  | ok value => cases failed
  | error e =>
    cases failed
    exact named e rfl

end Reading

private theorem Field.ofBytes_of_columnType {field : Field} {e : ConversionError}
    (failed : field.columnType = .error e) : e.OfBytes := by
  rw [columnType] at failed
  split at failed
  case h_1 =>
    cases failed
    exact .unsupportedDataType _ _
  case h_2 =>
    split at failed
    case h_1 => cases failed
    case h_2 =>
      rw [hintedType] at failed
      split at failed
      case h_1 =>
        cases failed
        exact .unknownTypeHint _ _
      case h_2 =>
        split at failed
        case isTrue => cases failed
        case isFalse =>
          cases failed
          exact .unknownTypeHint _ _

private theorem ColumnSpec.ofBytes_of_ofField {field : Field} {e : ConversionError}
    (failed : ofField field = .error e) : e.OfBytes := by
  rw [ofField] at failed
  cases typed : field.columnType with
  | error cause =>
    rw [typed] at failed
    cases failed
    exact Field.ofBytes_of_columnType typed
  | ok type =>
    rw [typed, ok_bind] at failed
    split at failed
    case h_1 => cases failed
    case h_2 =>
      cases failed
      exact .malformedInput _

private theorem TableSchema.ofBytes_of_ofFile {schema : FileSchema} {e : ConversionError}
    (failed : ofFile schema = .error e) : e.OfBytes := by
  rw [ofFile] at failed
  cases each : schema.fields.mapM ColumnSpec.ofField with
  | ok specs =>
    rw [each] at failed
    cases failed
  | error cause =>
    rw [each] at failed
    cases failed
    obtain ⟨field, -, failed⟩ := exists_of_mapM_eq_error each
    exact ColumnSpec.ofBytes_of_ofField failed

namespace TableFile

open Flatbuffer (Block)

private theorem ofBytes_of_storageOf {field : Field} {e : ConversionError}
    (failed : storageOf field = .error e) : e.OfBytes := by
  rw [storageOf] at failed
  split at failed
  · cases failed
  · cases failed
    exact .unsupportedDataType _ _

private theorem ofBytes_of_columnsOf {fields : List Field} {specs : List ColumnSpec}
    {datas : List ColumnData} {failure : ReadFailure}
    (failed : (columnsOf fields specs datas).result = .error failure) : failure.OfBytes := by
  induction fields generalizing specs datas with
  | nil => cases failed
  | cons field fields ih =>
    cases specs with
    | nil => cases failed
    | cons spec specs =>
      cases datas with
      | nil => cases failed
      | cons data rest =>
        rcases Traced.bind_result_eq_error.mp failed with failed | ⟨column, -, failed⟩
        · rw [columnOf_result] at failed
          refine Reading.ofBytes_of_mapError (fun e failed => ?_) failed
          rw [Column.ofData] at failed
          split at failed
          · cases failed
          · cases failed
            exact .unsupportedDataType _ _
        · rcases Traced.bind_result_eq_error.mp failed with failed | ⟨columns, -, failed⟩
          · exact ih failed
          · cases failed

private theorem ofBytes_of_contents {budget : Flatbuffer.Budget} {bytes : Bytes} {failure : ReadFailure}
    (failed : (contents budget (Source.ofBytes bytes)).result = .error failure) :
    failure.OfBytes := by
  have opens := Ipc.FileReader.decodes_openSource bytes budget
  rcases Traced.bind_result_eq_error.mp failed with failed | ⟨reader, opened, failed⟩
  · exact Reading.ofBytes_of_ofDecoded opens failed
  rw [Reading.ofDecoded_eq_ok.mp opened] at opens
  rcases Traced.bind_result_eq_error.mp failed with failed | ⟨schema, -, failed⟩
  · exact Reading.ofBytes_of_mapError (fun _ => TableSchema.ofBytes_of_ofFile) failed
  rcases Traced.bind_result_eq_error.mp failed with failed | ⟨_, -, failed⟩
  · rw [warnOfMany] at failed
    split at failed <;> cases failed
  rcases Traced.bind_result_eq_error.mp failed with failed | ⟨storages, -, failed⟩
  · refine Reading.ofBytes_of_mapError (fun e failed => ?_) failed
    obtain ⟨field, -, failed⟩ := exists_of_mapM_eq_error failed
    exact ofBytes_of_storageOf failed
  rcases Traced.bind_result_eq_error.mp failed with failed | ⟨batch?, -, failed⟩
  · exact Reading.ofBytes_of_ofDecoded (Ipc.FileReader.sure_firstBatch? bytes opens storages) failed
  cases batch? with
  | none =>
    cases failed
    exact .malformedInput _
  | some batch =>
    rcases Traced.bind_result_eq_error.mp failed with failed | ⟨columns, -, failed⟩
    · exact ofBytes_of_columnsOf failed
    rcases Traced.bind_result_eq_error.mp failed with failed | ⟨dictionaries, -, failed⟩
    · refine Reading.ofBytes_of_mapError (fun e failed => ?_) failed
      rw [DictionaryProvider.tracedBuild_result] at failed
      cases built : DictionaryProvider.build columns reader.schema.fields with
      | ok provider =>
        rw [built] at failed
        cases failed
      | error cause =>
        rw [built] at failed
        cases failed
        exact .malformedInput _
    · cases failed

/-- A read of bytes either fails, with an error of its own family if it answers at all, and leaves the
arena as it was; or it adds the columns of the batch to the arena, after the old items. -/
theorem readBytes_all_or_nothing [Footprint Column] (bytes : Bytes) (arena : ColumnArena) :
    let outcome := readBytes bytes arena
    (∀ failure, outcome.result = .error failure → outcome.arena = arena ∧ failure.OfBytes) ∧
    (∀ batch, outcome.result = .ok batch →
      ∃ columns, batch.columns outcome.arena = .ok columns ∧
        outcome.arena = arena.extend (Arena.totalFootprint columns) columns) := by
  constructor
  · intro failure failed
    cases read : (contents .full (Source.ofBytes bytes)).result with
    | error cause =>
      obtain ⟨result, left⟩ := @readWithin_of_failed _ _ _ arena _ read
      obtain rfl := Except.error.inj (result.symm.trans failed)
      exact ⟨left, ofBytes_of_contents read⟩
    | ok found =>
      by_cases full : arena.room < Arena.totalFootprint found.columns
      · obtain ⟨result, left⟩ := readWithin_of_full read full
        obtain rfl := Except.error.inj (result.symm.trans failed)
        exact ⟨left, .allocation _⟩
      · cases (readWithin_of_contents read (UInt64.not_lt.mp full)).1.symm.trans failed
  · intro batch ok
    obtain ⟨found, -, resolves, left⟩ := resolves_of_readWithin ok
    exact ⟨found.columns, resolves.columns_eq, left⟩

/-- Whether what is found of a file fails for a type of its fields, or for a type hint. -/
private def misfit (hinted : Bool) : Except ReadFailure Contents → Bool
  | .error (.failed (.unsupportedDataType _ _)) => !hinted
  | .error (.failed (.unknownTypeHint _ _)) => hinted
  | _ => false

private theorem typed_of_misfit {result : Except ReadFailure Contents}
    (amiss : misfit false result = true) :
    ∃ field type, result = .error (.failed (.unsupportedDataType field type)) := by
  unfold misfit at amiss
  split at amiss
  · exact ⟨_, _, rfl⟩
  all_goals cases amiss

private theorem hinted_of_misfit {result : Except ReadFailure Contents}
    (amiss : misfit true result = true) :
    ∃ field hint, result = .error (.failed (.unknownTypeHint field hint)) := by
  unfold misfit at amiss
  split at amiss
  case h_2 => exact ⟨_, _, rfl⟩
  all_goals cases amiss

/-- A footer whose only field is of the type without values, and the file that ends in it. -/
def nullFooter : Bytes :=
  (Block.table [.scalar 2 Ipc.currentVersion,
    .child (Block.table [.scalar 2 0, .child (Block.vector [Block.table [.child (Block.text ""),
      .scalar 1 1, .scalar 1 1, .child (Block.table []), .absent, .child (Block.vector []),
      .child (Block.vector [])]])]),
    .child (Block.structs 0 []), .child (Block.structs 0 [])]).finish

def nullFile : Bytes :=
  nullFooter ++ Ipc.trailerFor nullFooter.length

/-- A footer whose only field has a hint that names no column type, and the file that ends in it. -/
def maskedFooter : Bytes :=
  (Ipc.footerBlock [⟨"", .int64, Metadata.empty.insert TypeHint.key "mask"⟩] []).finish

def maskedFile : Bytes :=
  maskedFooter ++ Ipc.trailerFor maskedFooter.length

open NominalFootprint in
/-- A read of no bytes, of two files that end in these footers, and of the file of `twins` without room for
it and with room. -/
theorem readBytes_all_or_nothing_twins :
    (∃ cause, (readBytes [] (Arena.new 1 1024)).result = .error (.failed (.malformedInput cause)) ∧
      (readBytes [] (Arena.new 1 1024)).arena = Arena.new 1 1024) ∧
    (∃ field type, (readBytes nullFile (Arena.new 1 1024)).result =
        .error (.failed (.unsupportedDataType field type)) ∧
      (readBytes nullFile (Arena.new 1 1024)).arena = Arena.new 1 1024) ∧
    (∃ field hint, (readBytes maskedFile (Arena.new 1 1024)).result =
        .error (.failed (.unknownTypeHint field hint)) ∧
      (readBytes maskedFile (Arena.new 1 1024)).arena = Arena.new 1 1024) ∧
    (∃ cause, (readBytes twinsFile (Arena.new 1 0)).result = .error (.failed (.allocation cause)) ∧
      (readBytes twinsFile (Arena.new 1 0)).arena = Arena.new 1 0) ∧
    ∃ batch columns, (readBytes twinsFile (Arena.new 1 Arena.unlimited)).result = .ok batch ∧
      batch.columns (readBytes twinsFile (Arena.new 1 Arena.unlimited)).arena = .ok columns ∧
      (readBytes twinsFile (Arena.new 1 Arena.unlimited)).arena =
        (Arena.new 1 Arena.unlimited).extend (Arena.totalFootprint columns) columns := by
  have kept (bytes : Bytes) (arena : ColumnArena) := (readBytes_all_or_nothing bytes arena).1
  have empty : ∃ cause, (contents .full (Source.ofBytes [])).result =
      .error (.failed (.malformedInput cause)) := ⟨_, rfl⟩
  obtain ⟨cause, empty⟩ := empty
  have unread := (@readWithin_of_failed _ _ _ (Arena.new 1 1024) _ empty).1
  obtain ⟨field, type, typeless⟩ := typed_of_misfit (by decide +kernel : misfit false
    (contents .full (Source.ofBytes (nullFooter ++ Ipc.trailerFor nullFooter.length))).result = true)
  have failed := (@readWithin_of_failed _ _ _ (Arena.new 1 1024) _ typeless).1
  obtain ⟨field', hint, hinted⟩ := hinted_of_misfit (by decide +kernel : misfit true
    (contents .full (Source.ofBytes (maskedFooter ++ Ipc.trailerFor maskedFooter.length))).result = true)
  have failed' := (@readWithin_of_failed _ _ _ (Arena.new 1 1024) _ hinted).1
  obtain ⟨dictionaries, found⟩ := contents_twinsFile
  have full : (Arena.new 1 0 : ColumnArena).room < Arena.totalFootprint twins.columns := by decide +kernel
  have refused := (readWithin_of_full found full).1
  have ok := (readWithin_of_contents found (Arena.le_room_unlimited 1 _)).1
  obtain ⟨columns, placed, left⟩ := (readBytes_all_or_nothing twinsFile _).2 _ ok
  exact ⟨⟨cause, unread, (kept _ _ _ unread).1⟩, ⟨field, type, failed, (kept _ _ _ failed).1⟩,
    ⟨field', hint, failed', (kept _ _ _ failed').1⟩, ⟨_, refused, (kept _ _ _ refused).1⟩,
    _, columns, ok, placed, left⟩

end TableFile

end Columnar
