import Columnar.Proofs.Ipc.FileAborts
import Columnar.Proofs.TableFile.FirstBatch

/-!
Reads without an answer. A file that confounds its reader, by its footer or by the block of its first
batch, makes a read abort, whatever the arena; every other file is answered with a column batch or an
error (`readBytes_answers`). One of the former has no more than a footer without a schema
(`unlabelledFile`).
-/
namespace Columnar

namespace TableFile

open Ipc (Aborts)

/-- Whether a file confounds its reader: by its footer, or by the block of its first batch, the schema
being that of a table. -/
inductive Confounds (bytes : Bytes) : Prop
  | footer {footer : Ipc.Footer} {reads : Nat}
    (read : Ipc.footerOf .full (Source.ofBytes bytes) = .ok (footer, reads))
    (listed : footer.recordBatches.isSome) (astray : footer.Confounds bytes .full)
  | batch {reader : Ipc.FileReader} {schema : TableSchema} {storages : List (StorageType × Bool)}
    {block : Ipc.FileBlock}
    (opened : Ipc.FileReader.openSource .full (Source.ofBytes bytes) = .ok reader)
    (stands : TableSchema.ofFile reader.schema = .ok schema)
    (stored : reader.schema.fields.mapM storageOf = .ok storages)
    (first : reader.batches.head? = some block)
    (astray : Ipc.BatchConfounds bytes reader.budget reader.version storages block)

private theorem failed_ne_aborted {α : Type} (result : Except ConversionError α) :
    result.mapError ReadFailure.failed ≠ .error .aborted := by
  cases result <;> nofun

private theorem ofFault_eq_aborted {fault : Ipc.Fault} :
    ReadFailure.ofFault fault = .aborted ↔ fault = .aborted := by
  cases fault <;> simp [ReadFailure.ofFault]

private theorem mapError_ofFault_eq_aborted {α : Type} {decoded : Ipc.Decoded α} :
    decoded.mapError ReadFailure.ofFault = .error .aborted ↔ Aborts decoded := by
  cases decoded with
  | ok value => exact iff_of_false nofun nofun
  | error fault => simp [Except.mapError, Aborts, ofFault_eq_aborted]

private theorem columnsOf_ne_aborted (fields : List Field) (specs : List ColumnSpec)
    (datas : List ColumnData) : (columnsOf fields specs datas).result ≠ .error .aborted := by
  induction fields generalizing specs datas with
  | nil => nofun
  | cons field fields ih =>
    cases specs with
    | nil => nofun
    | cons spec specs =>
      cases datas with
      | nil => nofun
      | cons data rest =>
        intro astray
        obtain astray | ⟨column, -, astray⟩ := Traced.bind_result_eq_error.mp astray
        · rw [columnOf_result] at astray
          exact failed_ne_aborted _ astray
        · obtain astray | ⟨columns, -, astray⟩ := Traced.bind_result_eq_error.mp astray
          · exact ih specs rest astray
          · cases astray

theorem contentsOf_eq_aborted {fields : List Field}
    {first? : List (StorageType × Bool) → Ipc.Decoded (Option Ipc.RecordBatch)} :
    contentsOf fields first? = .error .aborted ↔
      ∃ schema storages, TableSchema.ofFile ⟨fields, ∅⟩ = .ok schema ∧
        fields.mapM storageOf = .ok storages ∧ Aborts (first? storages) := by
  unfold contentsOf
  constructor
  · intro astray
    obtain astray | ⟨schema, stands, astray⟩ := bind_eq_error.mp astray
    · exact absurd astray (failed_ne_aborted _)
    obtain astray | ⟨storages, stored, astray⟩ := bind_eq_error.mp astray
    · exact absurd astray (failed_ne_aborted _)
    refine ⟨schema, storages, mapError_eq_ok.mp stands, mapError_eq_ok.mp stored, ?_⟩
    obtain astray | ⟨batch?, -, astray⟩ := bind_eq_error.mp astray
    · exact mapError_ofFault_eq_aborted.mp astray
    cases batch? with
    | none => cases astray
    | some first =>
      obtain astray | ⟨columns, -, astray⟩ := bind_eq_error.mp astray
      · exact absurd astray (columnsOf_ne_aborted _ _ _)
      obtain astray | ⟨dictionaries, -, astray⟩ := bind_eq_error.mp astray
      · exact absurd astray (failed_ne_aborted _)
      · cases astray
  · rintro ⟨schema, storages, stands, stored, astray⟩
    refine bind_eq_error.mpr (.inr ⟨schema, mapError_eq_ok.mpr stands, ?_⟩)
    refine bind_eq_error.mpr (.inr ⟨storages, mapError_eq_ok.mpr stored, ?_⟩)
    exact bind_eq_error.mpr (.inl (mapError_ofFault_eq_aborted.mpr astray))

theorem contents_eq_aborted {bytes : Bytes} :
    (contents .full (Source.ofBytes bytes)).result = .error .aborted ↔ Confounds bytes := by
  cases opened : Ipc.FileReader.openSource .full (Source.ofBytes bytes) with
  | error fault =>
    have aborts : Aborts (Ipc.FileReader.openSource .full (Source.ofBytes bytes)) ↔
        fault = .aborted := by
      rw [Aborts, opened, Except.error.injEq]
    rw [contents_of_unopened opened, Except.error.injEq, ofFault_eq_aborted, ← aborts,
      Ipc.FileReader.aborts_openSource]
    constructor
    · rintro ⟨footer, reads, read, listed, astray⟩
      exact .footer read listed astray
    · intro confounds
      cases confounds with
      | footer read listed astray => exact ⟨_, _, read, listed, astray⟩
      | batch opened' => cases opened.symm.trans opened'
  | ok reader =>
    have source := Ipc.FileReader.decodes_openSource bytes .full
    rw [opened] at source
    rw [contents_result opened, contentsOf_eq_aborted]
    constructor
    · rintro ⟨schema, storages, stands, stored, astray⟩
      obtain ⟨block, first, astray⟩ := (Ipc.FileReader.aborts_firstBatch? source).mp astray
      exact .batch opened stands stored first astray
    · intro confounds
      cases confounds with
      | footer read listed astray =>
        have aborts := Ipc.FileReader.aborts_openSource.mpr ⟨_, _, read, listed, astray⟩
        cases opened.symm.trans aborts
      | batch opened' stands stored first astray =>
        obtain rfl := Except.ok.inj (opened.symm.trans opened')
        have aborts := (Ipc.FileReader.aborts_firstBatch? source).mpr ⟨_, first, astray⟩
        exact ⟨_, _, stands, stored, aborts⟩

/-- A read of bytes is answered, with a column batch or an error, exactly if the file does not confound
its reader; otherwise it aborts, and leaves the arena as it was. An allocator that refuses a block below
`Ipc.maxBlockLength` is no part of this. -/
theorem readBytes_answers_iff [Footprint Column] (bytes : Bytes) (arena : ColumnArena) :
    let outcome := readBytes bytes arena
    (((∃ batch, outcome.result = .ok batch) ∨ ∃ cause, outcome.result = .error (.failed cause)) ↔
      ¬Confounds bytes) ∧
    (Confounds bytes → outcome.result = .error .aborted ∧ outcome.arena = arena) := by
  intro outcome
  have aborted (confounds : Confounds bytes) :
      outcome.result = .error .aborted ∧ outcome.arena = arena :=
    readWithin_of_failed (contents_eq_aborted.mpr confounds)
  refine ⟨⟨?_, ?_⟩, aborted⟩
  · rintro (⟨batch, ok⟩ | ⟨cause, failed⟩) confounds
    · cases (aborted confounds).1.symm.trans ok
    · cases (aborted confounds).1.symm.trans failed
  · intro sound
    cases read : (contents .full (Source.ofBytes bytes)).result with
    | error failure =>
      have failed := (@readWithin_of_failed _ _ _ arena _ read).1
      cases failure with
      | failed cause => exact .inr ⟨cause, failed⟩
      | aborted => exact absurd (contents_eq_aborted.mp read) sound
    | ok found =>
      by_cases full : arena.room < Arena.totalFootprint found.columns
      · exact .inr ⟨_, (readWithin_of_full read full).1⟩
      · exact .inl ⟨_, (readWithin_of_contents read (UInt64.not_lt.mp full)).1⟩

/-- A footer that lists no batches and has no schema. -/
def unlabelledFooter : Bytes :=
  [16, 0, 0, 0, 12, 0, 8, 0, 0, 0, 0, 0, 0, 0, 4, 0, 12, 0, 0, 0, 4, 0, 0, 0, 0, 0, 0, 0]

def unlabelledFile : Bytes :=
  unlabelledFooter ++ Ipc.trailerFor unlabelledFooter.length

private theorem footerOf_unlabelledFile :
    Ipc.footerOf .full (Source.ofBytes unlabelledFile) = .ok (⟨0, none, none, some [], none⟩, 2) := by
  have trailer : Ipc.readPart (Source.ofBytes unlabelledFile) (28 : Nat) 10 0 =
      .ok (Ipc.trailerFor 28, 1) := Ipc.readPart_ofBytes 28 10 0
  have footer : Ipc.readPart (Source.ofBytes unlabelledFile) (0 : Nat) 28 1 =
      .ok (unlabelledFooter, 2) := Ipc.readPart_ofBytes 0 28 1
  have length : Ipc.footerLength (Ipc.trailerFor 28) = .ok 28 := rfl
  have found : Ipc.Footer.ofBytes? .full unlabelledFooter = some ⟨0, none, none, some [], none⟩ := rfl
  unfold Ipc.footerOf
  apply bind_eq_ok.mpr
  refine ⟨_, trailer, ?_⟩
  apply bind_eq_ok.mpr
  refine ⟨_, length, ?_⟩
  apply bind_eq_ok.mpr
  refine ⟨_, footer, ?_⟩
  dsimp only
  rw [found]

open NominalFootprint in
theorem readBytes_unlabelledFile :
    (readBytes unlabelledFile (Arena.new 0 1024)).result = .error .aborted := by
  have confounds : Confounds unlabelledFile := .footer footerOf_unlabelledFile rfl (.unlabelled rfl)
  exact (readWithin_of_failed (contents_eq_aborted.mpr confounds)).1

end TableFile

end Columnar
