import Columnar.Proofs.Dictionary.Annotation
import Columnar.Proofs.TableFile.Unhinted

/-!
The encodings of a written file. Its fields are those the provider has annotated (`Settled.toField_fields`),
so that whoever reads them comes to the same encodings on his own, with or without type hints, and
whatever the columns declare.
-/
namespace Columnar.TableFile

open DictionaryEncoding (declared)

theorem declared_plainFields (schema : TableSchema) (typeHints : Bool) :
    (plainFields schema typeHints).map declared = schema.fields.map declared := by
  rw [plainFields]
  split
  case isTrue => rfl
  case isFalse =>
    rw [List.map_map]
    apply List.map_congr_left
    intro field _
    exact field.declared_withoutHint

section Settled

variable [Footprint Column] {batch : RowBatch} {options : WriteOptions} {writer : ColumnArena}
  {settled : Plan} (ready : Settled writer batch options settled)

include ready

theorem Settled.toField_fields :
    settled.contents.fields.map Ipc.WrittenField.toField =
      settled.dictionaries.annotateFields (plainFields batch.schema options.typeHints) := by
  rw [ready.contents]
  apply List.ext_getElem?
  intro index
  rw [List.getElem?_map, List.getElem?_zipWith, DictionaryProvider.annotateFields_getElem?]
  cases own : (plainFields batch.schema options.typeHints)[index]? with
  | none => rfl
  | some field =>
    obtain ⟨spec, kept, form⟩ := plain_of_plainFields own
    have inside : index < settled.columns.length := by
      rw [ready.fills.1]
      exact (List.getElem?_eq_some_iff.mp kept).1
    have placed := List.getElem?_eq_getElem inside
    rw [← (ready.fills.2 index spec _ kept placed).type] at form
    rw [placed, Option.map_some, Option.map_some]
    unfold DictionaryProvider.mark
    cases settled.dictionaries.forColumn? index with
    | some entry => exact congrArg some (toField_writtenField form _ _)
    | none =>
      apply congrArg some
      rw [form]
      rfl

private theorem Settled.build_toField :
    DictionaryProvider.build settled.columns
      (settled.contents.fields.map Ipc.WrittenField.toField) = .ok settled.dictionaries := by
  rw [ready.toField_fields]
  exact DictionaryProvider.build_annotateFields ready.dictionaries

variable {budget : Flatbuffer.Budget} (covered : settled.contents.Covered budget)

include covered

/-- Whatever is read of the file has the encodings that were written. -/
theorem Settled.encodings_of_contents {found : Contents}
    (read : (TableFile.contents budget (Source.ofBytes settled.contents.bytes)).result = .ok found) :
    found.dictionaries.encodings = settled.dictionaries.encodings := by
  obtain ⟨reads, opened⟩ := Ipc.FileContents.openSource_bytes covered
  obtain ⟨reader, storages, first, off⟩ := exists_readOff read
  obtain rfl := Except.ok.inj (opened.symm.trans off.opened)
  obtain ⟨_, built⟩ := DictionaryProvider.built_of_build off.encoded
  obtain ⟨_, built'⟩ := DictionaryProvider.built_of_build ready.build_toField
  apply DictionaryProvider.encodings_eq_of_build _ rfl off.encoded ready.build_toField
  exact built.width.trans built'.width.symm

omit covered in
private theorem Settled.exists_holds
    (texts : ∀ position < batch.schema.width, batch.payload position < 2 ^ 31) :
    ∃ (schema : TableSchema) (f : Column → Column),
      Holds schema (settled.columns.map f) settled.contents := by
  cases hints : options.typeHints with
  | true =>
    refine ⟨batch.schema, id, ?_⟩
    rw [List.map_id]
    exact ready.holds hints texts
  | false =>
    refine ⟨batch.erased.schema, Column.erased, ?_⟩
    rw [ready.columns_eq, ← batch.columns_erased]
    exact ready.holds_erased hints texts

private theorem Settled.exists_contents
    (texts : ∀ position < batch.schema.width, batch.payload position < 2 ^ 31) :
    ∃ found, (TableFile.contents budget (Source.ofBytes settled.contents.bytes)).result = .ok found := by
  obtain ⟨schema, f, holds⟩ := ready.exists_holds texts
  have built := DictionaryProvider.build_mapColumns f settled.columns
    (settled.contents.fields.map Ipc.WrittenField.toField)
  rw [ready.build_toField] at built
  exact ⟨_, contents_of_built holds covered built⟩

end Settled

private theorem build_of_ofRows [Footprint Column] {batch : RowBatch} {arena : ColumnArena}
    {placed : ColumnBatch} (ok : (ColumnBatch.ofRows batch arena).result = .ok placed) :
    DictionaryProvider.build batch.columns batch.schema.fields = .ok placed.dictionaries := by
  by_cases full : arena.room < batch.footprint
  · rw [(ColumnBatch.ofRows_of_lt full).1] at ok
    cases ok
  · rw [(ColumnBatch.ofRows_of_le (UInt64.not_lt.mp full)).1] at ok
    obtain ⟨dictionaries, built, same⟩ := bind_eq_ok.mp ok
    obtain rfl := Except.ok.inj same
    exact mapError_eq_ok.mp built

/-- Annotating leaves the encodings as they are. Whatever fields a provider was built for, it is built
again of the fields it has annotated; annotating them a second time changes nothing, and the first time
nothing but the dictionary keys. And so the provider of rows that were placed and that of the file
written for them, as it is read, have the same entries. The columns may count for something else in each
of the three arenas. -/
theorem encodings_survive_annotation :
    (∀ (columns : List Column) (fields : List Field) (provider : DictionaryProvider),
      DictionaryProvider.build columns fields = .ok provider →
        DictionaryProvider.build columns (provider.annotateFields fields) = .ok provider ∧
          provider.annotateFields (provider.annotateFields fields) = provider.annotateFields fields ∧
          List.Forall₂ Field.Marks fields (provider.annotateFields fields)) ∧
    ∀ (batch : RowBatch) (options : WriteOptions) (placed : ColumnBatch),
      (∃ (_ : Footprint Column) (placing : ColumnArena),
        (ColumnBatch.ofRows batch placing).result = .ok placed) →
      ∀ [Footprint Column] (writer : ColumnArena), options.alignment ∈ WriteOptions.alignments →
        batch.footprint ≤ writer.room →
        let written := writeBytes writer batch options
        ∃ settled, Settled writer batch options settled ∧
          written.result = .ok (writer.nextHandles batch.schema.width) ∧
          written.sink = settled.contents.bytes ∧
          ∀ budget, settled.contents.Covered budget → ∀ [Footprint Column] (reader : ColumnArena),
            let outcome := readWithin budget (Source.ofBytes written.sink) reader
            (∀ read, outcome.result = .ok read →
              read.dictionaries.encodings = placed.dictionaries.encodings) ∧
            ((∀ position < batch.schema.width, batch.payload position < 2 ^ 31) →
              Roomy outcome → ∃ read, outcome.result = .ok read) := by
  constructor
  · intro columns fields provider built
    exact ⟨DictionaryProvider.build_annotateFields built, provider.annotateFields_annotateFields fields,
      provider.marks_annotateFields fields⟩
  · intro batch options placed made
    obtain ⟨_, placing, ok⟩ := made
    have own := build_of_ofRows ok
    rw [← DictionaryProvider.build_congr (declared_plainFields batch.schema options.typeHints)] at own
    intro _ writer aligned room
    obtain ⟨settled, ready, same⟩ := exists_settled_of_built aligned room own
    have sink := ready.writeBytes_sink
    refine ⟨settled, ready, ready.writeBytes_result room, sink, ?_⟩
    intro budget covered
    have kept (found : Contents) := @Settled.encodings_of_contents _ _ _ _ _ ready _ covered found
    have readable := ready.exists_contents covered
    intro _ reader
    rw [sink, ← same]
    refine ⟨?_, fun texts roomy => ?_⟩
    · intro read ok'
      obtain ⟨found, read', -, rfl⟩ := readWithin_eq_ok.mp ok'
      exact kept found read'
    · obtain ⟨found, read⟩ := readable texts
      exact ⟨_, (readWithin_of_contents read (roomy.room read)).1⟩

open NominalFootprint in
/-- The categories of `twins` declare the id 7; the other column is given its position. -/
theorem encodings_twins :
    let arena : ColumnArena := Arena.new 0 Arena.unlimited
    ∃ placed read, (ColumnBatch.ofRows twins arena).result = .ok placed ∧
      (readBytes twinsFile arena).result = .ok read ∧
      read.dictionaries.encodings = placed.dictionaries.encodings := by
  intro arena
  have room : twins.footprint ≤ arena.room := Arena.le_room_unlimited 0 twins.footprint
  have texts : ∀ position < twins.schema.width, twins.payload position < 2 ^ 31 := by decide +kernel
  obtain ⟨dictionaries, built⟩ := (DictionaryProvider.build_of_stands twins.schema.stands_fields
    twins.length_columns).1 (by decide) (by decide)
  have made := (ColumnBatch.ofRows_of_le room).1
  rw [built] at made
  obtain ⟨settled, ready, -, -, reads⟩ := encodings_survive_annotation.2 twins .standard _
    ⟨_, arena, made⟩ arena (by decide) room
  obtain ⟨settled', ready', within, -⟩ := exists_settled_twins
  obtain rfl := Except.ok.inj ((plan_eq_ok.mpr ready').symm.trans (plan_eq_ok.mpr ready))
  obtain ⟨same, readable⟩ := reads .full within.toCovered arena
  obtain ⟨dictionaries', found⟩ := contents_twinsFile
  have ok := (readWithin_of_contents found room).1
  obtain ⟨read, ok⟩ := readable texts fun cause refused => nomatch refused.symm.trans ok
  exact ⟨_, read, made, ok, same read ok⟩

end Columnar.TableFile
