import Columnar.Proofs.Ipc.ArrayAborts
import Columnar.Proofs.Ipc.Locality

/-!
When opening a file aborts, and when reading its first batch does. Trailer and footer are either read or
refused (`not_aborts_footerOf`); what the footer says can confound the reader
(`FileReader.aborts_openSource`), and so can the dictionaries and the block of the first batch
(`FileReader.aborts_firstBatch?`).
-/
namespace Columnar.Ipc

open Flatbuffer (Budget)

section Blocks

variable {content : Bytes} {budget : Budget} {version : Int}

private theorem not_aborts_io {α : Type} (result : Except IoError α) :
    ¬Aborts (result.mapError fun cause => Fault.rejected (.io cause)) := by
  cases result with
  | error cause => exact aborts_rejected _
  | ok value => exact aborts_ok value

private theorem not_aborts_readPart (source : Source) (offset : Int) (length reads : Nat) :
    ¬Aborts (readPart source offset length reads) :=
  not_aborts_io _

private theorem not_aborts_footerLength (trailer : Bytes) : ¬Aborts (footerLength trailer) := by
  unfold footerLength
  split
  · exact aborts_rejected _
  · dsimp only
    split
    · exact aborts_rejected _
    · exact aborts_ok _

private theorem not_aborts_footerOf (budget : Budget) (source : Source) :
    ¬Aborts (footerOf budget source) := by
  intro astray
  obtain astray | ⟨⟨trailer, reads⟩, -, astray⟩ := aborts_bind.mp astray
  · exact not_aborts_readPart _ _ _ _ astray
  obtain astray | ⟨length, -, astray⟩ := aborts_bind.mp astray
  · exact not_aborts_footerLength _ astray
  obtain astray | ⟨⟨bytes, reads⟩, -, astray⟩ := aborts_bind.mp astray
  · exact not_aborts_readPart _ _ _ _ astray
  dsimp only at astray
  split at astray
  · exact aborts_undecodable astray
  · exact aborts_ok _ astray

/-- Whether the lengths of a block confound its reader: one is negative, or they are too great for any
memory. -/
def FileBlock.Confounds (block : FileBlock) : Prop :=
  block.bodyLength < 0 ∨ block.metadataLength < 0 ∨
    maxBlockLength < block.bodyLength.toNat + block.metadataLength.toNat

theorem aborts_readBlock {block : FileBlock} {reads : Nat} :
    Aborts (readBlock (Source.ofBytes content) block reads) ↔ block.Confounds := by
  have placed : ¬(toWord block.offset : Int) < 0 := by omega
  unfold readBlock FileBlock.Confounds
  rw [seek_ofBytes, if_neg placed]
  dsimp only [Except.mapError]
  rw [ok_bind]
  simp only [aborts_insist_bind, not_aborts_readPart, Bool.and_eq_true, decide_eq_true_eq, imp_false]
  omega

def FileBlock.bytes? (content : Bytes) (block : FileBlock) : Option Bytes :=
  content.slice? block.place.1 block.place.2

theorem readPart_ofBytes (offset length reads : Nat) :
    readPart (Source.ofBytes content) offset length reads =
      match content.slice? offset length with
      | some bytes => .ok (bytes, if length = 0 then reads else reads + 1)
      | none => .error (.rejected (.io Source.ended)) := by
  unfold readPart
  rw [Source.block_ofBytes]
  split
  case isTrue nothing =>
    rw [nothing]
    rfl
  case isFalse => cases content.slice? offset length <;> rfl

private theorem readBlock_eq {block : FileBlock} (sound : ¬block.Confounds) (reads : Nat) :
    readBlock (Source.ofBytes content) block reads =
      readPart (Source.ofBytes content) block.place.1 block.place.2 reads := by
  unfold FileBlock.Confounds at sound
  have placed : ¬(toWord block.offset : Int) < 0 := by omega
  have signs : (0 ≤ block.bodyLength && 0 ≤ block.metadataLength) = true := by
    rw [Bool.and_eq_true, decide_eq_true_eq, decide_eq_true_eq]
    omega
  have size : decide (block.bodyLength.toNat + block.metadataLength.toNat ≤ maxBlockLength) = true := by
    rw [decide_eq_true_eq]
    omega
  unfold readBlock
  rw [seek_ofBytes, if_neg placed, signs]
  dsimp only [Except.mapError]
  rw [ok_bind]
  dsimp only [insist]
  rw [size]
  rfl

private theorem exists_readBlock_eq_ok {block : FileBlock} (sound : ¬block.Confounds) {bytes : Bytes}
    (reads : Nat) : (∃ later, readBlock (Source.ofBytes content) block reads = .ok (bytes, later)) ↔
      block.bytes? content = some bytes := by
  unfold FileBlock.bytes?
  rw [readBlock_eq sound, readPart_ofBytes]
  cases content.slice? block.place.1 block.place.2 <;> simp

private theorem bytes?_of_readBlock {block : FileBlock} {bytes : Bytes} {reads later : Nat}
    (read : readBlock (Source.ofBytes content) block reads = .ok (bytes, later)) :
    block.bytes? content = some bytes := by
  have sound : ¬block.Confounds := by
    intro astray
    cases read.symm.trans (aborts_readBlock.mpr astray)
  exact (exists_readBlock_eq_ok sound reads).mp ⟨later, read⟩

/-- Whether the bytes of a block confound its reader: they end before the message, or in the length that
stands before it. -/
def PrefixConfounds (bytes : Bytes) : Prop :=
  bytes.length < 4 ∨ bytes.take 4 = continuation ∧ bytes.length < 8

private theorem not_aborts_checkedMessage (version : Int) (found : Option Message) :
    ¬Aborts (match found with
      | none => undecodable
      | some message => do
        accept (version = 0 || message.version = version)
        .ok message) := by
  cases found with
  | none => exact aborts_undecodable
  | some message =>
    rw [aborts_bind_ok]
    exact not_aborts_accept _

theorem aborts_messageOf {bytes : Bytes} :
    Aborts (messageOf budget version bytes) ↔ PrefixConfounds bytes := by
  unfold messageOf PrefixConfounds
  simp only [aborts_insist_bind, decide_eq_true_eq]
  generalize size : (if bytes.take 4 = continuation then 8 else 4) = skipped
  have answered := not_aborts_checkedMessage version (Message.ofBytes? budget (bytes.drop skipped))
  constructor
  · intro astray
    by_contra enough
    rw [not_or, not_and, Nat.not_lt] at enough
    apply answered
    apply astray enough.1
    split at size
    case isTrue marked => exact size ▸ Nat.not_lt.mp (enough.2 marked)
    case isFalse => exact size ▸ enough.1
  · rintro (short | ⟨marked, short⟩) enough whole
    · omega
    · rw [if_pos marked] at size
      omega

end Blocks

section Dictionaries

variable {content : Bytes} {budget : Budget} {schema : FileSchema} {version : Int}

/-- Whether the values of a dictionary confound their reader: by their array, or by counts of buffers that
no array has. -/
inductive RecordBatchTable.ValuesConfound (table : RecordBatchTable) (version : Int) (start : Nat)
    (bytes : Bytes) (type : DataType) (dictionaries : List DictionaryValues) : Prop
  | array {supply : Supply} {codec : Option Int} (supplied : table.supply = .ok (supply, codec))
    (astray : BatchBody.ArrayConfounds ⟨version, codec, start, bytes, dictionaries⟩ 0 type supply)
  | left {supply left : Supply} {codec : Option Int} {shape : ArrayShape}
    (supplied : table.supply = .ok (supply, codec))
    (read : BatchBody.array ⟨version, codec, start, bytes, dictionaries⟩ 0 type supply =
      .ok (shape, left))
    (counts : left.variadicCounts ≠ [])

theorem aborts_dictionaryValues {table : RecordBatchTable} {start : Nat} {bytes : Bytes}
    {type : DataType} {dictionaries : List DictionaryValues} :
    Aborts (table.dictionaryValues version start bytes type dictionaries) ↔
      table.ValuesConfound version start bytes type dictionaries := by
  unfold RecordBatchTable.dictionaryValues
  rw [aborts_bind]
  constructor
  · rintro (astray | ⟨⟨supply, codec⟩, supplied, later⟩)
    · exact absurd astray (not_aborts_supply table)
    · obtain astray | ⟨⟨shape, left⟩, read, later⟩ := aborts_bind.mp later
      · exact .array supplied (BatchBody.aborts_array.mp astray)
      · apply RecordBatchTable.ValuesConfound.left supplied read
        intro none
        have refused := aborts_insist_bind.mp later (List.isEmpty_iff.mpr none)
        exact aborts_ok _ (aborts_accept_bind.mp refused).2
  · rintro (⟨supplied, astray⟩ | ⟨supplied, read, counts⟩)
    · exact .inr ⟨_, supplied, (BatchBody.aborts_array.mpr astray).bind⟩
    · refine .inr ⟨_, supplied, .after read ?_⟩
      apply aborts_insist_bind.mpr
      intro none
      exact absurd (List.isEmpty_iff.mp none) counts

/-- Whether the block of a dictionary confounds its reader: before its message, or by its values, which
may be missing. -/
inductive DictionaryConfounds (budget : Budget) (schema : FileSchema) (version : Int)
    (block : FileBlock) (bytes : Bytes) (dictionaries : List DictionaryValues) : Prop
  | start (short : PrefixConfounds bytes)
  | values {message : Message} {batch : DictionaryBatchTable} {type : DataType}
    (read : messageOf budget version bytes = .ok message)
    (header : message.header = .dictionaryBatch batch) (whole : batch.isDelta = false)
    (known : dictionaryType? schema batch.id = some type)
    (astray : ∀ table ∈ batch.data, table.ValuesConfound message.version block.metadataLength.toNat
      (bytes.drop block.metadataLength.toNat) type dictionaries)

theorem aborts_dictionaryOf {block : FileBlock} {bytes : Bytes}
    {dictionaries : List DictionaryValues} :
    Aborts (dictionaryOf budget schema version block bytes dictionaries) ↔
      DictionaryConfounds budget schema version block bytes dictionaries := by
  unfold dictionaryOf
  rw [aborts_bind, aborts_messageOf]
  constructor
  · rintro (short | ⟨message, read, astray⟩)
    · exact .start short
    · split at astray
      case h_2 => exact absurd astray aborts_undecodable
      case h_1 batch header =>
        obtain ⟨whole, astray⟩ := aborts_accept_bind.mp astray
        rw [Bool.not_eq_true'] at whole
        dsimp only at astray
        split at astray
        case h_1 => exact absurd astray aborts_undecodable
        case h_2 type known =>
          apply DictionaryConfounds.values read header whole known
          intro table data
          have values := aborts_demand_bind.mp astray table data
          exact aborts_dictionaryValues.mp (aborts_bind_ok.mp values)
  · rintro (short | ⟨read, header, whole, known, astray⟩)
    · exact .inl short
    · refine .inr ⟨_, read, ?_⟩
      rw [header]
      dsimp only
      rw [aborts_accept_bind, known, whole]
      refine ⟨rfl, aborts_demand_bind.mpr ?_⟩
      intro table data
      exact aborts_bind_ok.mpr (aborts_dictionaryValues.mpr (astray table data))

/-- Whether the blocks of dictionaries confound their reader, some dictionaries having been read: the
lengths of the first do, or its dictionary, or a later block once that dictionary is read as well. -/
inductive DictionariesConfound (content : Bytes) (budget : Budget) (schema : FileSchema)
    (version : Int) : List FileBlock → List DictionaryValues → Prop
  | lengths {block : FileBlock} {rest : List FileBlock} {dictionaries : List DictionaryValues}
    (astray : block.Confounds) :
    DictionariesConfound content budget schema version (block :: rest) dictionaries
  | first {block : FileBlock} {rest : List FileBlock} {dictionaries : List DictionaryValues}
    {bytes : Bytes} (lies : block.bytes? content = some bytes)
    (astray : DictionaryConfounds budget schema version block bytes dictionaries) :
    DictionariesConfound content budget schema version (block :: rest) dictionaries
  | later {block : FileBlock} {rest : List FileBlock} {dictionaries : List DictionaryValues}
    {bytes : Bytes} {dictionary : DictionaryValues} (lies : block.bytes? content = some bytes)
    (found : dictionaryOf budget schema version block bytes dictionaries = .ok dictionary)
    (astray : DictionariesConfound content budget schema version rest (dictionary :: dictionaries)) :
    DictionariesConfound content budget schema version (block :: rest) dictionaries

theorem aborts_readDictionaries {blocks : List FileBlock} {dictionaries : List DictionaryValues}
    {reads : Nat} :
    Aborts (readDictionaries (Source.ofBytes content) budget schema version blocks dictionaries
      reads) ↔ DictionariesConfound content budget schema version blocks dictionaries := by
  induction blocks generalizing dictionaries reads with
  | nil => exact iff_of_false (aborts_ok _) nofun
  | cons block rest ih =>
    rw [readDictionaries, aborts_bind, aborts_readBlock]
    constructor
    · rintro (astray | ⟨⟨bytes, later⟩, read, astray⟩)
      · exact .lengths astray
      · have lies := bytes?_of_readBlock read
        obtain astray | ⟨dictionary, found, astray⟩ := aborts_bind.mp astray
        · exact .first lies (aborts_dictionaryOf.mp astray)
        · exact .later lies found (ih.mp astray)
    · intro astray
      by_cases sound : block.Confounds
      · exact .inl sound
      · cases astray with
        | lengths astray => exact .inl astray
        | first lies astray =>
          obtain ⟨later, read⟩ := (exists_readBlock_eq_ok sound reads).mpr lies
          exact .inr ⟨_, read, (aborts_dictionaryOf.mpr astray).bind⟩
        | later lies found astray =>
          obtain ⟨later, read⟩ := (exists_readBlock_eq_ok sound reads).mpr lies
          exact .inr ⟨_, read, .after found (ih.mpr astray)⟩

end Dictionaries

section Files

variable {content : Bytes} {budget : Budget}

/-- Whether a footer confounds the reader of a file: for want of a schema, by a schema that stands for no
fields, by an entry of metadata without a key or a value, or by the dictionaries it lists. -/
inductive Footer.Confounds (content : Bytes) (budget : Budget) (footer : Footer) : Prop
  | unlabelled (absent : footer.schema = none)
  | fields {table : SchemaTable} (given : footer.schema = some table) (order : table.endianness = 0)
    (none : table.toSchema? = none)
  | metadata {table : SchemaTable} (given : footer.schema = some table)
    (order : table.endianness = 0) (lacking : footer.metadata.all complete = false)
  | dictionaries {table : SchemaTable} {schema : FileSchema} (given : footer.schema = some table)
    (order : table.endianness = 0) (stands : table.toSchema? = some schema)
    (astray : DictionariesConfound content budget schema footer.version
      (footer.dictionaries.getD []) [])

namespace FileReader

theorem aborts_ofFooter {footer : Footer} {batches : List FileBlock} {reads : Nat}
    (listed : footer.recordBatches = some batches) :
    Aborts (ofFooter budget (Source.ofBytes content) footer reads) ↔
      footer.Confounds content budget := by
  unfold ofFooter
  rw [listed]
  dsimp only
  rw [aborts_demand_bind]
  constructor
  · intro astray
    cases given : footer.schema with
    | none => exact .unlabelled given
    | some table =>
      obtain ⟨order, astray⟩ := aborts_accept_bind.mp (astray table given)
      rw [decide_eq_true_eq] at order
      rw [aborts_demand_bind] at astray
      cases stands : table.toSchema? with
      | none => exact .fields given order stands
      | some schema =>
        have whole := aborts_insist_bind.mp (astray schema stands)
        cases entries : footer.metadata.all complete with
        | false => exact .metadata given order entries
        | true =>
          apply Footer.Confounds.dictionaries given order stands
          exact aborts_readDictionaries.mp (aborts_bind_ok.mp (whole entries))
  · intro confounds table given
    cases confounds with
    | unlabelled absent => cases absent.symm.trans given
    | fields given' order none =>
      cases given.symm.trans given'
      rw [aborts_accept_bind, order, none]
      exact ⟨rfl, rfl⟩
    | metadata given' order lacking =>
      cases given.symm.trans given'
      rw [aborts_accept_bind, order, aborts_demand_bind, lacking]
      refine ⟨rfl, fun _ _ => rfl⟩
    | dictionaries given' order stands astray =>
      cases given.symm.trans given'
      rw [aborts_accept_bind, order, aborts_demand_bind, stands]
      refine ⟨rfl, ?_⟩
      rintro _ ⟨⟩
      apply aborts_insist_bind.mpr
      intro _
      exact aborts_bind_ok.mpr (aborts_readDictionaries.mpr astray)

theorem aborts_openSource :
    Aborts (openSource budget (Source.ofBytes content)) ↔
      ∃ footer reads, footerOf budget (Source.ofBytes content) = .ok (footer, reads) ∧
        footer.recordBatches.isSome ∧ footer.Confounds content budget := by
  rw [openSource_eq, aborts_bind]
  constructor
  · rintro (astray | ⟨⟨footer, reads⟩, read, astray⟩)
    · exact absurd astray (not_aborts_footerOf _ _)
    · cases listed : footer.recordBatches with
      | none =>
        unfold ofFooter at astray
        dsimp only at astray
        rw [listed] at astray
        exact absurd astray aborts_undecodable
      | some batches =>
        refine ⟨footer, reads, read, ?_, (aborts_ofFooter listed).mp astray⟩
        rw [listed]
        rfl
  · rintro ⟨footer, reads, read, listed, confounds⟩
    obtain ⟨batches, listed⟩ := Option.isSome_iff_exists.mp listed
    exact .inr ⟨_, read, (aborts_ofFooter listed).mpr confounds⟩

end FileReader

/-- Whether the block of a record batch confounds its reader: by its lengths, before its message, or by
its batch. -/
inductive BatchConfounds (content : Bytes) (budget : Budget) (version : Int)
    (fields : List (StorageType × Bool)) (block : FileBlock) : Prop
  | lengths (astray : block.Confounds)
  | start {bytes : Bytes} (lies : block.bytes? content = some bytes) (short : PrefixConfounds bytes)
  | batch {bytes : Bytes} {message : Message} {table : RecordBatchTable}
    (lies : block.bytes? content = some bytes)
    (read : messageOf budget version bytes = .ok message)
    (header : message.header = .recordBatch table)
    (astray : table.Confounds fields (bytes.drop block.metadataLength.toNat))

namespace FileReader

variable {reader : FileReader} (source : reader.source = Source.ofBytes content)
  {fields : List (StorageType × Bool)}

include source

theorem aborts_batch? {block : FileBlock} :
    Aborts (reader.batch? fields block) ↔
      BatchConfounds content reader.budget reader.version fields block := by
  unfold batch?
  rw [source, aborts_bind, aborts_readBlock]
  constructor
  · rintro (astray | ⟨⟨bytes, later⟩, read, astray⟩)
    · exact .lengths astray
    · have lies := bytes?_of_readBlock read
      obtain astray | ⟨message, decoded, astray⟩ := aborts_bind.mp astray
      · exact .start lies (aborts_messageOf.mp astray)
      · split at astray
        case h_1 table header =>
          exact .batch lies decoded header (aborts_batch.mp (aborts_bind_ok.mp astray))
        case h_2 => exact absurd astray (aborts_ok _)
        case h_3 => exact absurd astray aborts_undecodable
  · intro astray
    by_cases sound : block.Confounds
    · exact .inl sound
    · right
      cases astray with
      | lengths astray => exact absurd astray sound
      | start lies short =>
        obtain ⟨later, read⟩ := (exists_readBlock_eq_ok sound reader.reads).mpr lies
        exact ⟨_, read, (aborts_messageOf.mpr short).bind⟩
      | batch lies decoded header astray =>
        obtain ⟨later, read⟩ := (exists_readBlock_eq_ok sound reader.reads).mpr lies
        refine ⟨_, read, .after decoded ?_⟩
        rw [header]
        exact aborts_bind_ok.mpr (aborts_batch.mpr astray)

theorem aborts_firstBatch? :
    Aborts (reader.firstBatch? fields) ↔ ∃ block, reader.batches.head? = some block ∧
      BatchConfounds content reader.budget reader.version fields block := by
  unfold firstBatch?
  cases reader.batches with
  | nil => simp
  | cons block rest => simp [aborts_batch? source]

end FileReader

end Files

end Columnar.Ipc
