import Columnar.Proofs.Ipc.File
import Columnar.Proofs.Ipc.FileFaults

/-!
What a reader looks at of a file (`lookedAt`): the trailer, the footer, and the blocks of the
dictionaries and of the first record batch. Files of one length that are the same there open alike
(`openSource_congr`) and have the same first batch (`firstBatch?_congr`), whatever else they hold.
-/
namespace Columnar.Ipc

open Flatbuffer (Budget)

def FileBlock.place (block : FileBlock) : Nat × Nat :=
  (toWord block.offset, block.bodyLength.toNat + block.metadataLength.toNat)

/-- The blocks that a footer makes a reader look at. -/
def Footer.lookedAt (footer : Footer) : List FileBlock :=
  footer.dictionaries.getD [] ++ (footer.recordBatches.getD []).take 1

/-- The places of a file that a reader looks at. -/
def lookedAt (budget : Budget) (bytes : Bytes) : List (Nat × Nat) :=
  let trailer := bytes.length - trailerLength
  (trailer, trailerLength) ::
    match footerLength (bytes.slice trailer trailerLength) with
    | .error _ => []
    | .ok length =>
      (trailer - length, length) ::
        match Footer.ofBytes? budget (bytes.slice (trailer - length) length) with
        | none => []
        | some footer => footer.lookedAt.map FileBlock.place

/-- Whether two files have the same bytes at a place. -/
def SameAt (bytes bytes' : Bytes) (place : Nat × Nat) : Prop :=
  bytes'.slice place.1 place.2 = bytes.slice place.1 place.2

section Parts

variable {bytes bytes' : Bytes}

theorem readPart_congr {offset : Int} {length : Nat}
    (same : SameAt bytes bytes' (offset.toNat, length)) (reads : Nat) :
    readPart (Source.ofBytes bytes') offset length reads =
      readPart (Source.ofBytes bytes) offset length reads := by
  have cut : bytes'.slice? offset.toNat length = bytes.slice? offset.toNat length := by
    unfold SameAt at same
    unfold Bytes.slice?
    rw [same]
  unfold readPart Source.block
  rw [seek_ofBytes, seek_ofBytes]
  split
  case isTrue => rfl
  case isFalse => rw [ok_bind, ok_bind, Source.pull_ofBytes, Source.pull_ofBytes, cut]

private theorem eq_slice_of_readPart {offset : Int} {length reads later : Nat} {part : Bytes}
    (read : readPart (Source.ofBytes bytes) offset length reads = .ok (part, later)) :
    part = bytes.slice offset.toNat length := by
  unfold readPart Source.block at read
  rw [mapError_eq_ok, seek_ofBytes] at read
  split at read
  case isTrue => cases read
  case isFalse =>
    rw [ok_bind, Source.pull_ofBytes] at read
    split at read
    case isTrue nothing =>
      cases read
      rw [nothing]
      exact List.take_zero.symm
    case isFalse =>
      unfold Bytes.slice? at read
      dsimp only at read
      split at read
      case h_1 found =>
        split at found
        case isTrue =>
          cases read
          exact (Option.some.inj found).symm
        case isFalse => cases found
      case h_2 => cases read

theorem readBlock_congr {block : FileBlock} (same : SameAt bytes bytes' block.place) (reads : Nat) :
    readBlock (Source.ofBytes bytes') block reads = readBlock (Source.ofBytes bytes) block reads := by
  unfold readBlock
  rw [seek_ofBytes, seek_ofBytes]
  split
  case isTrue => rfl
  case isFalse =>
    have part := @readPart_congr bytes bytes' (toWord block.offset)
      (block.bodyLength.toNat + block.metadataLength.toNat) same reads
    dsimp only [Except.mapError]
    rw [ok_bind, ok_bind]
    dsimp only [Int.toNat_natCast] at part ⊢
    rw [part]

theorem readDictionaries_congr {budget : Budget} {schema : FileSchema} {version : Int}
    {blocks : List FileBlock} (same : ∀ block ∈ blocks, SameAt bytes bytes' block.place)
    (dictionaries : List DictionaryValues) (reads : Nat) :
    readDictionaries (Source.ofBytes bytes') budget schema version blocks dictionaries reads =
      readDictionaries (Source.ofBytes bytes) budget schema version blocks dictionaries reads := by
  induction blocks generalizing dictionaries reads with
  | nil => rfl
  | cons block rest ih =>
    obtain ⟨first, others⟩ := List.forall_mem_cons.mp same
    simp only [readDictionaries, readBlock_congr first, ih others]

end Parts

def footerOf (budget : Budget) (source : Source) : Decoded (Footer × Nat) := do
  let size := (source.content.length : Int)
  let (trailer, reads) ← readPart source (size - trailerLength) trailerLength 0
  let length ← footerLength trailer
  let (bytes, reads) ← readPart source (size - trailerLength - length) length reads
  match Footer.ofBytes? budget bytes with
  | none => undecodable
  | some footer => .ok (footer, reads)

/-- Opens a file that has a certain footer. -/
def FileReader.ofFooter (budget : Budget) (source : Source) (footer : Footer) (reads : Nat) :
    Decoded FileReader :=
  match footer.recordBatches with
  | none => undecodable
  | some batches => do
    let table ← demand footer.schema
    accept (table.endianness = 0)
    let schema ← demand table.toSchema?
    insist (footer.metadata.all complete)
    let reads ←
      readDictionaries source budget schema footer.version (footer.dictionaries.getD []) [] reads
    .ok ⟨source, budget, schema, footer.version, batches, reads⟩

theorem openSource_eq (budget : Budget) (source : Source) :
    FileReader.openSource budget source = (do
      let (footer, reads) ← footerOf budget source
      FileReader.ofFooter budget source footer reads) := by
  unfold FileReader.openSource footerOf
  simp only [bind_assoc]
  congr 1
  funext found
  congr 1
  funext length
  congr 1
  funext found
  cases Footer.ofBytes? budget found.1 <;> rfl

section Open

variable {budget : Budget} {bytes bytes' : Bytes}

private theorem toNat_size_sub (size length : Nat) : ((size : Int) - length).toNat = size - length := by
  omega

theorem trailer_mem_lookedAt :
    (((bytes.length : Int) - trailerLength).toNat, trailerLength) ∈ lookedAt budget bytes := by
  rw [toNat_size_sub]
  exact List.mem_cons_self

section Footer

variable {trailer : Bytes} {length reads : Nat}
  (read : readPart (Source.ofBytes bytes) ((bytes.length : Int) - trailerLength) trailerLength 0 =
    .ok (trailer, reads))
  (ended : footerLength trailer = .ok length)

include read ended

private theorem lookedAt_eq :
    lookedAt budget bytes =
      (bytes.length - trailerLength, trailerLength) ::
        (((bytes.length : Int) - trailerLength - length).toNat, length) ::
          match Footer.ofBytes? budget
            (bytes.slice ((bytes.length : Int) - trailerLength - length).toNat length) with
          | none => []
          | some footer => footer.lookedAt.map FileBlock.place := by
  have place : ((bytes.length : Int) - trailerLength - length).toNat =
    bytes.length - trailerLength - length := by omega
  rw [eq_slice_of_readPart read, toNat_size_sub] at ended
  unfold lookedAt
  dsimp only
  rw [ended, place]

end Footer

private theorem block_mem_lookedAt {footer : Footer} {reads : Nat} {block : FileBlock}
    (read : footerOf budget (Source.ofBytes bytes) = .ok (footer, reads))
    (member : block ∈ footer.lookedAt) : block.place ∈ lookedAt budget bytes := by
  obtain ⟨⟨trailer, _⟩, first, read⟩ := bind_eq_ok.mp read
  obtain ⟨length, ended, read⟩ := bind_eq_ok.mp read
  obtain ⟨⟨footerBytes, _⟩, second, read⟩ := bind_eq_ok.mp read
  have found : Footer.ofBytes? budget (bytes.slice
      ((bytes.length : Int) - trailerLength - length).toNat length) = some footer := by
    obtain rfl := eq_slice_of_readPart second
    dsimp only at read
    split at read
    case h_1 => cases read
    case h_2 own =>
      cases read
      exact own
  rw [lookedAt_eq first ended, found]
  apply List.mem_cons_of_mem
  apply List.mem_cons_of_mem
  exact List.mem_map_of_mem member

private theorem ofFooter_accepted {source : Source} {footer : Footer} {reads : Nat}
    {reader : FileReader} (opened : FileReader.ofFooter budget source footer reads = .ok reader) :
    reader.source = source ∧ footer.recordBatches = some reader.batches := by
  unfold FileReader.ofFooter at opened
  split at opened
  case h_1 => cases opened
  case h_2 batches listed =>
    obtain ⟨_, -, opened⟩ := bind_eq_ok.mp opened
    obtain ⟨_, -, opened⟩ := bind_eq_ok.mp opened
    obtain ⟨_, -, opened⟩ := bind_eq_ok.mp opened
    obtain ⟨_, -, opened⟩ := bind_eq_ok.mp opened
    obtain ⟨_, -, opened⟩ := bind_eq_ok.mp opened
    obtain rfl := Except.ok.inj opened
    exact ⟨rfl, listed⟩

variable (size : bytes'.length = bytes.length)
  (same : ∀ place ∈ lookedAt budget bytes, SameAt bytes bytes' place)

include size same

theorem footerOf_congr :
    footerOf budget (Source.ofBytes bytes') = footerOf budget (Source.ofBytes bytes) := by
  have length : (Source.ofBytes bytes').content.length = bytes.length := size
  have length' : (Source.ofBytes bytes).content.length = bytes.length := rfl
  unfold footerOf
  rw [length, length']
  dsimp only
  rw [readPart_congr (same _ trailer_mem_lookedAt)]
  apply bind_congr_of_ok
  rintro ⟨trailer, reads⟩ first
  apply bind_congr_of_ok
  intro length ended
  dsimp only
  rw [lookedAt_eq first ended] at same
  rw [readPart_congr (same _ (List.mem_cons_of_mem _ List.mem_cons_self))]

/-- A file that is the same where a reader looks opens as the other does. -/
theorem openSource_congr :
    FileReader.openSource budget (Source.ofBytes bytes') =
      (FileReader.openSource budget (Source.ofBytes bytes)).map
        fun reader => { reader with source := Source.ofBytes bytes' } := by
  rw [openSource_eq, openSource_eq, footerOf_congr size same, map_bind]
  apply bind_congr_of_ok
  rintro ⟨footer, reads⟩ read
  dsimp only
  unfold FileReader.ofFooter
  split
  case h_1 => rfl
  case h_2 batches _ =>
    have blocks : ∀ block ∈ footer.dictionaries.getD [], SameAt bytes bytes' block.place := by
      intro block member
      apply same
      apply block_mem_lookedAt read
      exact List.mem_append_left _ member
    simp only [readDictionaries_congr blocks, map_bind]
    rfl

omit size in
theorem firstBatch?_congr {reader : FileReader}
    (opened : FileReader.openSource budget (Source.ofBytes bytes) = .ok reader)
    (fields : List (StorageType × Bool)) :
    FileReader.firstBatch? { reader with source := Source.ofBytes bytes' } fields =
      reader.firstBatch? fields := by
  rw [openSource_eq] at opened
  obtain ⟨⟨footer, reads⟩, read, opened⟩ := bind_eq_ok.mp opened
  obtain ⟨source, listed⟩ := ofFooter_accepted opened
  unfold FileReader.firstBatch?
  cases batches : reader.batches with
  | nil => rfl
  | cons block rest =>
    have first : block ∈ footer.lookedAt := by
      unfold Footer.lookedAt
      rw [listed, batches]
      exact List.mem_append_right _ List.mem_cons_self
    dsimp only
    unfold FileReader.batch?
    dsimp only
    rw [readBlock_congr (same _ (block_mem_lookedAt read first)), source]

end Open

theorem sameAt_set (bytes : Bytes) {index : Nat} (byte : UInt8) {place : Nat × Nat}
    (before : index < place.1) : SameAt bytes (bytes.set index byte) place := by
  unfold SameAt Bytes.slice
  rw [List.drop_set_of_lt before]

private theorem FileContents.lookedAt_bytes {budget : Budget} {contents : FileContents}
    (covered : contents.Covered budget) :
    lookedAt budget contents.bytes =
      [(contents.bytes.length - trailerLength, trailerLength),
        (contents.bytes.length - trailerLength - contents.footerTable.length,
          contents.footerTable.length), contents.batchBlock.place] := by
  have found := ofBytes?_footerBlock (counts_batchBlock covered.toFits) covered.footer covered.tables
    covered.footerBytes
  unfold lookedAt
  dsimp only
  rw [contents.slice_trailer, footerLength_trailerFor covered.footer]
  dsimp only
  rw [contents.slice_footerTable, footerTable, found]
  rfl

theorem FileContents.front_pos (contents : FileContents) : 0 < contents.front.length := by
  have long := Bytes.le_roundUp contents.alignment fileMarker.length
  have marked : 0 < fileMarker.length := by decide
  rw [length_front, headLength]
  omega

/-- What stands before the block of the batch, the schema message included, is not looked at. -/
theorem FileContents.front_le_of_mem_lookedAt {budget : Budget} {contents : FileContents}
    (covered : contents.Covered budget) {place : Nat × Nat}
    (member : place ∈ lookedAt budget contents.bytes) : contents.front.length ≤ place.1 := by
  have parts := contents.length_parts
  have size : contents.bytes.length ≤ 2 ^ 63 - 64 := covered.size
  have front := contents.length_front
  have block : contents.batchBlock.place.1 = contents.front.length := by
    rw [front]
    exact toWord_ofNat (by omega)
  rw [lookedAt_bytes covered] at member
  simp only [List.mem_cons, List.not_mem_nil, or_false] at member
  rcases member with rfl | rfl | rfl
  · dsimp only
    omega
  · dsimp only
    omega
  · exact Nat.le_of_eq block.symm

end Columnar.Ipc
