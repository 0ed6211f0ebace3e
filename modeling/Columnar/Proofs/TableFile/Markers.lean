import Columnar.Proofs.TableFile.Aborted
import Columnar.Proofs.TableFile.RoundTrip

/-!
The markers of a file. Bytes that do not end with the marker are refused, whatever they are
(`readWithin_of_unmarked`). The marker at the start is not asked for: other bytes in its place change
nothing, unless a part that the reader looks at reaches into them (`HeadUnseen.indistinct`), and no part
of a written file does.
-/
namespace Columnar

namespace Ipc

open Flatbuffer (Budget)

/-- What is wrong with bytes that do not end with the marker: they are too few for a trailer, or their
trailer has another one. -/
def endFault (bytes : Bytes) : FormatError :=
  if bytes.length < trailerLength then .io Source.misplaced else .footerMarker

private theorem footerOf_of_unmarked (budget : Budget) {bytes : Bytes}
    (unmarked : ¬fileMarker <:+ bytes) :
    footerOf budget (Source.ofBytes bytes) = .error (.rejected (endFault bytes)) := by
  have size : ((Source.ofBytes bytes).content.length : Int) = bytes.length := rfl
  rw [footerOf, endFault]
  dsimp only
  rw [size]
  split
  case isTrue short =>
    have before : (bytes.length : Int) - trailerLength < 0 := by omega
    rw [readPart, Source.block, seek_ofBytes, if_pos before]
    rfl
  case isFalse long =>
    have parts : bytes = bytes.take (bytes.length - trailerLength) ++
        (bytes.drop (bytes.length - trailerLength) ++ []) := by
      rw [List.append_nil, List.take_append_drop]
    obtain ⟨later, read⟩ := readPart_of_append parts 0
    have place : (bytes.length : Int) - trailerLength =
        (bytes.take (bytes.length - trailerLength)).length := by
      rw [List.length_take]
      omega
    have length : (bytes.drop (bytes.length - trailerLength)).length = trailerLength := by
      rw [List.length_drop]
      omega
    have other : (bytes.drop (bytes.length - trailerLength)).drop 4 ≠ fileMarker := by
      intro same
      apply unmarked
      rw [← same, List.drop_drop]
      exact List.drop_suffix _ _
    rw [length, ← place] at read
    rw [read, ok_bind, footerLength]
    dsimp only
    rw [if_pos other]
    rfl

private theorem openSource_of_unmarked (budget : Budget) {bytes : Bytes}
    (unmarked : ¬fileMarker <:+ bytes) :
    FileReader.openSource budget (Source.ofBytes bytes) = .error (.rejected (endFault bytes)) := by
  rw [openSource_eq, footerOf_of_unmarked budget unmarked]
  rfl

private theorem sameAt_append (rest : Bytes) {head head' : Bytes} (size : head'.length = head.length)
    {place : Nat × Nat} (behind : head.length ≤ place.1) :
    SameAt (head ++ rest) (head' ++ rest) place := by
  unfold SameAt Bytes.slice
  rw [List.drop_append, List.drop_append, List.drop_eq_nil_of_le behind,
    List.drop_eq_nil_of_le (size ▸ behind), size]

theorem FileContents.bytes_marked (contents : FileContents) :
    ∃ rest, contents.bytes = fileMarker ++ rest ∧ fileMarker <:+ rest := by
  rw [bytes_eq, front, head, List.append_assoc, List.append_assoc]
  refine ⟨_, rfl, ?_⟩
  simp only [trailerFor, ← List.append_assoc]
  exact List.suffix_append _ _

private theorem FileContents.length_marker_le (contents : FileContents) :
    fileMarker.length ≤ contents.front.length := by
  rw [length_front, headLength]
  exact Nat.le_add_right_of_le (Bytes.le_roundUp contents.alignment fileMarker.length)

end Ipc

namespace TableFile

open Ipc (fileMarker)

theorem readWithin_of_unmarked [Footprint Column] (budget : Flatbuffer.Budget) {bytes : Bytes}
    (unmarked : ¬fileMarker <:+ bytes) (arena : ColumnArena) :
    (readWithin budget (Source.ofBytes bytes) arena).result =
        .error (.failed (.malformedInput (.format (Ipc.endFault bytes)))) ∧
      (readWithin budget (Source.ofBytes bytes) arena).arena = arena := by
  have named : ConversionError.ofRead (Ipc.endFault bytes) =
      .malformedInput (.format (Ipc.endFault bytes)) := by
    rw [Ipc.endFault]
    split <;> rfl
  have failed := contents_of_unopened (Ipc.openSource_of_unmarked budget unmarked)
  rw [ReadFailure.ofFault, named] at failed
  exact readWithin_of_failed failed

def Framed (bytes : Bytes) : Prop :=
  fileMarker <+: bytes ∧ fileMarker <:+ bytes

/-- Whether a reader of bytes cannot tell others from them: those have the same length, and the same bytes
wherever it looks. -/
structure Indistinct (budget : Flatbuffer.Budget) (bytes other : Bytes) : Prop where
  length : other.length = bytes.length
  same : ∀ place ∈ Ipc.lookedAt budget bytes, Ipc.SameAt bytes other place

/-- Whether all that a reader looks at lies behind the place of the first marker. -/
def HeadUnseen (budget : Flatbuffer.Budget) (bytes : Bytes) : Prop :=
  ∀ place ∈ Ipc.lookedAt budget bytes, fileMarker.length ≤ place.1

/-- The bytes with others in the place of the first marker. -/
def behead (head bytes : Bytes) : Bytes :=
  head ++ bytes.drop fileMarker.length

def Malformed [Footprint Column] (budget : Flatbuffer.Budget) (bytes : Bytes) (arena : ColumnArena) : Prop :=
  let outcome := readWithin budget (Source.ofBytes bytes) arena
  (∃ fault, outcome.result = .error (.failed (.malformedInput fault))) ∧ outcome.arena = arena

theorem Indistinct.readWithin_eq [Footprint Column] {budget : Flatbuffer.Budget} {bytes other : Bytes}
    (alike : Indistinct budget bytes other) :
    readWithin budget (Source.ofBytes other) = readWithin budget (Source.ofBytes bytes) := by
  unfold readWithin
  rw [contents_congr alike.length alike.same]

private theorem HeadUnseen.indistinct {budget : Flatbuffer.Budget} {bytes head : Bytes}
    (unseen : HeadUnseen budget bytes) (size : head.length = fileMarker.length) :
    Indistinct budget bytes (behead head bytes) := by
  have inside : fileMarker.length ≤ bytes.length := by
    have trailer := unseen _ Ipc.trailer_mem_lookedAt
    dsimp only at trailer
    omega
  have first : (bytes.take fileMarker.length).length = fileMarker.length := by
    rw [List.length_take, Nat.min_eq_left inside]
  constructor
  · rw [behead, List.length_append, List.length_drop, size]
    omega
  · intro place member
    have alike := @Ipc.sameAt_append (bytes.drop fileMarker.length) (bytes.take fileMarker.length) head
      (size.trans first.symm) place (first.symm ▸ unseen place member)
    rwa [List.take_append_drop] at alike

private theorem malformed_of_unmarked [Footprint Column] (budget : Flatbuffer.Budget) {bytes : Bytes}
    (unmarked : ¬fileMarker <:+ bytes) (arena : ColumnArena) : Malformed budget bytes arena := by
  obtain ⟨failed, kept⟩ := readWithin_of_unmarked budget unmarked arena
  exact ⟨⟨_, failed⟩, kept⟩

/-- The reader of a written file looks at nothing in the place of its first marker. -/
theorem Settled.headUnseen [Footprint Column] {batch : RowBatch} {options : WriteOptions} {writer : ColumnArena}
    {settled : Plan} (ready : Settled writer batch options settled) {budget : Flatbuffer.Budget}
    (covered : settled.contents.Covered budget) :
    HeadUnseen budget (writeBytes writer batch options).sink := by
  rw [ready.writeBytes_sink]
  intro place member
  exact Nat.le_trans settled.contents.length_marker_le
    (Ipc.FileContents.front_le_of_mem_lookedAt covered member)

/-- Of the two markers of a file only the one at its end is asked for. Bytes that do not end with it are
refused, whatever they are. So bytes that lack a marker are refused exactly if it is the one at the end, or
if all are that a reader cannot tell from them. If nothing in the place of the first marker is looked at,
any other bytes there are read alike, and in no written file is anything there looked at. -/
theorem readWithin_markers [Footprint Column] (budget : Flatbuffer.Budget) (bytes : Bytes) (arena : ColumnArena) :
    let outcome := readWithin budget (Source.ofBytes bytes) arena
    (¬fileMarker <:+ bytes →
      outcome.result = .error (.failed (.malformedInput (.format (Ipc.endFault bytes)))) ∧
        outcome.arena = arena) ∧
    ((¬Framed bytes → Malformed budget bytes arena) ↔
      Framed bytes ∨ ¬fileMarker <:+ bytes ∨
        ∀ other, Indistinct budget bytes other → Malformed budget other arena) ∧
    (HeadUnseen budget bytes → ∀ head : Bytes, head.length = fileMarker.length →
      readWithin budget (Source.ofBytes (behead head bytes)) arena = outcome) ∧
    ∀ (batch : RowBatch) (options : WriteOptions) (writer : ColumnArena) (settled : Plan),
      Settled writer batch options settled → settled.contents.Covered budget →
        bytes = (writeBytes writer batch options).sink → Framed bytes ∧ HeadUnseen budget bytes := by
  refine ⟨fun unmarked => readWithin_of_unmarked budget unmarked arena, ⟨?_, ?_⟩, ?_, ?_⟩
  · intro meets
    by_cases framed : Framed bytes
    · exact .inl framed
    · refine .inr (.inr fun other alike => ?_)
      rw [Malformed, alike.readWithin_eq]
      exact meets framed
  · rintro (framed | unmarked | refused) unframed
    · exact absurd framed unframed
    · exact malformed_of_unmarked budget unmarked arena
    · exact refused bytes ⟨rfl, fun _ _ => rfl⟩
  · intro unseen head size
    rw [(unseen.indistinct size).readWithin_eq]
  · rintro batch options writer settled ready covered rfl
    obtain ⟨rest, layout, marked⟩ := settled.contents.bytes_marked
    refine ⟨?_, ready.headUnseen covered⟩
    rw [ready.writeBytes_sink, layout]
    exact ⟨⟨rest, rfl⟩, marked.trans (List.suffix_append _ _)⟩

open NominalFootprint

def headlessFile : Bytes :=
  behead (Bytes.zeros fileMarker.length) twinsFile

theorem readWithin_markers_twins :
    (readBytes [] (Arena.new 1 Arena.unlimited)).result =
        .error (.failed (.malformedInput (.format (.io Source.misplaced)))) ∧
      Framed twinsFile ∧ HeadUnseen .full twinsFile ∧
      readBytes headlessFile (Arena.new 1 Arena.unlimited) = readBytes twinsFile (Arena.new 1 Arena.unlimited) := by
  obtain ⟨settled, ready, within, -⟩ := exists_settled_twins
  have bare : ¬fileMarker <:+ ([] : Bytes) := by
    intro marked
    simpa [fileMarker] using marked.length_le
  obtain ⟨unmarked, -⟩ := readWithin_markers .full [] (Arena.new 1 Arena.unlimited)
  obtain ⟨-, -, unseen, written⟩ := readWithin_markers .full twinsFile (Arena.new 1 Arena.unlimited)
  obtain ⟨framed, behind⟩ := written twins .standard _ settled ready within.toCovered rfl
  exact ⟨(unmarked bare).1, framed, behind, unseen behind _ (Bytes.length_zeros _)⟩

theorem readBytes_headlessFile :
    ¬fileMarker <+: headlessFile ∧
      ∃ batch, (readBytes headlessFile (Arena.new 1 Arena.unlimited)).result = .ok batch := by
  constructor
  · rintro ⟨rest, same⟩
    have first := congrArg List.head? same
    simp [fileMarker, headlessFile, behead, Bytes.zeros] at first
  · obtain ⟨settled, ready, within, -⟩ := exists_settled_twins
    obtain ⟨dictionaries, found⟩ := contents_twinsFile
    have alike := (ready.headUnseen within.toCovered).indistinct
      (Bytes.length_zeros fileMarker.length)
    have ok := (readWithin_of_contents found (Arena.le_room_unlimited 1 twins.footprint)).1
    rw [twinsFile, ← alike.readWithin_eq] at ok
    exact ⟨_, ok⟩

end TableFile

end Columnar
