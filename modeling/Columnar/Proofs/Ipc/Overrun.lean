import Columnar.Proofs.Flatbuffer.Steady
import Columnar.Proofs.Ipc.File

/-!
Files with more tables than a budget. The readers of all records are steady (`steady_footer`), so a footer
that takes more tables than the budget has is not read (`ofBytes?_of_few`), and the file is refused as if
there were anything else amiss with it (`openSource_of_few`).
-/
namespace Columnar.Ipc

open Flatbuffer (Buffer Budget Steady maxDepth)
open Flatbuffer.Steady

variable {buffer : Buffer}

private theorem steady_keyValue (depth position : Nat) : Steady (readKeyValue buffer depth position) :=
  (enter buffer depth position).bind fun _ => (field (refer text) 0).bind fun _ =>
    (field (refer text) 1).bind fun _ => .pure _

private theorem steady_metadata (depth : Nat) (table : Flatbuffer.Table) (slot : Nat) :
    Steady (readMetadata buffer depth table slot) :=
  field (refer (vector (steady_keyValue depth))) slot

private theorem steady_int (depth position : Nat) : Steady (readInt buffer depth position) :=
  (enter buffer depth position).bind fun _ => (fieldD (signed 4) 0 0).bind fun _ =>
    (fieldD truth 1 false).bind fun _ => .pure _

private theorem steady_dictionary (depth position : Nat) :
    Steady (readDictionary buffer depth position) :=
  (enter buffer depth position).bind fun _ => (fieldD (signed 8) 0 0).bind fun _ =>
    (field (refer (steady_int (depth - 1))) 1).bind fun _ => (fieldD truth 2 false).bind fun _ =>
      (field (signed 2) 3).bind fun _ => .pure _

private theorem steady_type (depth kind position : Nat) :
    Steady (readType buffer depth kind position) := by
  unfold readType
  split
  · exact .pure _
  · apply (refer Steady.pure position).bind
    intro target
    apply (enter buffer depth target).bind
    intro table
    -- Each kind of type has up to three numbers and at most one reference.
    split
    case h_7 =>
      exact (fieldD (signed 4) 0 0).bind fun _ => (fieldD (signed 4) 1 0).bind fun _ =>
        (fieldD (signed 4) 2 128).bind fun _ => .pure _
    case h_2 =>
      exact (fieldD (signed 4) 0 0).bind fun _ => (fieldD truth 1 false).bind fun _ => .pure _
    case h_9 =>
      exact (fieldD (signed 2) 0 1).bind fun _ => (fieldD (signed 4) 1 32).bind fun _ => .pure _
    case h_10 =>
      exact (fieldD (signed 2) 0 0).bind fun _ => (field (refer text) 1).bind fun _ => .pure _
    case h_14 =>
      exact (fieldD (signed 2) 0 0).bind fun _ => (field (refer (structs 4 4 _)) 1).bind fun _ => .pure _
    case h_17 => exact (fieldD truth 0 false).bind fun _ => .pure _
    all_goals first
      | exact .pure _
      | exact (fieldD (signed _) 0 _).bind fun _ => .pure _

theorem steady_field (depth position : Nat) : Steady (readField buffer depth position) := by
  induction depth generalizing position with
  | zero => exact .reject
  | succ depth ih =>
    unfold readField
    exact (enter buffer (depth + 1) position).bind fun table => (field (refer text) 0).bind fun _ =>
      (fieldD truth 1 false).bind fun _ => (choice (steady_type depth) 2).bind fun _ =>
        (field (refer (steady_dictionary depth)) 4).bind fun _ =>
          (field (refer (vector ih)) 5).bind fun _ => (steady_metadata depth table 6).bind fun _ =>
            .pure _

theorem steady_schema (depth position : Nat) : Steady (readSchema buffer depth position) :=
  (enter buffer depth position).bind fun table => (fieldD (signed 2) 0 0).bind fun _ =>
    (field (refer (vector (steady_field (depth - 1)))) 1).bind fun _ =>
      (steady_metadata (depth - 1) table 2).bind fun _ =>
        (field (refer (structs 8 8 _)) 3).bind fun _ => .pure _

theorem steady_footer (depth position : Nat) : Steady (readFooter buffer depth position) :=
  (enter buffer depth position).bind fun table => (fieldD (signed 2) 0 0).bind fun _ =>
    (field (refer (steady_schema (depth - 1))) 1).bind fun _ =>
      (field (refer (structs 24 1 _)) 2).bind fun _ => (field (refer (structs 24 1 _)) 3).bind fun _ =>
        (steady_metadata (depth - 1) table 4).bind fun _ => .pure _

namespace FileContents

variable {budget : Budget} {contents : FileContents} (fits : contents.Fits)
  (few : budget.tables < 1 + tableCount contents.fields)

include fits few

private theorem ofBytes?_of_few : Footer.ofBytes? budget contents.footerTable = none := by
  have means := @means_footer maxDepth contents.fields _ (by decide) (counts_batchBlock fits)
  have small : contents.footerTable.length < 2 ^ 32 := Nat.lt_trans fits.footer (by decide)
  have reads := Flatbuffer.reads_finish means small []
  rw [List.append_nil] at reads
  exact Flatbuffer.readRoot_of_few (steady_footer maxDepth) reads few

/-- A file with more tables in its footer than the budget has is refused. -/
theorem openSource_of_few :
    FileReader.openSource budget (Source.ofBytes contents.bytes) = undecodable := by
  obtain ⟨first, second, trailer, part⟩ := readParts_of_layout contents.bytes_eq_footer
  refine bind_eq_error.mpr (.inr ⟨_, trailer, bind_eq_error.mpr (.inr
    ⟨_, footerLength_trailerFor fits.footer, bind_eq_error.mpr (.inr ⟨_, part, ?_⟩)⟩)⟩)
  dsimp only
  rw [ofBytes?_of_few fits few]
  rfl

end FileContents

end Columnar.Ipc
