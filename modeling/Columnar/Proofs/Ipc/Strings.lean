import Columnar.Proofs.Ipc.Bits
import Columnar.Proofs.Text.Utf8

/-!
Texts and byte strings of columns, read back. The offsets of byte strings that follow one another are
in order and cut out the strings again (`offsetsOf_offsetBuffer`, `partsBetween_ends`); of texts every
cut is at a boundary.
-/
namespace Columnar

namespace ColumnData

@[simp] theorem length_ends (start : Nat) (parts : List Bytes) :
    (ends start parts).length = parts.length := by
  induction parts generalizing start with
  | nil => rfl
  | cons part rest ih => simp [ends, ih]

theorem le_of_mem_ends {start stop : Nat} {parts : List Bytes} (member : stop ∈ ends start parts) :
    stop ≤ start + parts.flatten.length := by
  induction parts generalizing start with
  | nil => simp [ends] at member
  | cons part rest ih =>
    rw [List.flatten_cons, List.length_append]
    rcases List.mem_cons.mp member with rfl | later
    · omega
    · have bound := ih later
      omega

private theorem ascending_ends (start : Nat) (parts : List Bytes) :
    ((start :: ends start parts).zip (ends start parts)).all (fun pair => pair.1 ≤ pair.2) = true := by
  induction parts generalizing start with
  | nil => rfl
  | cons part rest ih =>
    rw [ends, List.zip_cons_cons, List.all_cons, ih, Bool.and_true, decide_eq_true_eq]
    omega

end ColumnData

namespace Ipc

open ColumnData (ends offsetBuffer)

/-- The bounds of byte strings that follow one another: none if there are no strings. -/
def bounds (parts : List Bytes) : List Nat :=
  if parts = [] then [] else 0 :: ends 0 parts

theorem offsetsOf_offsetBuffer {parts : List Bytes} (fits : parts.flatten.length < 2 ^ 31) :
    offsetsOf 4 parts.length parts.flatten.length (offsetBuffer parts) = .ok (bounds parts) := by
  by_cases none : parts = []
  · rw [none]
    rfl
  · have small : ∀ n ∈ 0 :: ends 0 parts, n ≤ parts.flatten.length := by
      refine List.forall_mem_cons.mpr ⟨Nat.zero_le _, fun stop member => ?_⟩
      simpa using ColumnData.le_of_mem_ends member
    have signed : ∀ n ∈ 0 :: ends 0 parts, n < 2 ^ 31 := fun n member =>
      Nat.lt_of_le_of_lt (small n member) fits
    have words := @wordsOf_flatMap 4 (0 :: ends 0 parts) fun n member =>
      Nat.lt_trans (signed n member) (by decide)
    have placed : ((0 :: ends 0 parts).all fun bound =>
        bound ≤ parts.flatten.length && bound < 256 ^ 4 / 2) = true := by
      rw [List.all_eq_true]
      intro n member
      exact Bool.and_eq_true_iff.mpr
        ⟨decide_eq_true (small n member), decide_eq_true (signed n member)⟩
    rw [List.length_cons, ColumnData.length_ends] at words
    have size := length_flatMap_ofNat 4 (0 :: ends 0 parts)
    rw [List.length_cons, ColumnData.length_ends] at size
    have some : ¬(parts.length = 0 ∧ (0 :: ends 0 parts).flatMap (Bytes.ofNat 4) = []) :=
      fun both => none (List.length_eq_zero_iff.mp both.1)
    rw [offsetsOf, offsetBuffer, if_neg none, accept_of (decide_eq_true (by omega)), ok_bind,
      if_neg some, accept_of (decide_eq_true (by omega)), ok_bind,
      insist_of (decide_eq_true (by omega)), ok_bind]
    dsimp only
    rw [words, List.tail_cons, accept_of placed, ok_bind,
      accept_of (ColumnData.ascending_ends 0 parts), ok_bind, bounds, if_neg none]

/-- Byte strings that follow one another from `start` on, each with its bounds. -/
def placedParts : Nat → List Bytes → List (Nat × Nat × Bytes)
  | _, [] => []
  | start, part :: rest =>
    (start, start + part.length, part) :: placedParts (start + part.length) rest

private theorem partsBetween_ends {before : Bytes} {start : Nat} (placed : before.length = start)
    (parts : List Bytes) :
    partsBetween (before ++ parts.flatten) (start :: ends start parts) = placedParts start parts := by
  induction parts generalizing before start with
  | nil => rfl
  | cons part rest ih =>
    have cut : (before ++ (part :: rest).flatten).slice start part.length = part := by
      simp [Bytes.slice, ← placed]
    have later := @ih (before ++ part) (start + part.length) (by simp [placed])
    rw [partsBetween] at later ⊢
    rw [ends, List.tail_cons, List.zip_cons_cons, List.map_cons, placedParts]
    refine congrArg₂ _ (by simpa using cut) ?_
    simpa using later

private theorem partsBetween_bounds (parts : List Bytes) :
    partsBetween parts.flatten (bounds parts) = placedParts 0 parts := by
  by_cases none : parts = []
  · rw [none]
    rfl
  · rw [bounds, if_neg none]
    exact @partsBetween_ends [] 0 rfl parts

private theorem map_placedParts (start : Nat) (parts : List Bytes) :
    (placedParts start parts).map (fun (_, _, raw) => raw) = parts := by
  induction parts generalizing start with
  | nil => rfl
  | cons part rest ih => rw [placedParts, List.map_cons, ih]

theorem binaryValues_offsetBuffer {parts : List Bytes} (fits : parts.flatten.length < 2 ^ 31) :
    binaryValues 4 parts.length (offsetBuffer parts) parts.flatten = .ok parts := by
  rw [binaryValues, offsetsOf_offsetBuffer fits, ok_bind, partsBetween_bounds, map_placedParts]

theorem textOfPart_placedParts (whole : Bool) {before : Bytes} {start : Nat}
    (placed : before.length = start) (texts : List String) :
    (placedParts start (texts.map Text.bytes)).mapM
      (textOfPart whole (before ++ (texts.map Text.bytes).flatten)) = .ok texts := by
  induction texts generalizing before start with
  | nil => rfl
  | cons text rest ih =>
    have first := Text.isBoundary_append before (text :: rest)
    have second := Text.isBoundary_append (before ++ Text.bytes text) rest
    have later := @ih (before ++ Text.bytes text) (start + (Text.bytes text).length) (by simp [placed])
    have same : before ++ Text.bytes text ++ (rest.map Text.bytes).flatten =
        before ++ ((text :: rest).map Text.bytes).flatten := by simp
    rw [same] at second later
    rw [List.length_append, placed] at second
    rw [placed] at first
    rw [List.map_cons, placedParts, List.mapM_cons, textOfPart]
    rw [List.map_cons] at first second later
    rw [first, second, Text.ofBytes?_bytes, later]
    cases whole <;> rfl

theorem textValues_offsetBuffer {texts : List String}
    (fits : (texts.map Text.bytes).flatten.length < 2 ^ 31) :
    textValues 4 texts.length (offsetBuffer (texts.map Text.bytes))
      (texts.map Text.bytes).flatten = .ok texts := by
  have offsets := offsetsOf_offsetBuffer fits
  rw [List.length_map] at offsets
  rw [textValues, offsets, ok_bind, partsBetween_bounds]
  exact @textOfPart_placedParts _ [] 0 rfl texts

end Ipc

end Columnar
