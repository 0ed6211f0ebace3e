import Columnar.Text.Utf8

/-!
Boundaries in texts that follow one another: a text begins with a byte that may begin one, so each
text among others begins and ends at a boundary of the whole. A text has at most four bytes for each of
its characters (`length_bytes_ofList_le`).
-/
namespace Columnar.Text

private theorem first_byte_of_isUTF8FirstByte {byte : UInt8} (first : byte.IsUTF8FirstByte) :
    byte < 0x80 ∨ 0xC0 ≤ byte := by
  have all : ∀ n < 256, (UInt8.ofNat n).IsUTF8FirstByte →
      UInt8.ofNat n < 0x80 ∨ 0xC0 ≤ UInt8.ofNat n := by
    decide +kernel
  have found := all byte.toNat byte.toNat_lt
  rw [UInt8.ofNat_toNat] at found
  exact found first

private theorem first_byte {text : String} {byte : UInt8} {rest : Bytes}
    (shown : bytes text = byte :: rest) :
    byte < 0x80 ∨ 0xC0 ≤ byte := by
  have length : text.toByteArray.data.toList.length = rest.length + 1 :=
    congrArg List.length shown
  have size : 0 < text.toByteArray.size := by
    rw [Array.length_toList] at length
    exact Nat.lt_of_lt_of_eq (Nat.succ_pos _) length.symm
  have first := text.isValidUTF8.isUTF8FirstByte_getElem_zero size
  have head : text.toByteArray.data[0]? = some byte := by
    have found := congrArg (·[0]?) shown
    simpa [bytes] using found
  obtain ⟨_, same⟩ := Array.getElem?_eq_some_iff.mp head
  have same : text.toByteArray[0] = byte := same
  rw [same] at first
  exact first_byte_of_isUTF8FirstByte first

theorem isBoundary_append (before : Bytes) (texts : List String) :
    isBoundary (before ++ (texts.map bytes).flatten) before.length = true := by
  induction texts with
  | nil => simp [isBoundary]
  | cons text rest ih =>
    cases shown : bytes text with
    | nil => simpa [shown] using ih
    | cons byte more =>
      have first := first_byte shown
      rw [isBoundary]
      split
      · rfl
      · simpa [shown] using first

theorem length_bytes_ofList_le (chars : List Char) :
    (bytes (String.ofList chars)).length ≤ 4 * chars.length := by
  rw [bytes, String.toByteArray_ofList, Array.length_toList]
  show chars.utf8Encode.size ≤ _
  induction chars with
  | nil => simp
  | cons c rest ih =>
    have few := c.utf8Size_le_four
    rw [List.utf8Encode_cons, ByteArray.size_append, List.utf8Encode_singleton, List.size_toByteArray,
      String.length_utf8EncodeChar, List.length_cons]
    omega

end Columnar.Text
