import Columnar.Bytes

/-!
Texts as bytes. `Text.bytes` writes a text in UTF-8 and `Text.ofBytes?` reads it back
(`ofBytes?_bytes`); a byte string that is not well-formed UTF-8 is no text.
-/
namespace Columnar.Text

def bytes (text : String) : Bytes :=
  text.toByteArray.data.toList

def ofBytes? (bytes : Bytes) : Option String :=
  String.fromUTF8? ⟨bytes.toArray⟩

def isBoundary (bytes : Bytes) (index : Nat) : Bool :=
  if index = bytes.length then true
  else match bytes[index]? with
    | some byte => byte < 0x80 || 0xC0 ≤ byte
    | none => false

@[simp] theorem ofBytes?_bytes (text : String) : ofBytes? (bytes text) = some text := by
  have same : (⟨(bytes text).toArray⟩ : ByteArray) = text.toByteArray := by simp [bytes]
  simp [ofBytes?, same, String.fromUTF8?, String.fromUTF8, text.isValidUTF8]

theorem eq_bytes_of_ofBytes? {raw : Bytes} {text : String} (read : ofBytes? raw = some text) :
    raw = bytes text := by
  unfold ofBytes? String.fromUTF8? at read
  split at read
  · obtain rfl := Option.some.inj read
    simp [bytes, String.fromUTF8]
  · cases read

end Columnar.Text
