import Columnar.Text.Decimal
import Columnar.TypeHint

/-!
Dictionary encodings: an id and an ordering that each column of a framed batch carries. A field
declares an encoding in its metadata; an entry marked as synthesized declares none, but is still
checked for its form.
-/
namespace Columnar

structure DictionaryEncoding where
  id : Int64
  ordered : Bool
  deriving DecidableEq, Repr, Inhabited

namespace DictionaryEncoding

def idKey : String :=
  "colframe:dictionary_id"

def orderedKey : String :=
  "colframe:dictionary_ordered"

/-- The metadata key that marks an encoding nobody declared. -/
def synthesizedKey : String :=
  "colframe:dictionary_synthesized"

/-- The encoding of a plain column at a position: its id is the position as a signed word. -/
def identity (position : Nat) : DictionaryEncoding :=
  ⟨Int64.ofNat position, false⟩

def spelling (flag : Bool) : String :=
  if flag then "true" else "false"

def record (encoding : DictionaryEncoding) (synthesized : Bool) (metadata : Metadata) : Metadata :=
  let stated := (metadata.insert idKey (Decimal.text encoding.id.toInt)).insert
    orderedKey (spelling encoding.ordered)
  if synthesized then stated.insert synthesizedKey (spelling true)
  else stated.erase synthesizedKey

def annotate (encoding : DictionaryEncoding) (field : Field) (synthesized : Bool) : Field :=
  { field with metadata := encoding.record synthesized field.metadata }

/-- The ordering that metadata states; `none` for a text that is neither truth value. -/
def ordering? (metadata : Metadata) : Except String Bool :=
  match metadata.get? orderedKey with
  | none => .ok false
  | some text =>
    if text = spelling false then .ok false
    else if text = spelling true then .ok true
    else .error text

def stated (field : Field) : Except Malformation (Option (DictionaryEncoding × Bool)) :=
  match field.metadata.get? idKey with
  | none => .ok none
  | some text =>
    match Decimal.int64? text with
    | none => .error (.dictionaryId field.name text)
    | some id =>
      match ordering? field.metadata with
      | .error text => .error (.dictionaryOrdering field.name text)
      | .ok ordered =>
        .ok (some (⟨id, ordered⟩, field.metadata.get? synthesizedKey = some (spelling true)))

def declared (field : Field) : Except Malformation (Option DictionaryEncoding) :=
  match stated field with
  | .error cause => .error cause
  | .ok (some (encoding, false)) => .ok (some encoding)
  | .ok _ => .ok none

end DictionaryEncoding

end Columnar
