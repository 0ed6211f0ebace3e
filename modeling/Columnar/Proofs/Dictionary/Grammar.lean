import Columnar.Proofs.Text.Numeral
import Columnar.Proofs.Sequence

/-!
The wording of dictionary encodings in metadata. An id is a numeral that denotes a word of 64 bits, an
ordering is one of the two truth values or left out (`Words`). A field with an id declares an encoding
exactly if both are worded so and nothing marks it as synthesized; any other wording is reported
(`Misworded`, `declared_grammar`).
-/
namespace Columnar.DictionaryEncoding

open Decimal (Numeral int64?_eq_some)

/-- Whether a text is a numeral for a word of 64 bits. -/
def IsId (text : String) : Prop :=
  ∃ number : Int, Numeral text.toList number ∧ -2 ^ 63 ≤ number ∧ number < 2 ^ 63

/-- What an entry for the ordering means; without one there is no ordering. -/
inductive Ordered : Option String → Bool → Prop where
  | absent : Ordered none false
  | no : Ordered (some "false") false
  | yes : Ordered (some "true") true

/-- Whether metadata words an encoding. -/
structure Words (metadata : Metadata) (encoding : DictionaryEncoding) : Prop where
  id : ∃ text, metadata.get? idKey = some text ∧ Numeral text.toList encoding.id.toInt
  ordered : Ordered (metadata.get? orderedKey) encoding.ordered

/-- How a field can have an id and word no encoding: by the id, or else by the ordering. -/
inductive Misworded (field : Field) : Malformation → Prop where
  | id {text : String} (own : field.metadata.get? idKey = some text) (unread : ¬IsId text) :
    Misworded field (.dictionaryId field.name text)
  | ordering {text other : String} (own : field.metadata.get? idKey = some text) (read : IsId text)
    (stated : field.metadata.get? orderedKey = some other)
    (unread : ¬∃ ordered, Ordered (some other) ordered) :
    Misworded field (.dictionaryOrdering field.name other)

variable {field : Field} {text : String}

private theorem exists_int64?_eq_some : (∃ id, Decimal.int64? text = some id) ↔ IsId text := by
  unfold IsId
  simp only [int64?_eq_some]
  constructor
  · rintro ⟨id, numeral⟩
    exact ⟨_, numeral, id.le_toInt, id.toInt_lt⟩
  · rintro ⟨number, numeral, low, high⟩
    exact ⟨Int64.ofInt number, by rwa [Int64.toInt_ofInt_of_le low high]⟩

theorem int64?_eq_none : Decimal.int64? text = none ↔ ¬IsId text := by
  rw [← exists_int64?_eq_some, Option.eq_none_iff_forall_ne_some, not_exists]

private theorem ordered_some_iff {other : String} {ordered : Bool} :
    Ordered (some other) ordered ↔ other = spelling ordered := by
  constructor
  · rintro (_ | _) <;> rfl
  · rintro rfl
    cases ordered with
    | false => exact .no
    | true => exact .yes

theorem ordering?_eq_ok {metadata : Metadata} {ordered : Bool} :
    ordering? metadata = .ok ordered ↔ Ordered (metadata.get? orderedKey) ordered := by
  unfold ordering?
  cases metadata.get? orderedKey with
  | none =>
    constructor
    · rintro ⟨⟩
      exact .absent
    · rintro ⟨⟩
      rfl
  | some other =>
    rw [ordered_some_iff]
    by_cases unordered : other = spelling false
    · subst unordered
      cases ordered <;> simp [spelling]
    · by_cases isOrdered : other = spelling true
      · subst isOrdered
        cases ordered <;> simp [spelling]
      · cases ordered <;> simp [unordered, isOrdered]

theorem ordering?_eq_error {metadata : Metadata} {other : String} :
    ordering? metadata = .error other ↔
      metadata.get? orderedKey = some other ∧ ¬∃ ordered, Ordered (some other) ordered := by
  unfold ordering?
  cases metadata.get? orderedKey with
  | none => simp
  | some own =>
    simp only [ordered_some_iff, Bool.exists_bool, not_or]
    split
    case isTrue unordered => grind
    case isFalse notFalse => grind

private theorem Words.stated_eq {encoding : DictionaryEncoding} (words : Words field.metadata encoding) :
    DictionaryEncoding.stated field =
      .ok (some (encoding, field.metadata.get? synthesizedKey = some "true")) := by
  obtain ⟨⟨text, own, numeral⟩, ordered⟩ := words
  rw [DictionaryEncoding.stated, own]
  dsimp only
  rw [int64?_eq_some.mpr numeral]
  dsimp only
  rw [ordering?_eq_ok.mpr ordered]
  rfl

private theorem Misworded.stated_eq {cause : Malformation} (misworded : Misworded field cause) :
    DictionaryEncoding.stated field = .error cause := by
  cases misworded with
  | id own unread =>
    rw [DictionaryEncoding.stated, own]
    dsimp only
    rw [int64?_eq_none.mpr unread]
  | ordering own read stated unread =>
    obtain ⟨id, read⟩ := exists_int64?_eq_some.mpr read
    rw [DictionaryEncoding.stated, own]
    dsimp only
    rw [read]
    dsimp only
    rw [ordering?_eq_error.mpr ⟨stated, unread⟩]

theorem words_or_misworded (own : field.metadata.get? idKey = some text) :
    (∃ encoding, Words field.metadata encoding) ∨ ∃ cause, Misworded field cause := by
  cases read : Decimal.int64? text with
  | none => exact .inr ⟨_, .id own (int64?_eq_none.mp read)⟩
  | some id =>
    cases ordering : ordering? field.metadata with
    | error other =>
      obtain ⟨stated, unread⟩ := ordering?_eq_error.mp ordering
      exact .inr ⟨_, .ordering own (exists_int64?_eq_some.mp ⟨id, read⟩) stated unread⟩
    | ok ordered =>
      exact .inl ⟨⟨id, ordered⟩, ⟨text, own, int64?_eq_some.mp read⟩, ordering?_eq_ok.mp ordering⟩

private theorem Words.declared_eq {encoding : DictionaryEncoding}
    (words : Words field.metadata encoding) :
    declared field =
      .ok (if field.metadata.get? synthesizedKey = some "true" then none else some encoding) := by
  rw [declared, words.stated_eq]
  by_cases marked : field.metadata.get? synthesizedKey = some "true" <;> simp [marked]

private theorem Misworded.declared_eq {cause : Malformation} (misworded : Misworded field cause) :
    declared field = .error cause := by
  rw [declared, misworded.stated_eq]

private theorem exists_words (own : field.metadata.get? idKey = some text) :
    (∃ encoding, Words field.metadata encoding) ↔
      IsId text ∧ ∃ ordered, Ordered (field.metadata.get? orderedKey) ordered := by
  constructor
  · rintro ⟨encoding, ⟨text', same, numeral⟩, ordered⟩
    obtain rfl := Option.some.inj (same.symm.trans own)
    exact ⟨exists_int64?_eq_some.mp ⟨_, int64?_eq_some.mpr numeral⟩, _, ordered⟩
  · rintro ⟨read, ordered, own'⟩
    obtain ⟨id, read⟩ := exists_int64?_eq_some.mpr read
    exact ⟨⟨id, ordered⟩, ⟨text, own, int64?_eq_some.mp read⟩, own'⟩

/-- A field without an id declares nothing. A field with one is read exactly if its id is a numeral for a
word of 64 bits and its ordering is left out or a truth value, also when it is marked as synthesized. It
then declares the encoding that it words, unless it is marked; any other wording is reported, of the id
before that of the ordering. -/
theorem declared_grammar (field : Field) :
    (field.metadata.get? idKey = none → declared field = .ok none) ∧
    ∀ text, field.metadata.get? idKey = some text →
      ((∃ encoding?, declared field = .ok encoding?) ↔
        IsId text ∧ ∃ ordered, Ordered (field.metadata.get? orderedKey) ordered) ∧
      (∀ encoding, Words field.metadata encoding → declared field =
        .ok (if field.metadata.get? synthesizedKey = some "true" then none else some encoding)) ∧
      ∀ cause, declared field = .error cause ↔ Misworded field cause := by
  constructor
  · intro absent
    rw [declared, stated, absent]
  · intro text own
    obtain ⟨read, failed⟩ := outcome_iff (words_or_misworded own)
      (fun ⟨_, words⟩ => ⟨_, words.declared_eq⟩) fun _ misworded => misworded.declared_eq
    exact ⟨read.trans (exists_words own), fun _ words => words.declared_eq, failed⟩

def worded (id ordering : String) : Field :=
  { Field.plain "c" .utf8 with metadata := (Metadata.empty.insert idKey id).insert orderedKey ordering }

/-- Leading zeros and a sign are read, down to the least word; a number past the greatest is not. -/
theorem declared_grammar_ends :
    declared (worded "-009223372036854775808" "true") = .ok (some ⟨Int64.minValue, true⟩) ∧
      declared (worded "+9223372036854775808" "true") =
        .error (.dictionaryId "c" "+9223372036854775808") := by
  constructor
  · have words : Words (worded "-009223372036854775808" "true").metadata ⟨Int64.minValue, true⟩ :=
      ⟨⟨"-009223372036854775808", rfl, int64?_eq_some.mp (by decide)⟩, .yes⟩
    exact ((declared_grammar _).2 _ rfl).2.1 _ words
  · refine (((declared_grammar _).2 _ rfl).2.2 _).mpr (.id rfl ?_)
    exact int64?_eq_none.mp (by decide)

end Columnar.DictionaryEncoding
