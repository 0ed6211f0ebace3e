import Columnar.Ipc.ArrayShape
import Columnar.Proofs.Ipc.Aborts

/-!
When checking the parts of an array aborts. Each `ArrayShape.of…` insists on what its type asks of the
parts: that the bitmap reaches the last slot, that offsets, views and keys are whole words, that no member
of a union has a negative id. So for every type there is a condition under which the parts confound their
reader, and `aborts_of…` says that it is the only one.
-/
namespace Columnar.Ipc

inductive PartsConfound (width : Nat) (node : FieldNode) (bitmap offsets : Bytes) : Prop
  | bitmap (astray : BitmapConfounds (toWord node.length) node.nullCount bitmap)
  | offsets (astray : OffsetsConfound width (toWord node.length) offsets)

/-- Whether the fields of a struct confound its reader: it asks of one which values it has, and there is
no answer. Those before it are in order. -/
def FieldsUnknown (length : Nat) (mask : Option (List Bool)) (fields : List (Bool × ArrayShape)) :
    Prop :=
  ∃ before field after, fields = before ++ (false, field) :: after ∧
    ArrayShape.checkFields length mask before = .ok () ∧ field.length = length ∧
    Aborts field.presence

/-- The bitmap of a struct as its fields are compared with it; a count of zero nulls makes it none. -/
def structMask (node : FieldNode) (bitmap : Bytes) : Option (List Bool) :=
  if node.nullCount = 0 then none else some (Bits.unpack (toWord node.length) bitmap)

/-- Whether a struct confounds its reader, by its bitmap or by its fields. Any count of nulls but zero
makes the bitmap count. -/
inductive StructConfounds (nullable : List Bool) (node : FieldNode) (bitmap : Bytes) :
    List ArrayShape → Prop
  | bitmap {shapes : List ArrayShape}
    (astray : BitmapConfounds (toWord node.length) (toWord node.nullCount) bitmap) :
    StructConfounds nullable node bitmap shapes
  | fields {first : ArrayShape} {rest : List ArrayShape}
    (even : node.nullCount = 0 ∨ toWord node.length = first.length)
    (astray : FieldsUnknown first.length (structMask node bitmap) (nullable.zip (first :: rest))) :
    StructConfounds nullable node bitmap (first :: rest)

/-- Whether keys into a dictionary confound their reader: by their bitmap, by a dictionary of more values
than there are signed words, or as they are not whole words. -/
inductive KeysConfound (width : Nat) (type : DataType) (node : FieldNode) (bitmap keys : Bytes)
    (dictionary : DictionaryValues) : Prop
  | bitmap (astray : BitmapConfounds (toWord node.length) node.nullCount bitmap)
  | values (enough : toWord node.length * width ≤ keys.length) (alike : type.agrees dictionary.type)
    (many : 2 ^ 63 ≤ dictionary.values.length)
  | words (enough : toWord node.length * width ≤ keys.length) (alike : type.agrees dictionary.type)
    (uneven : keys.length % width ≠ 0)

/-- Whether an array given by views confounds its reader: it has no buffers at all, or by its bitmap, or
as its views are not whole. -/
inductive ViewsConfound (node : FieldNode) : List Bytes → Prop
  | none : ViewsConfound node []
  | bitmap {bitmap : Bytes} {rest : List Bytes}
    (astray : BitmapConfounds (toWord node.length) node.nullCount bitmap) :
    ViewsConfound node (bitmap :: rest)
  | views {bitmap views : Bytes} {rest : List Bytes}
    (enough : toWord node.length * ArrayShape.viewWidth ≤ views.length)
    (uneven : views.length % ArrayShape.viewWidth ≠ 0) :
    ViewsConfound node (bitmap :: views :: rest)

namespace ArrayShape

variable {node : FieldNode} {bitmap : Bytes} {items : ArrayShape}

private theorem aborts_ownBitmap_bind {α : Type} {length : Nat} {nullCount : Int}
    {next : Option (List Bool) → Decoded α} {condition : Prop}
    (each : ∀ bits, Aborts (next bits) ↔ condition) :
    Aborts (ownBitmap length nullCount bitmap >>= next) ↔
      BitmapConfounds length nullCount bitmap ∨ condition := by
  unfold ownBitmap
  rw [bind_assoc, aborts_checkBitmap_bind]
  dsimp only
  rw [ok_bind, each]

theorem not_aborts_ofNulls (node : FieldNode) : ¬Aborts (ofNulls node) := by
  unfold ofNulls
  rw [aborts_bind_ok]
  exact not_aborts_accept _

private theorem aborts_ownBitmap_bind_of_answered {α : Type} {length : Nat} {nullCount : Int}
    {next : Option (List Bool) → Decoded α} (answered : ∀ bits, ¬Aborts (next bits)) :
    Aborts (ownBitmap length nullCount bitmap >>= next) ↔
      BitmapConfounds length nullCount bitmap := by
  rw [aborts_ownBitmap_bind fun bits => iff_false_intro (answered bits), or_false]

theorem aborts_ofTruths {values : Bytes} : Aborts (ofTruths node bitmap values) ↔
    BitmapConfounds (toWord node.length) node.nullCount bitmap := by
  unfold ofTruths
  apply aborts_ownBitmap_bind_of_answered
  intro bits
  rw [aborts_bind_ok]
  exact not_aborts_truthValues _ _

theorem aborts_ofWords {width : Nat} {words : Bytes} : Aborts (ofWords width node bitmap words) ↔
    BitmapConfounds (toWord node.length) node.nullCount bitmap := by
  unfold ofWords
  apply aborts_ownBitmap_bind_of_answered
  intro bits
  rw [aborts_bind_ok]
  exact not_aborts_accept _

private theorem partsConfound_iff {width : Nat} {offsets : Bytes} :
    PartsConfound width node bitmap offsets ↔
    BitmapConfounds (toWord node.length) node.nullCount bitmap ∨
      OffsetsConfound width (toWord node.length) offsets := by
  constructor
  · rintro (astray | astray)
    · exact .inl astray
    · exact .inr astray
  · rintro (astray | astray)
    · exact .bitmap astray
    · exact .offsets astray

theorem aborts_ofStrings {width : Nat} {text : Bool} {offsets bytes : Bytes} :
    Aborts (ofStrings width text node bitmap offsets bytes) ↔
      PartsConfound width node bitmap offsets := by
  unfold ofStrings
  dsimp only
  rw [partsConfound_iff]
  apply aborts_ownBitmap_bind
  intro bits
  split
  · rw [aborts_bind_ok, aborts_textValues]
  · rw [aborts_bind_ok, aborts_binaryValues]

theorem aborts_ofLists {width : Nat} {nullable : Bool} {offsets : Bytes} :
    Aborts (ofLists width nullable node bitmap offsets items) ↔
      PartsConfound width node bitmap offsets := by
  unfold ofLists
  dsimp only
  rw [partsConfound_iff]
  apply aborts_ownBitmap_bind
  intro bits
  rw [aborts_bind_of_answered, aborts_offsetsOf]
  intro bounds
  rw [aborts_bind_ok]
  exact not_aborts_accept _

theorem aborts_ofSizedLists {size : Int} {nullable : Bool} :
    Aborts (ofSizedLists size nullable node bitmap items) ↔
      BitmapConfounds (toWord node.length) node.nullCount bitmap ∨
        0 ≤ size ∧ 2 ^ 64 ≤ toWord node.length * size.toNat := by
  unfold ofSizedLists
  apply aborts_ownBitmap_bind
  intro bits
  simp only [aborts_accept_bind, aborts_insist_bind, aborts_ok, and_false, decide_eq_true_eq,
    imp_false, Nat.not_lt]

theorem aborts_lacksWithin {shape : ArrayShape} {mask : Option (List Bool)} :
    Aborts (shape.lacksWithin mask) ↔ Aborts shape.presence := by
  unfold lacksWithin
  apply aborts_bind_of_answered
  intro presence
  cases presence <;> cases mask <;> exact aborts_ok _

private theorem checkFields_cons (length : Nat) (mask : Option (List Bool)) (field : Bool × ArrayShape)
    (rest : List (Bool × ArrayShape)) :
    checkFields length mask (field :: rest) =
      checkFields length mask [field] >>= fun _ => checkFields length mask rest := by
  obtain ⟨_ | _, field⟩ := field <;> simp [checkFields]

theorem aborts_checkField {length : Nat} {mask : Option (List Bool)} {nullable : Bool}
    {field : ArrayShape} :
    Aborts (checkFields length mask [(nullable, field)]) ↔
      nullable = false ∧ field.length = length ∧ Aborts field.presence := by
  rw [checkFields, aborts_accept_bind, decide_eq_true_eq]
  cases nullable with
  | true => exact iff_of_false (fun astray => aborts_ok _ astray.2) nofun
  | false =>
    have asked : Aborts (field.lacksWithin mask >>= fun fits => accept fits >>= fun _ => .ok ()) ↔
        Aborts field.presence := by
      rw [aborts_bind_of_answered, aborts_lacksWithin]
      intro fits
      rw [aborts_bind_ok]
      exact not_aborts_accept fits
    rw [← asked]
    simp [checkFields]

theorem aborts_checkFields {length : Nat} {mask : Option (List Bool)}
    {fields : List (Bool × ArrayShape)} :
    Aborts (checkFields length mask fields) ↔ FieldsUnknown length mask fields := by
  unfold FieldsUnknown
  induction fields with
  | nil => simp [checkFields]
  | cons field rest ih =>
    obtain ⟨nullable, field⟩ := field
    rw [checkFields_cons, aborts_bind, aborts_checkField]
    constructor
    · rintro (⟨rfl, even, astray⟩ | ⟨_, sound, astray⟩)
      · exact ⟨[], field, rest, rfl, rfl, even, astray⟩
      · obtain ⟨before, unknown, after, rfl, earlier, even, astray⟩ := ih.mp astray
        refine ⟨_ :: before, unknown, after, rfl, ?_, even, astray⟩
        rw [checkFields_cons, sound, ok_bind, earlier]
    · rintro ⟨before, unknown, after, split, earlier, even, astray⟩
      cases before with
      | nil =>
        cases split
        exact .inl ⟨rfl, even, astray⟩
      | cons _ before =>
        obtain ⟨rfl, rfl⟩ := List.cons.inj split
        rw [checkFields_cons] at earlier
        obtain ⟨_, sound, earlier⟩ := bind_eq_ok.mp earlier
        exact .inr ⟨_, sound, ih.mpr ⟨before, unknown, after, rfl, earlier, even, astray⟩⟩

theorem aborts_ofStructs {nullable : List Bool} {shapes : List ArrayShape} :
    Aborts (ofStructs nullable node bitmap shapes) ↔ StructConfounds nullable node bitmap shapes := by
  unfold ofStructs
  dsimp only
  cases shapes with
  | nil =>
    rw [aborts_ownBitmap_bind_of_answered fun bits => aborts_ok _]
    constructor
    · exact .bitmap
    · rintro ⟨astray⟩
      exact astray
  | cons first rest =>
    have fields (bits : Option (List Bool)) :
        Aborts (accept (node.nullCount = 0 || toWord node.length = first.length) >>= fun _ =>
          checkFields first.length (structMask node bitmap) (nullable.zip (first :: rest)) >>=
            fun _ => .ok (plain first.length bits [])) ↔
          (node.nullCount = 0 ∨ toWord node.length = first.length) ∧
            FieldsUnknown first.length (structMask node bitmap) (nullable.zip (first :: rest)) := by
      rw [aborts_accept_bind, aborts_bind_ok, aborts_checkFields, Bool.or_eq_true, decide_eq_true_eq,
        decide_eq_true_eq]
    refine (aborts_ownBitmap_bind fields).trans ?_
    constructor
    · rintro (astray | ⟨even, astray⟩)
      · exact .bitmap astray
      · exact .fields even astray
    · rintro (astray | ⟨even, astray⟩)
      · exact .inl astray
      · exact .inr ⟨even, astray⟩

theorem not_aborts_ofRuns (width : Nat) (nullable : Bool) (node : FieldNode)
    (ends values : ArrayShape) : ¬Aborts (ofRuns width nullable node ends values) := by
  simp [ofRuns, aborts_accept_bind]

theorem aborts_ofKeys {width : Nat} {signed : Bool} {type : DataType} {keys : Bytes}
    {dictionary : DictionaryValues} :
    Aborts (ofKeys width signed type node bitmap keys dictionary) ↔
      KeysConfound width type node bitmap keys dictionary := by
  unfold ofKeys
  refine Iff.trans (@aborts_ownBitmap_bind bitmap _ _ _ _ (toWord node.length * width ≤ keys.length ∧
    type.agrees dictionary.type ∧ (dictionary.values.length < 2 ^ 63 → keys.length % width ≠ 0)) ?_) ?_
  · intro bits
    simp only [aborts_accept_bind, aborts_insist_bind, aborts_ok, and_false, imp_false,
      decide_eq_true_eq, ne_eq]
  · constructor
    · rintro (astray | ⟨enough, alike, words⟩)
      · exact .bitmap astray
      · by_cases few : dictionary.values.length < 2 ^ 63
        · exact .words enough alike (words few)
        · exact .values enough alike (Nat.not_lt.mp few)
    · rintro (astray | ⟨enough, alike, many⟩ | ⟨enough, alike, uneven⟩)
      · exact .inl astray
      · exact .inr ⟨enough, alike, fun few => absurd few (Nat.not_lt.mpr many)⟩
      · exact .inr ⟨enough, alike, fun _ => uneven⟩

theorem aborts_ofViews {text : Bool} {buffers : List Bytes} :
    Aborts (ofViews text node buffers) ↔ ViewsConfound node buffers := by
  unfold ofViews
  match buffers with
  | [] => exact iff_of_true rfl .none
  | [bitmap] =>
    refine (aborts_ownBitmap_bind_of_answered fun bits => aborts_undecodable).trans ?_
    constructor
    · exact .bitmap
    · intro confounds
      cases confounds with
      | bitmap astray => exact astray
  | bitmap :: views :: rest =>
    refine Iff.trans (@aborts_ownBitmap_bind bitmap _ _ _ _ (toWord node.length * viewWidth ≤
      views.length ∧ views.length % viewWidth ≠ 0) ?_) ?_
    · intro bits
      simp only [aborts_accept_bind, aborts_insist_bind, aborts_ok, and_false, imp_false,
        decide_eq_true_eq, ne_eq]
    · constructor
      · rintro (astray | ⟨enough, uneven⟩)
        · exact .bitmap astray
        · exact .views enough uneven
      · intro confounds
        cases confounds with
        | bitmap astray => exact .inl astray
        | views enough uneven => exact .inr ⟨enough, uneven⟩

/-- Whether the members of a union confound its reader: their arrays may be those of its slots, and one
has a negative id. -/
def MembersConfound (length : Nat) (places : Option (List Int)) (members : List (Int × ArrayShape)) :
    Prop :=
  (places.isSome ∨ ∀ member ∈ members, member.2.length = length) ∧ ∃ member ∈ members, member.1 < 0

theorem aborts_ofUnion {members : List (Int × ArrayShape)} {ids : Bytes}
    {places : Option (List Int)} :
    Aborts (ofUnion members ids places) ↔ MembersConfound ids.length places members := by
  unfold ofUnion MembersConfound
  simp only [aborts_accept_bind, aborts_insist_bind, aborts_ok, and_false, imp_false, Bool.or_eq_true,
    List.all_eq_true, decide_eq_true_eq, not_forall, Int.not_le, exists_prop]

end ArrayShape

end Columnar.Ipc
