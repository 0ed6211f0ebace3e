import Columnar.Ipc.ArrayReader
import Columnar.Proofs.Ipc.ShapeAborts

/-!
When reading an array aborts. Every array is read in three steps: its own buffers, its children, a check of
them all together (`array_eq`); only views, whose buffers come before the node, and unions, which have an
index, are read in another way. An array confounds its reader by the first of these steps that has no
answer (`ArrayConfounds`), and reading it aborts for no other reason (`aborts_array`).
-/
namespace Columnar.Ipc

namespace BatchBody

/-- The children of an array, which follow its own buffers. -/
def children : DataType → List Field
  | .list item | .largeList item | .fixedSizeList item _ => [item]
  | .map entries _ => [entries]
  | .struct fields => fields
  | .runEndEncoded ends values => [ends, values]
  | _ => []

/-- How many buffers of its own an array has between its node and its children. -/
def ownBuffers : DataType → Nat
  | .list _ | .largeList _ | .map _ _ | .dictionary _ _ => 2
  | .fixedSizeList _ _ | .struct _ => 1
  | type =>
    match SlotLayout.ofType? type with
    | some .truths | some (.words _) => 2
    | some (.strings _ _) => 3
    | _ => 0

def closeLists (width : Nat) (item : Field) (node : FieldNode) :
    List Bytes → List ArrayShape → Decoded ArrayShape
  | [bitmap, offsets], [items] => ArrayShape.ofLists width item.nullable node bitmap offsets items
  | _, _ => undecodable

def closeSlots (layout : SlotLayout) (node : FieldNode) (buffers : List Bytes) : Decoded ArrayShape :=
  match layout, buffers with
  | .nulls, [] => ArrayShape.ofNulls node
  | .truths, [bitmap, values] => ArrayShape.ofTruths node bitmap values
  | .words width, [bitmap, words] => do
    insist (0 ≤ width)
    ArrayShape.ofWords width.toNat node bitmap words
  | .strings width text, [bitmap, offsets, bytes] =>
    ArrayShape.ofStrings width text node bitmap offsets bytes
  | _, _ => undecodable

def closeKeys (body : BatchBody) (id : Int) (key value : DataType) (node : FieldNode) :
    List Bytes → Decoded ArrayShape
  | [bitmap, keys] =>
    match body.dictionaries.find? (·.id = id), keyLayout? key with
    | some dictionary, some (width, signed) =>
      ArrayShape.ofKeys width signed value node bitmap keys dictionary
    | _, _ => undecodable
  | _ => undecodable

def close (body : BatchBody) (id : Int) (type : DataType) (node : FieldNode) (buffers : List Bytes)
    (shapes : List ArrayShape) : Decoded ArrayShape :=
  match type with
  | .list item => closeLists 4 item node buffers shapes
  | .largeList item => closeLists 8 item node buffers shapes
  | .map entries _ => do
    let shape ← closeLists 4 entries node buffers shapes
    insist (isPairType entries.dataType)
    .ok shape
  | .fixedSizeList item size =>
    match buffers, shapes with
    | [bitmap], [items] => ArrayShape.ofSizedLists size item.nullable node bitmap items
    | _, _ => undecodable
  | .struct fields =>
    match buffers with
    | [bitmap] => ArrayShape.ofStructs (fields.map (·.nullable)) node bitmap shapes
    | _ => undecodable
  | .runEndEncoded ends _ =>
    match shapes, runEndWidth? ends.dataType with
    | [bounds, runs], some width => ArrayShape.ofRuns width ends.nullable node bounds runs
    | _, _ => undecodable
  | .dictionary key value => body.closeKeys id key value node buffers
  | type =>
    match SlotLayout.ofType? type with
    | some layout => closeSlots layout node buffers
    | none => undecodable

def isRegular : DataType → Bool
  | .union _ _ | .utf8View | .binaryView => false
  | _ => true

theorem buffers_zero (body : BatchBody) (supply : Supply) : body.buffers 0 supply = .ok ([], supply) :=
  rfl

theorem buffers_succ (body : BatchBody) (count : Nat) (supply : Supply) :
    body.buffers (count + 1) supply = (do
      let (first, supply) ← body.buffer supply
      let (rest, supply) ← body.buffers count supply
      .ok (first :: rest, supply)) := rfl

private theorem array_eq (body : BatchBody) (id : Int) {type : DataType} (regular : isRegular type)
    (supply : Supply) :
    body.array id type supply = (do
      let (node, supply) ← supply.node
      let (buffers, supply) ← body.buffers (ownBuffers type) supply
      let (shapes, supply) ← body.fields (children type) supply
      let shape ← body.close id type node buffers shapes
      .ok (shape, supply)) := by
  cases type with
  | union => cases regular
  | utf8View => cases regular
  | binaryView => cases regular
  | list | largeList | map | fixedSizeList | struct =>
    simp only [array, ownBuffers, children, close, closeLists, buffers_succ, buffers_zero, fields,
      bind_assoc, ok_bind]
  | runEndEncoded ends values =>
    simp only [array, ownBuffers, children, close, fields, bind_assoc, ok_bind]
    cases runEndWidth? ends.dataType <;> rfl
  | dictionary key value =>
    simp only [array, keys, ownBuffers, children, close, closeKeys, buffers_succ, buffers_zero,
      fields, bind_assoc, ok_bind]
    cases body.dictionaries.find? (·.id = id) <;> cases keyLayout? key <;> rfl
  | interval unit =>
    cases unit <;> simp only [array, ownBuffers, children, close, closeSlots, slots,
      SlotLayout.ofType?, buffers_succ, buffers_zero, fields, bind_assoc, ok_bind]
  | _ =>
    simp only [array, ownBuffers, children, close, closeSlots, slots, SlotLayout.ofType?,
      buffers_succ, buffers_zero, fields, bind_assoc, ok_bind]

/-- Whether the parts of an array without children confound its reader. -/
inductive SlotsConfound (node : FieldNode) : SlotLayout → List Bytes → Prop
  | truths {bitmap values : Bytes}
    (astray : BitmapConfounds (toWord node.length) node.nullCount bitmap) :
    SlotsConfound node .truths [bitmap, values]
  | width {width : Int} {bitmap words : Bytes} (negative : width < 0) :
    SlotsConfound node (.words width) [bitmap, words]
  | words {width : Int} {bitmap words : Bytes}
    (astray : BitmapConfounds (toWord node.length) node.nullCount bitmap) :
    SlotsConfound node (.words width) [bitmap, words]
  | strings {width : Nat} {text : Bool} {bitmap offsets bytes : Bytes}
    (astray : PartsConfound width node bitmap offsets) :
    SlotsConfound node (.strings width text) [bitmap, offsets, bytes]

theorem aborts_closeSlots {layout : SlotLayout} {node : FieldNode} {buffers : List Bytes} :
    Aborts (closeSlots layout node buffers) ↔ SlotsConfound node layout buffers := by
  unfold closeSlots
  split
  case h_1 => exact iff_of_false (ArrayShape.not_aborts_ofNulls node) nofun
  case h_2 =>
    rw [ArrayShape.aborts_ofTruths]
    exact ⟨.truths, fun | .truths astray => astray⟩
  case h_3 width bitmap words =>
    rw [aborts_insist_bind, decide_eq_true_eq, ArrayShape.aborts_ofWords]
    constructor
    · intro astray
      by_cases natural : 0 ≤ width
      · exact .words (astray natural)
      · exact .width (Int.not_le.mp natural)
    · intro confounds natural
      cases confounds with
      | width negative => exact absurd natural (Int.not_le.mpr negative)
      | words astray => exact astray
  case h_4 =>
    rw [ArrayShape.aborts_ofStrings]
    exact ⟨.strings, fun | .strings astray => astray⟩
  case h_5 _ truths words strings =>
    refine iff_of_false aborts_undecodable ?_
    intro confounds
    cases confounds with
    | truths => exact truths _ _ rfl rfl
    | width => exact words _ _ _ rfl rfl
    | words => exact words _ _ _ rfl rfl
    | strings => exact strings _ _ _ _ _ rfl rfl

theorem aborts_closeLists {width : Nat} {item : Field} {node : FieldNode} {buffers : List Bytes}
    {shapes : List ArrayShape} :
    Aborts (closeLists width item node buffers shapes) ↔ ∃ bitmap offsets items,
      buffers = [bitmap, offsets] ∧ shapes = [items] ∧ PartsConfound width node bitmap offsets := by
  unfold closeLists
  split
  case h_1 =>
    rw [ArrayShape.aborts_ofLists]
    simp
  case h_2 other =>
    refine iff_of_false aborts_undecodable ?_
    rintro ⟨bitmap, offsets, items, rfl, rfl, -⟩
    exact other _ _ _ rfl rfl

private theorem closeLists_eq_ok {width : Nat} {item : Field} {node : FieldNode} {buffers : List Bytes}
    {shapes : List ArrayShape} {shape : ArrayShape}
    (closed : closeLists width item node buffers shapes = .ok shape) : ∃ bitmap offsets items,
      buffers = [bitmap, offsets] ∧ shapes = [items] ∧
        ArrayShape.ofLists width item.nullable node bitmap offsets items = .ok shape := by
  unfold closeLists at closed
  split at closed
  case h_1 => exact ⟨_, _, _, rfl, rfl, closed⟩
  case h_2 => cases closed

/-- How wide the offsets of an array of lists are, and the field of the items. -/
def listLayout? : DataType → Option (Nat × Field)
  | .list item => some (4, item)
  | .largeList item => some (8, item)
  | .map entries _ => some (4, entries)
  | _ => none

/-- Whether the parts of an array, each of which has been read, confound its reader together. -/
inductive CloseConfounds (body : BatchBody) (id : Int) (node : FieldNode) :
    DataType → List Bytes → List ArrayShape → Prop
  | slots {type : DataType} {layout : SlotLayout} {buffers : List Bytes} {shapes : List ArrayShape}
    (laid : SlotLayout.ofType? type = some layout) (astray : SlotsConfound node layout buffers) :
    CloseConfounds body id node type buffers shapes
  | lists {type : DataType} {width : Nat} {item : Field} {bitmap offsets : Bytes}
    {items : ArrayShape} (laid : listLayout? type = some (width, item))
    (astray : PartsConfound width node bitmap offsets) :
    CloseConfounds body id node type [bitmap, offsets] [items]
  | pairs {entries : Field} {sorted : Bool} {bitmap offsets : Bytes} {items shape : ArrayShape}
    (sound : ArrayShape.ofLists 4 entries.nullable node bitmap offsets items = .ok shape)
    (odd : isPairType entries.dataType = false) :
    CloseConfounds body id node (.map entries sorted) [bitmap, offsets] [items]
  | sizedBitmap {item : Field} {size : Int} {bitmap : Bytes} {items : ArrayShape}
    (astray : BitmapConfounds (toWord node.length) node.nullCount bitmap) :
    CloseConfounds body id node (.fixedSizeList item size) [bitmap] [items]
  | sized {item : Field} {size : Int} {bitmap : Bytes} {items : ArrayShape} (natural : 0 ≤ size)
    (many : 2 ^ 64 ≤ toWord node.length * size.toNat) :
    CloseConfounds body id node (.fixedSizeList item size) [bitmap] [items]
  | struct {fields : List Field} {bitmap : Bytes} {shapes : List ArrayShape}
    (astray : StructConfounds (fields.map (·.nullable)) node bitmap shapes) :
    CloseConfounds body id node (.struct fields) [bitmap] shapes
  | keys {key value : DataType} {bitmap keys : Bytes} {shapes : List ArrayShape}
    {dictionary : DictionaryValues} {width : Nat} {signed : Bool}
    (found : body.dictionaries.find? (·.id = id) = some dictionary)
    (laid : keyLayout? key = some (width, signed))
    (astray : KeysConfound width value node bitmap keys dictionary) :
    CloseConfounds body id node (.dictionary key value) [bitmap, keys] shapes

private theorem close_of_layout (body : BatchBody) (id : Int) {type : DataType} {layout : SlotLayout}
    (laid : SlotLayout.ofType? type = some layout) (node : FieldNode) (buffers : List Bytes)
    (shapes : List ArrayShape) :
    body.close id type node buffers shapes = closeSlots layout node buffers := by
  cases type with
  | interval unit => cases unit <;> cases laid <;> rfl
  | _ => cases laid <;> rfl

section Close

variable {body : BatchBody} {id : Int} {type : DataType} {node : FieldNode} {buffers : List Bytes}
  {shapes : List ArrayShape}

private theorem CloseConfounds.of_aborts (astray : Aborts (body.close id type node buffers shapes)) :
    CloseConfounds body id node type buffers shapes := by
  cases laid : SlotLayout.ofType? type with
  | some layout =>
    rw [close_of_layout body id laid] at astray
    exact .slots laid (aborts_closeSlots.mp astray)
  | none =>
    cases type with
    | list | largeList =>
      obtain ⟨_, _, _, rfl, rfl, parts⟩ := aborts_closeLists.mp astray
      exact .lists rfl parts
    | map entries sorted =>
      obtain astray | ⟨shape, closed, odd⟩ := aborts_bind.mp astray
      · obtain ⟨_, _, _, rfl, rfl, parts⟩ := aborts_closeLists.mp astray
        exact .lists rfl parts
      · obtain ⟨_, _, _, rfl, rfl, sound⟩ := closeLists_eq_ok closed
        apply CloseConfounds.pairs sound
        rw [Bool.eq_false_iff]
        intro pair
        rw [aborts_insist_bind] at odd
        exact aborts_ok _ (odd pair)
    | fixedSizeList item size =>
      unfold close at astray
      dsimp only at astray
      split at astray
      case h_1 =>
        obtain parts | ⟨natural, many⟩ := ArrayShape.aborts_ofSizedLists.mp astray
        · exact .sizedBitmap parts
        · exact .sized natural many
      case h_2 => exact absurd astray aborts_undecodable
    | struct fields =>
      unfold close at astray
      dsimp only at astray
      split at astray
      case h_1 => exact .struct (ArrayShape.aborts_ofStructs.mp astray)
      case h_2 => exact absurd astray aborts_undecodable
    | runEndEncoded ends values =>
      unfold close at astray
      dsimp only at astray
      split at astray
      case h_1 => exact absurd astray (ArrayShape.not_aborts_ofRuns _ _ _ _ _)
      case h_2 => exact absurd astray aborts_undecodable
    | dictionary key value =>
      unfold close closeKeys at astray
      dsimp only at astray
      split at astray
      case h_1 =>
        split at astray
        case h_1 dictionary width signed found laid =>
          exact .keys found laid (ArrayShape.aborts_ofKeys.mp astray)
        case h_2 => exact absurd astray aborts_undecodable
      case h_2 => exact absurd astray aborts_undecodable
    | union => exact absurd astray aborts_undecodable
    | interval unit => cases unit <;> cases laid
    | _ => cases laid

private theorem CloseConfounds.aborts (confounds : CloseConfounds body id node type buffers shapes) :
    Aborts (body.close id type node buffers shapes) := by
  cases confounds with
  | slots laid astray =>
    rw [close_of_layout body id laid]
    exact aborts_closeSlots.mpr astray
  | lists laid astray =>
    have lists (item : Field) (items : ArrayShape) := (@aborts_closeLists _ item node _
      [items]).mpr ⟨_, _, _, rfl, rfl, astray⟩
    cases type with
    | list | largeList =>
      cases laid
      exact lists _ _
    | map =>
      cases laid
      exact (lists _ _).bind
    | _ => cases laid
  | pairs sound odd =>
    apply Aborts.after sound
    rw [aborts_insist_bind, odd]
    exact nofun
  | sizedBitmap astray => exact ArrayShape.aborts_ofSizedLists.mpr (.inl astray)
  | sized natural many => exact ArrayShape.aborts_ofSizedLists.mpr (.inr ⟨natural, many⟩)
  | struct astray => exact ArrayShape.aborts_ofStructs.mpr astray
  | keys found laid astray =>
    unfold close closeKeys
    dsimp only
    rw [found, laid]
    exact ArrayShape.aborts_ofKeys.mpr astray

end Close

/-- Whether the places of the values of a dense union confound their reader: by their buffer, by too few
words in it, or as it is not aligned. -/
inductive PlacesConfound (body : BatchBody) (length : Nat) (supply : Supply) : Prop
  | buffer (astray : supply.Confounds body.codec body.bytes 1)
  | few {words : Bytes} {left : Supply} (read : body.buffer supply = .ok (words, left))
    (few : words.length < length * 4)
  | unaligned {words : Bytes} {left : Supply} (read : body.buffer supply = .ok (words, left))
    (unaligned : body.isAligned 4 supply = false)

/-- Whether the ids and the places of the values of a union confound their reader: by the bitmap before
them, by too few ids, or by the places of a dense union. -/
inductive IndexConfounds (body : BatchBody) (mode : UnionMode) (supply : Supply) : Prop
  | bitmap {node : FieldNode} {left : Supply} (first : supply.node = .ok (node, left))
    (astray : left.Confounds body.codec body.bytes (if body.version < currentVersion then 1 else 0))
  | ids {node : FieldNode} {left left' : Supply} {bitmap : List Bytes}
    (first : supply.node = .ok (node, left))
    (passed : body.buffers (if body.version < currentVersion then 1 else 0) left = .ok (bitmap, left'))
    (astray : left'.Confounds body.codec body.bytes 1)
  | few {node : FieldNode} {left left' left'' : Supply} {bitmap : List Bytes} {ids : Bytes}
    (first : supply.node = .ok (node, left))
    (passed : body.buffers (if body.version < currentVersion then 1 else 0) left = .ok (bitmap, left'))
    (read : body.buffer left' = .ok (ids, left'')) (few : ids.length < toWord node.length)
  | places {node : FieldNode} {left left' left'' : Supply} {bitmap : List Bytes} {ids : Bytes}
    (first : supply.node = .ok (node, left))
    (passed : body.buffers (if body.version < currentVersion then 1 else 0) left = .ok (bitmap, left'))
    (read : body.buffer left' = .ok (ids, left'')) (dense : mode = .dense)
    (astray : PlacesConfound body (toWord node.length) left'')

mutual

/-- Whether the array of a type confounds its reader. -/
inductive ArrayConfounds (body : BatchBody) : Int → DataType → Supply → Prop
  | buffers {id : Int} {type : DataType} {supply left : Supply} {node : FieldNode}
    (regular : isRegular type) (first : supply.node = .ok (node, left))
    (astray : left.Confounds body.codec body.bytes (ownBuffers type)) :
    ArrayConfounds body id type supply
  | children {id : Int} {type : DataType} {supply left left' : Supply} {node : FieldNode}
    {buffers : List Bytes} (regular : isRegular type) (first : supply.node = .ok (node, left))
    (taken : body.buffers (ownBuffers type) left = .ok (buffers, left'))
    (astray : FieldsConfound body (children type) left') : ArrayConfounds body id type supply
  | close {id : Int} {type : DataType} {supply left left' left'' : Supply} {node : FieldNode}
    {buffers : List Bytes} {shapes : List ArrayShape} (regular : isRegular type)
    (first : supply.node = .ok (node, left))
    (taken : body.buffers (ownBuffers type) left = .ok (buffers, left'))
    (read : body.fields (BatchBody.children type) left' = .ok (shapes, left''))
    (astray : CloseConfounds body id node type buffers shapes) : ArrayConfounds body id type supply
  | viewBuffers {id : Int} {type : DataType} {text : Bool} {supply left : Supply} {count : Int}
    (laid : SlotLayout.ofType? type = some (.views text))
    (counted : supply.variadicCount = .ok (count, left))
    (astray : left.Confounds body.codec body.bytes (count + 2).toNat) :
    ArrayConfounds body id type supply
  | views {id : Int} {type : DataType} {text : Bool} {supply left left' left'' : Supply} {count : Int}
    {buffers : List Bytes} {node : FieldNode} (laid : SlotLayout.ofType? type = some (.views text))
    (counted : supply.variadicCount = .ok (count, left))
    (taken : body.buffers (count + 2).toNat left = .ok (buffers, left'))
    (first : left'.node = .ok (node, left'')) (astray : ViewsConfound node buffers) :
    ArrayConfounds body id type supply
  | unionIndex {id : Int} {members : List (Int × Field)} {mode : UnionMode} {supply : Supply}
    (astray : IndexConfounds body mode supply) : ArrayConfounds body id (.union members mode) supply
  | unionChildren {id : Int} {members : List (Int × Field)} {mode : UnionMode} {supply left : Supply}
    {index : Bytes × Option (List Int)} (read : body.unionIndex mode supply = .ok (index, left))
    (astray : FieldsConfound body (members.map (·.2)) left) :
    ArrayConfounds body id (.union members mode) supply
  | unionMembers {id : Int} {members : List (Int × Field)} {mode : UnionMode}
    {supply left left' : Supply} {ids : Bytes} {places : Option (List Int)}
    {shapes : List (Int × ArrayShape)} (read : body.unionIndex mode supply = .ok ((ids, places), left))
    (found : body.members members left = .ok (shapes, left'))
    (astray : ArrayShape.MembersConfound ids.length places shapes) :
    ArrayConfounds body id (.union members mode) supply

inductive FieldsConfound (body : BatchBody) : List Field → Supply → Prop
  | first {field : Field} {rest : List Field} {supply : Supply}
    (astray : ArrayConfounds body field.dictionaryId.toInt field.dataType supply) :
    FieldsConfound body (field :: rest) supply
  | later {field : Field} {rest : List Field} {supply left : Supply} {shape : ArrayShape}
    (read : body.field field supply = .ok (shape, left)) (astray : FieldsConfound body rest left) :
    FieldsConfound body (field :: rest) supply

end

section Arrays

variable {body : BatchBody} {supply : Supply}

private theorem aborts_buffer :
    Aborts (body.buffer supply) ↔ supply.Confounds body.codec body.bytes 1 := by
  rw [← Supply.aborts_take]
  exact (aborts_bind_ok).symm

private theorem aborts_places {length : Nat} :
    Aborts (body.places length supply) ↔ PlacesConfound body length supply := by
  unfold places
  rw [aborts_bind, aborts_buffer]
  constructor
  · rintro (astray | ⟨⟨words, left⟩, read, astray⟩)
    · exact .buffer astray
    · rw [aborts_insist_bind, aborts_insist_bind, decide_eq_true_eq] at astray
      by_cases enough : length * 4 ≤ words.length
      · cases aligned : body.isAligned 4 supply with
        | false => exact .unaligned read aligned
        | true => exact absurd (astray enough aligned) (aborts_ok _)
      · exact .few read (Nat.not_le.mp enough)
  · rintro (astray | ⟨read, few⟩ | ⟨read, unaligned⟩)
    · exact .inl astray
    · refine .inr ⟨_, read, ?_⟩
      rw [aborts_insist_bind, decide_eq_true_eq]
      intro enough
      exact absurd few (Nat.not_lt.mpr enough)
    · refine .inr ⟨_, read, ?_⟩
      rw [aborts_insist_bind, aborts_insist_bind, unaligned]
      exact fun _ => nofun

theorem aborts_unionIndex {mode : UnionMode} :
    Aborts (body.unionIndex mode supply) ↔ IndexConfounds body mode supply := by
  unfold unionIndex
  constructor
  · intro astray
    obtain astray | ⟨⟨node, left⟩, first, astray⟩ := aborts_bind.mp astray
    · exact absurd astray (Supply.not_aborts_node supply)
    obtain astray | ⟨⟨bitmap, left'⟩, passed, astray⟩ := aborts_bind.mp astray
    · exact .bitmap first (Supply.aborts_take.mp astray)
    obtain astray | ⟨⟨ids, left''⟩, read, astray⟩ := aborts_bind.mp astray
    · exact .ids first passed (aborts_buffer.mp astray)
    rw [aborts_insist_bind, decide_eq_true_eq] at astray
    by_cases enough : toWord node.length ≤ ids.length
    · cases mode with
      | sparse => exact absurd (astray enough) (aborts_ok _)
      | dense =>
        exact .places first passed read rfl (aborts_places.mp (aborts_bind_ok.mp (astray enough)))
    · exact .few first passed read (Nat.not_le.mp enough)
  · intro confounds
    cases confounds with
    | bitmap first astray =>
      apply Aborts.after first
      exact (Supply.aborts_take.mpr astray).bind
    | ids first passed astray =>
      apply Aborts.after first
      apply Aborts.after passed
      exact (aborts_buffer.mpr astray).bind
    | few first passed read few =>
      apply Aborts.after first
      apply Aborts.after passed
      apply Aborts.after read
      rw [aborts_insist_bind, decide_eq_true_eq]
      intro enough
      exact absurd few (Nat.not_lt.mpr enough)
    | places first passed read dense astray =>
      apply Aborts.after first
      apply Aborts.after passed
      apply Aborts.after read
      rw [aborts_insist_bind, dense]
      intro _
      exact (aborts_places.mpr astray).bind

theorem aborts_fields {fields : List Field}
    (each : ∀ field ∈ fields, ∀ supply, Aborts (body.field field supply) ↔
      ArrayConfounds body field.dictionaryId.toInt field.dataType supply) :
    Aborts (body.fields fields supply) ↔ FieldsConfound body fields supply := by
  induction fields generalizing supply with
  | nil => exact iff_of_false (aborts_ok _) nofun
  | cons field rest ih =>
    obtain ⟨own, others⟩ := List.forall_mem_cons.mp each
    rw [fields, aborts_bind, own]
    constructor
    · rintro (astray | ⟨⟨shape, left⟩, read, astray⟩)
      · exact .first astray
      · exact .later read ((ih others).mp (aborts_bind_ok.mp astray))
    · intro confounds
      cases confounds with
      | first astray => exact .inl astray
      | later read astray => exact .inr ⟨_, read, aborts_bind_ok.mpr ((ih others).mpr astray)⟩

private theorem members_eq (members : List (Int × Field)) (supply : Supply) :
    body.members members supply = (do
      let (shapes, supply) ← body.fields (members.map (·.2)) supply
      .ok ((members.map (·.1)).zip shapes, supply)) := by
  induction members generalizing supply with
  | nil => rfl
  | cons member rest ih =>
    obtain ⟨id, field⟩ := member
    simp only [BatchBody.members, List.map_cons, fields, ih, bind_assoc, ok_bind, List.zip_cons_cons]

variable {id : Int} {type : DataType}

private theorem not_regular_of_views {text : Bool}
    (laid : SlotLayout.ofType? type = some (.views text)) :
    isRegular type = false := by
  cases type with
  | interval unit => cases unit <;> cases laid
  | _ => cases laid <;> rfl

private theorem aborts_array_of_regular (regular : isRegular type)
    (each : ∀ field ∈ children type, ∀ supply, Aborts (body.field field supply) ↔
      ArrayConfounds body field.dictionaryId.toInt field.dataType supply) :
    Aborts (body.array id type supply) ↔ ArrayConfounds body id type supply := by
  rw [array_eq body id regular]
  constructor
  · intro astray
    obtain astray | ⟨⟨node, left⟩, first, astray⟩ := aborts_bind.mp astray
    · exact absurd astray (Supply.not_aborts_node supply)
    obtain astray | ⟨⟨buffers, left'⟩, taken, astray⟩ := aborts_bind.mp astray
    · exact .buffers regular first (Supply.aborts_take.mp astray)
    obtain astray | ⟨⟨shapes, left''⟩, read, astray⟩ := aborts_bind.mp astray
    · exact .children regular first taken ((aborts_fields each).mp astray)
    · exact .close regular first taken read (CloseConfounds.of_aborts (aborts_bind_ok.mp astray))
  · intro confounds
    cases confounds with
    | buffers _ first astray =>
      apply Aborts.after first
      exact (Supply.aborts_take.mpr astray).bind
    | children _ first taken astray =>
      apply Aborts.after first
      apply Aborts.after taken
      exact ((aborts_fields each).mpr astray).bind
    | close _ first taken read astray =>
      apply Aborts.after first
      apply Aborts.after taken
      apply Aborts.after read
      exact astray.aborts.bind
    | viewBuffers laid => cases regular.symm.trans (not_regular_of_views laid)
    | views laid => cases regular.symm.trans (not_regular_of_views laid)
    | unionIndex => cases regular
    | unionChildren => cases regular
    | unionMembers => cases regular

private theorem not_aborts_variadicCount (supply : Supply) : ¬Aborts supply.variadicCount := by
  unfold Supply.variadicCount
  split
  · exact aborts_ok _
  · exact aborts_undecodable

private theorem array_of_views {text : Bool} (laid : SlotLayout.ofType? type = some (.views text)) :
    body.array id type supply = body.slots (.views text) supply := by
  cases type with
  | interval unit => cases unit <;> cases laid
  | _ => cases laid <;> rfl

private theorem aborts_array_of_views {text : Bool}
    (laid : SlotLayout.ofType? type = some (.views text)) :
    Aborts (body.array id type supply) ↔ ArrayConfounds body id type supply := by
  rw [array_of_views laid]
  have irregular := not_regular_of_views laid
  constructor
  · intro astray
    obtain astray | ⟨⟨count, left⟩, counted, astray⟩ := aborts_bind.mp astray
    · exact absurd astray (not_aborts_variadicCount supply)
    obtain astray | ⟨⟨buffers, left'⟩, taken, astray⟩ := aborts_bind.mp astray
    · exact .viewBuffers laid counted (Supply.aborts_take.mp astray)
    obtain astray | ⟨⟨node, left''⟩, first, astray⟩ := aborts_bind.mp astray
    · exact absurd astray (Supply.not_aborts_node left')
    · exact .views laid counted taken first (ArrayShape.aborts_ofViews.mp (aborts_bind_ok.mp astray))
  · intro confounds
    cases confounds with
    | buffers regular => cases irregular.symm.trans regular
    | children regular => cases irregular.symm.trans regular
    | close regular => cases irregular.symm.trans regular
    | viewBuffers _ counted astray =>
      apply Aborts.after counted
      exact (Supply.aborts_take.mpr astray).bind
    | views _ counted taken first astray =>
      apply Aborts.after counted
      apply Aborts.after taken
      apply Aborts.after first
      exact (ArrayShape.aborts_ofViews.mpr astray).bind
    | unionIndex => cases laid
    | unionChildren => cases laid
    | unionMembers => cases laid

theorem aborts_members {members : List (Int × Field)}
    (each : ∀ field ∈ members.map (·.2), ∀ supply, Aborts (body.field field supply) ↔
      ArrayConfounds body field.dictionaryId.toInt field.dataType supply) :
    Aborts (body.members members supply) ↔ FieldsConfound body (members.map (·.2)) supply := by
  rw [members_eq]
  exact aborts_bind_ok.trans (aborts_fields each)

private theorem aborts_array_of_union {members : List (Int × Field)} {mode : UnionMode}
    (each : ∀ field ∈ members.map (·.2), ∀ supply, Aborts (body.field field supply) ↔
      ArrayConfounds body field.dictionaryId.toInt field.dataType supply) :
    Aborts (body.array id (.union members mode) supply) ↔
      ArrayConfounds body id (.union members mode) supply := by
  rw [array]
  constructor
  · intro astray
    obtain astray | ⟨⟨⟨ids, places⟩, left⟩, read, astray⟩ := aborts_bind.mp astray
    · exact .unionIndex (aborts_unionIndex.mp astray)
    obtain astray | ⟨⟨shapes, left'⟩, found, astray⟩ := aborts_bind.mp astray
    · exact .unionChildren read ((aborts_members each).mp astray)
    · exact .unionMembers read found (ArrayShape.aborts_ofUnion.mp (aborts_bind_ok.mp astray))
  · intro confounds
    cases confounds with
    | buffers regular => cases regular
    | children regular => cases regular
    | close regular => cases regular
    | viewBuffers laid => cases laid
    | views laid => cases laid
    | unionIndex astray => exact (aborts_unionIndex.mpr astray).bind
    | unionChildren read astray =>
      apply Aborts.after read
      exact ((aborts_members each).mpr astray).bind
    | unionMembers read found astray =>
      apply Aborts.after read
      apply Aborts.after found
      exact (ArrayShape.aborts_ofUnion.mpr astray).bind

private theorem sizeOf_dataType_lt (field : Field) : sizeOf field.dataType < sizeOf field := by
  cases field
  simp only [Field.mk.sizeOf_spec]
  omega

private theorem sizeOf_lt_of_mem_children {field : Field} (child : field ∈ children type) :
    sizeOf field.dataType < sizeOf type := by
  have own := sizeOf_dataType_lt field
  cases type with
  | list | largeList | fixedSizeList | map =>
    cases List.mem_singleton.mp child
    simp only [DataType.list.sizeOf_spec, DataType.largeList.sizeOf_spec,
      DataType.fixedSizeList.sizeOf_spec, DataType.map.sizeOf_spec]
    omega
  | struct fields =>
    have listed : sizeOf field < sizeOf fields := List.sizeOf_lt_of_mem child
    rw [DataType.struct.sizeOf_spec]
    omega
  | runEndEncoded ends values =>
    have listed : field ∈ [ends, values] := child
    rw [DataType.runEndEncoded.sizeOf_spec]
    obtain rfl | rfl : field = ends ∨ field = values := by simpa using listed
    · omega
    · omega
  | _ => cases child

private theorem sizeOf_lt_of_mem_members {members : List (Int × Field)} {mode : UnionMode}
    {field : Field} (member : field ∈ members.map (·.2)) :
    sizeOf field.dataType < sizeOf (DataType.union members mode) := by
  obtain ⟨⟨id, field⟩, listed, rfl⟩ := List.mem_map.mp member
  have own := sizeOf_dataType_lt field
  have listed := List.sizeOf_lt_of_mem listed
  rw [Prod.mk.sizeOf_spec] at listed
  rw [DataType.union.sizeOf_spec]
  dsimp only
  omega

private theorem field_eq (field : Field) :
    body.field field supply = body.array field.dictionaryId.toInt field.dataType supply := by
  cases field
  rw [BatchBody.field]

theorem aborts_array {body : BatchBody} {id : Int} {type : DataType} {supply : Supply} :
    Aborts (body.array id type supply) ↔ ArrayConfounds body id type supply := by
  have nested (field : Field) (smaller : sizeOf field.dataType < sizeOf type) (supply : Supply) :
      Aborts (body.field field supply) ↔
        ArrayConfounds body field.dictionaryId.toInt field.dataType supply := by
    rw [field_eq]
    exact aborts_array
  cases regular : isRegular type with
  | true =>
    apply aborts_array_of_regular regular
    intro field child
    exact nested field (sizeOf_lt_of_mem_children child)
  | false =>
    cases type with
    | union members mode =>
      apply aborts_array_of_union
      intro field member
      exact nested field (sizeOf_lt_of_mem_members member)
    | utf8View | binaryView => exact aborts_array_of_views rfl
    | _ => cases regular
termination_by sizeOf type

end Arrays

end BatchBody

end Columnar.Ipc
