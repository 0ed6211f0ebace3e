import Columnar.Ipc.ArrayReader
import Columnar.Proofs.Sequence

/-!
Faults of decoding. A fault that can come of bytes alone tells of no device that failed: a read of bytes
fails only where they end or for a place that cannot be (`Fault.OfBytes`). `Decodes` says that a step has
no other faults, together with what is known of its value, and goes through a sequence of steps by
`Decodes.bind`. What a shape leaves to be asked later is lawful if asking has no other faults either.
-/
namespace Columnar.Ipc

/-- Whether a fault can come of bytes alone. -/
def Fault.OfBytes : Fault → Prop
  | .rejected (.io cause) => cause.kind = .unexpectedEnd ∨ cause.kind = .invalidInput
  | _ => True

/-- Whether decoding gives a good value, or else a fault that can come of bytes alone. -/
def Decodes {α : Type} (good : α → Prop) : Decoded α → Prop
  | .ok value => good value
  | .error fault => fault.OfBytes

/-- Whether decoding has no faults but those that can come of bytes alone. -/
abbrev Sure {α : Type} (decoded : Decoded α) : Prop :=
  Decodes (fun _ => True) decoded

section Steps

variable {α β : Type} {good : α → Prop} {good' : β → Prop}

@[simp] theorem decodes_ok {value : α} : Decodes good (.ok value) ↔ good value :=
  Iff.rfl

@[simp] theorem decodes_undecodable : Decodes good undecodable :=
  trivial

@[simp] theorem decodes_abort : Decodes good abort :=
  trivial

@[simp] theorem decodes_bind {decoded : Decoded β} {next : β → Decoded α} :
    Decodes good (decoded >>= next) ↔ Decodes (fun value => Decodes good (next value)) decoded := by
  cases decoded <;> rfl

@[simp] theorem decodes_map {decoded : Decoded β} {map : β → α} :
    Decodes good (map <$> decoded) ↔ Decodes (fun value => good (map value)) decoded := by
  cases decoded <;> rfl

@[simp] theorem decodes_ite {condition : Prop} [Decidable condition] {first second : Decoded α} :
    Decodes good (if condition then first else second) ↔
      (condition → Decodes good first) ∧ (¬condition → Decodes good second) := by
  split <;> simp [*]

@[simp] theorem decodes_accept {condition : Bool} {good : Unit → Prop} :
    Decodes good (accept condition) ↔ (condition = true → good ()) := by
  simp [accept]

@[simp] theorem decodes_insist {condition : Bool} {good : Unit → Prop} :
    Decodes good (insist condition) ↔ (condition = true → good ()) := by
  simp [insist]

theorem sure_demand (value? : Option α) : Sure (demand value?) := by
  cases value? <;> trivial

theorem Decodes.imp {decoded : Decoded α} (first : Decodes good decoded) {better : α → Prop}
    (each : ∀ value, good value → better value) : Decodes better decoded := by
  cases decoded with
  | error fault => exact first
  | ok value => exact each value first

theorem Decodes.bind {decoded : Decoded α} {next : α → Decoded β} (first : Decodes good decoded)
    (rest : ∀ value, good value → Decodes good' (next value)) :
    Decodes good' (decoded >>= next) :=
  decodes_bind.mpr (first.imp rest)

private theorem sure_mapM {items : List β} {read : β → Decoded α} (each : ∀ item, Sure (read item)) :
    Sure (items.mapM read) := by
  induction items with
  | nil => trivial
  | cons item rest ih =>
    rw [List.mapM_cons]
    exact (each item).bind fun _ _ => ih.bind fun _ _ => trivial

end Steps

section Buffers

private theorem sure_bufferBytes (codec : Option Int) (body : Bytes) (region : BufferRegion) :
    Sure (bufferBytes codec body region) := by
  simp [bufferBytes, uncompressed]

private theorem sure_fixedValues (width length : Nat) (values : Bytes) :
    Sure (fixedValues width length values) := by
  simp [fixedValues]

private theorem sure_truthValues (length : Nat) (values : Bytes) : Sure (truthValues length values) := by
  simp [truthValues]

private theorem sure_offsetsOf (width length limit : Nat) (offsets : Bytes) :
    Sure (offsetsOf width length limit offsets) := by
  simp [offsetsOf]

private theorem sure_binaryValues (width length : Nat) (offsets bytes : Bytes) :
    Sure (binaryValues width length offsets bytes) :=
  (sure_offsetsOf _ _ _ _).bind fun _ _ => trivial

private theorem sure_textOfPart (whole : Bool) (bytes : Bytes) (part : Nat × Nat × Bytes) :
    Sure (textOfPart whole bytes part) := by
  rw [textOfPart]
  split
  · trivial
  · split <;> trivial

private theorem sure_textValues (width length : Nat) (offsets bytes : Bytes) :
    Sure (textValues width length offsets bytes) :=
  (sure_offsetsOf _ _ _ _).bind fun _ _ => sure_mapM fun _ => sure_textOfPart _ _ _

private theorem sure_checkBitmap (length : Nat) (nullCount : Int) (bitmap : Bytes) :
    Sure (checkBitmap length nullCount bitmap) := by
  simp [checkBitmap]

end Buffers

namespace Supply

theorem sure_node (supply : Supply) : Sure supply.node := by
  rw [node]
  split <;> trivial

theorem sure_variadicCount (supply : Supply) : Sure supply.variadicCount := by
  rw [variadicCount]
  split <;> trivial

variable (codec : Option Int) (body : Bytes)

theorem sure_buffer (supply : Supply) : Sure (supply.buffer codec body) := by
  rw [buffer]
  split
  · exact (sure_bufferBytes _ _ _).bind fun _ _ => trivial
  · trivial

theorem sure_take (count : Nat) (supply : Supply) : Sure (supply.take codec body count) := by
  induction count generalizing supply with
  | zero => trivial
  | succ count ih =>
    exact (sure_buffer codec body supply).bind fun _ _ => (ih _).bind fun _ _ => trivial

theorem sure_columnOf (storage : StorageType) (node : FieldNode) (buffers : List Bytes) :
    Sure (columnOf storage node buffers) := by
  refine (sure_checkBitmap _ _ _).bind fun _ _ => ?_
  cases storage with
  | boolean => exact (sure_truthValues _ _).bind fun _ _ => trivial
  | utf8 => exact (sure_textValues _ _ _ _).bind fun _ _ => trivial
  | binary => exact (sure_binaryValues _ _ _ _).bind fun _ _ => trivial
  | _ => exact (sure_fixedValues _ _ _).bind fun _ _ => trivial

theorem sure_column (storage : StorageType) (supply : Supply) :
    Sure (supply.column codec body storage) :=
  supply.sure_node.bind fun _ _ => (sure_take codec body _ _).bind fun _ _ =>
    (sure_columnOf _ _ _).bind fun _ _ => trivial

theorem sure_columns (storages : List StorageType) (supply : Supply) :
    Sure (supply.columns codec body storages) := by
  induction storages generalizing supply with
  | nil => trivial
  | cons storage storages ih =>
    exact (sure_column codec body storage supply).bind fun _ _ => (ih _).bind fun _ _ => trivial

end Supply

theorem sure_supply (table : RecordBatchTable) : Sure table.supply := by
  rw [RecordBatchTable.supply]
  split
  · simp
  · trivial

theorem sure_batch (table : RecordBatchTable) (fields : List (StorageType × Bool)) (body : Bytes) :
    Sure (table.batch fields body) :=
  (sure_supply table).bind fun _ _ => (Supply.sure_columns _ body _ _).bind fun _ _ => by simp

/-- Whether asking which slots of an array hold a value has no faults but those of bytes. -/
def ArrayShape.Lawful (shape : ArrayShape) : Prop :=
  Sure shape.presence

namespace ArrayShape

@[simp] theorem lawful_plain (length : Nat) (bitmap : Option (List Bool)) (words : Bytes) :
    (plain length bitmap words).Lawful :=
  trivial

private theorem sure_ownBitmap (length : Nat) (nullCount : Int) (bitmap : Bytes) :
    Sure (ownBitmap length nullCount bitmap) :=
  (sure_checkBitmap _ _ _).bind fun _ _ => trivial

theorem decodes_ofNulls (node : FieldNode) : Decodes Lawful (ofNulls node) := by
  simp [ofNulls, Lawful]

theorem decodes_ofTruths (node : FieldNode) (bitmap values : Bytes) :
    Decodes Lawful (ofTruths node bitmap values) :=
  (sure_ownBitmap _ _ _).bind fun _ _ => (sure_truthValues _ _).bind fun _ _ => trivial

theorem decodes_ofWords (width : Nat) (node : FieldNode) (bitmap words : Bytes) :
    Decodes Lawful (ofWords width node bitmap words) :=
  (sure_ownBitmap _ _ _).bind fun _ _ => by simp

theorem decodes_ofStrings (width : Nat) (text : Bool) (node : FieldNode)
    (bitmap offsets bytes : Bytes) :
    Decodes Lawful (ofStrings width text node bitmap offsets bytes) := by
  refine (sure_ownBitmap _ _ _).bind fun _ _ => ?_
  split
  · exact (sure_textValues _ _ _ _).bind fun _ _ => trivial
  · exact (sure_binaryValues _ _ _ _).bind fun _ _ => trivial

theorem decodes_ofViews (text : Bool) (node : FieldNode) (buffers : List Bytes) :
    Decodes Lawful (ofViews text node buffers) := by
  cases buffers with
  | nil => trivial
  | cons bitmap rest =>
    refine (sure_ownBitmap _ _ _).bind fun _ _ => ?_
    cases rest with
    | nil => trivial
    | cons views buffers => simp

theorem decodes_ofLists (width : Nat) (nullable : Bool) (node : FieldNode)
    (bitmap offsets : Bytes) (items : ArrayShape) :
    Decodes Lawful (ofLists width nullable node bitmap offsets items) :=
  (sure_ownBitmap _ _ _).bind fun _ _ => (sure_offsetsOf _ _ _ _).bind fun _ _ => by
    simp

theorem decodes_ofSizedLists (size : Int) (nullable : Bool) (node : FieldNode) (bitmap : Bytes)
    (items : ArrayShape) : Decodes Lawful (ofSizedLists size nullable node bitmap items) :=
  (sure_ownBitmap _ _ _).bind fun _ _ => by simp

private theorem sure_lacksWithin {shape : ArrayShape} (lawful : shape.Lawful)
    (mask : Option (List Bool)) :
    Sure (shape.lacksWithin mask) := by
  refine lawful.bind fun presence _ => ?_
  cases presence <;> cases mask <;> trivial

theorem sure_checkFields {length : Nat} {mask : Option (List Bool)}
    {fields : List (Bool × ArrayShape)} (lawful : ∀ field ∈ fields, field.2.Lawful) :
    Sure (checkFields length mask fields) := by
  induction fields with
  | nil => trivial
  | cons field rest ih =>
    obtain ⟨nullable, shape⟩ := field
    obtain ⟨first, others⟩ := List.forall_mem_cons.mp lawful
    have later := ih others
    rw [checkFields]
    simp only [decodes_bind, decodes_accept]
    intro _
    split
    · exact (sure_lacksWithin first mask).bind fun _ _ => by simp [later]
    · simpa using later

theorem decodes_ofStructs (nullable : List Bool) (node : FieldNode) (bytes : Bytes)
    {fields : List ArrayShape} (lawful : ∀ field ∈ fields, field.Lawful) :
    Decodes Lawful (ofStructs nullable node bytes fields) := by
  refine (sure_ownBitmap _ _ _).bind fun _ _ => ?_
  cases fields with
  | nil => trivial
  | cons first rest =>
    simp only [decodes_bind, decodes_accept]
    intro _
    refine (sure_checkFields fun field member => ?_).imp fun _ _ => trivial
    exact lawful _ (List.of_mem_zip member).2

theorem decodes_ofRuns (width : Nat) (nullable : Bool) (node : FieldNode) (ends : ArrayShape)
    {values : ArrayShape} (lawful : values.Lawful) :
    Decodes Lawful (ofRuns width nullable node ends values) := by
  simp only [ofRuns, decodes_bind, decodes_accept, decodes_ok]
  intro _ _ _
  refine lawful.bind fun presence _ => ?_
  cases presence with
  | none => trivial
  | some presence => exact decodes_map.mpr (sure_demand _)

theorem decodes_ofKeys (width : Nat) (signed : Bool) (type : DataType) (node : FieldNode)
    (bitmap keys : Bytes) (dictionary : DictionaryValues) :
    Decodes Lawful (ofKeys width signed type node bitmap keys dictionary) :=
  (sure_ownBitmap _ _ _).bind fun _ _ => by
    simp [Lawful]

private theorem sure_lackingMembers {members : List (Int × ArrayShape)}
    (lawful : ∀ member ∈ members, member.2.Lawful) : Sure (lackingMembers members) := by
  induction members with
  | nil => trivial
  | cons member rest ih =>
    obtain ⟨first, others⟩ := List.forall_mem_cons.mp lawful
    refine first.bind fun presence _ => (ih others).bind fun _ _ => ?_
    cases presence <;> trivial

theorem sure_unionPresence {members : List (Int × ArrayShape)} {slots : List (Int × Nat)}
    (lawful : ∀ member ∈ members, member.2.Lawful) : Sure (unionPresence members slots) := by
  unfold unionPresence
  split
  · trivial
  · exact lawful _ (List.mem_singleton.mpr rfl)
  · exact (sure_lackingMembers lawful).bind fun _ _ => trivial

theorem decodes_ofUnion {members : List (Int × ArrayShape)} (ids : Bytes)
    (offsets : Option (List Int)) (lawful : ∀ member ∈ members, member.2.Lawful) :
    Decodes Lawful (ofUnion members ids offsets) := by
  simp only [ofUnion, decodes_bind, decodes_accept, decodes_insist, decodes_ok]
  intro _ _ _ _
  exact sure_unionPresence lawful

end ArrayShape

end Columnar.Ipc
