import Columnar.Ipc.FileReader
import Columnar.Proofs.Ipc.Strings

/-!
Batches that a reader accepts. Whoever wrote the bytes, the columns of the batch have the storages that
were asked for and one length, and their texts and byte strings lie behind signed offsets
(`firstBatch?_accepted`), so that a writer can lay them out again.
-/
namespace Columnar.Ipc

private theorem accept_eq_ok {condition : Bool} {done : Unit} :
    accept condition = .ok done ↔ condition = true := by
  cases condition <;> simp [accept, undecodable]

section Strings

variable {limit : Nat} {bytes : Bytes}

/-- Whether offsets are in order, each below a limit. -/
structure Ascending (limit : Nat) (bounds : List Nat) : Prop where
  below : ∀ bound ∈ bounds, bound < limit
  ordered : ∀ pair ∈ bounds.zip bounds.tail, pair.1 ≤ pair.2

private theorem Ascending.tail {start stop : Nat} {rest : List Nat}
    (ascending : Ascending limit (start :: stop :: rest)) : Ascending limit (stop :: rest) :=
  ⟨fun bound member => ascending.below bound (List.mem_cons_of_mem _ member),
    fun pair member => ascending.ordered pair (List.mem_cons_of_mem _ member)⟩

private theorem ascending_offsetsOf {width length : Nat} {offsets : Bytes} {bounds : List Nat}
    (read : offsetsOf width length bytes.length offsets = .ok bounds) :
    Ascending (256 ^ width / 2) bounds := by
  obtain ⟨_, -, read⟩ := bind_eq_ok.mp read
  split at read
  case isTrue =>
    obtain rfl := Except.ok.inj read
    exact ⟨by simp, by simp⟩
  case isFalse =>
    obtain ⟨_, -, read⟩ := bind_eq_ok.mp read
    obtain ⟨_, -, read⟩ := bind_eq_ok.mp read
    obtain ⟨_, placed, read⟩ := bind_eq_ok.mp read
    obtain ⟨_, ordered, read⟩ := bind_eq_ok.mp read
    obtain rfl := Except.ok.inj read
    rw [accept_eq_ok, List.all_eq_true] at placed ordered
    exact ⟨fun bound member => of_decide_eq_true (Bool.and_eq_true_iff.mp (placed bound member)).2,
      fun pair member => of_decide_eq_true (ordered pair member)⟩

private theorem length_partsBetween {start : Nat} {rest : List Nat}
    (ascending : Ascending limit (start :: rest)) :
    start + ((partsBetween bytes (start :: rest)).map fun (_, _, raw) => raw).flatten.length <
      limit := by
  induction rest generalizing start with
  | nil => exact ascending.below start (by simp)
  | cons stop rest ih =>
    have later := ih ascending.tail
    have order : start ≤ stop := ascending.ordered (start, stop) (by simp)
    have cut : (bytes.slice start (stop - start)).length ≤ stop - start := List.length_take_le _ _
    rw [partsBetween, List.tail_cons] at later ⊢
    rw [List.zip_cons_cons, List.map_cons, List.map_cons, List.flatten_cons, List.length_append]
    dsimp only at later ⊢
    omega

private theorem length_parts_lt {bounds : List Nat} (ascending : Ascending limit bounds)
    (positive : 0 < limit) :
    ((partsBetween bytes bounds).map fun (_, _, raw) => raw).flatten.length < limit := by
  cases bounds with
  | nil => exact positive
  | cons start rest => exact Nat.lt_of_le_of_lt (Nat.le_add_left _ _) (length_partsBetween ascending)

private theorem length_binaryValues {length : Nat} {offsets : Bytes} {values : List Bytes}
    (read : binaryValues 4 length offsets bytes = .ok values) : values.flatten.length < 2 ^ 31 := by
  obtain ⟨bounds, offsets, read⟩ := bind_eq_ok.mp read
  obtain rfl := Except.ok.inj read
  exact length_parts_lt (ascending_offsetsOf offsets) (by decide)

private theorem bytes_textOfPart {whole : Bool} {part : Nat × Nat × Bytes} {text : String}
    (read : textOfPart whole bytes part = .ok text) : Text.bytes text = part.2.2 := by
  rw [textOfPart] at read
  split at read
  case isTrue => cases read
  case isFalse =>
    split at read
    case h_1 decoded =>
      obtain rfl := Except.ok.inj read
      exact (Text.eq_bytes_of_ofBytes? decoded).symm
    case h_2 => cases read

private theorem length_textValues {length : Nat} {offsets : Bytes} {values : List String}
    (read : textValues 4 length offsets bytes = .ok values) :
    (values.map Text.bytes).flatten.length < 2 ^ 31 := by
  obtain ⟨bounds, offsets, read⟩ := bind_eq_ok.mp read
  have same : values.map Text.bytes = (partsBetween bytes bounds).map fun (_, _, raw) => raw := by
    rw [← List.forall₂_eq_eq_eq, List.forall₂_map_left_iff, List.forall₂_map_right_iff]
    exact (mapM_eq_ok.mp read).flip.imp fun _ _ own => bytes_textOfPart own
  rw [same]
  exact length_parts_lt (ascending_offsetsOf offsets) (by decide)

end Strings

private theorem length_slotsOf {α : Type} (length : Nat) (nullCount : Int) (bitmap : Bytes)
    (bytes : α → Bytes) (values : List α) :
    ((slotsOf length nullCount bitmap values).map fun slot => slot.elim [] bytes).flatten.length ≤
      (values.map bytes).flatten.length := by
  rw [slotsOf]
  split
  case isTrue =>
    -- The induction takes slots off both lists; a mask that is too short leaves fewer of them.
    generalize Bits.unpack length bitmap = mask
    induction values generalizing mask with
    | nil => simp
    | cons value values ih =>
      cases mask with
      | nil => exact Nat.zero_le _
      | cons valid mask =>
        have later := ih mask
        rw [List.zipWith_cons_cons, List.map_cons, List.flatten_cons, List.map_cons,
          List.flatten_cons, List.length_append, List.length_append]
        refine Nat.add_le_add ?_ later
        cases valid
        · exact Nat.zero_le _
        · exact Nat.le_refl _
  case isFalse => simp [Function.comp_def]

/-- Whether data has a storage and texts or byte strings that signed offsets can divide. -/
structure Sound (storage : StorageType) (data : ColumnData) : Prop where
  storage : data.storage = storage
  parts : data.parts.flatten.length < 2 ^ 31

private theorem sound_of_columnOf {storage : StorageType} {node : FieldNode} {buffers : List Bytes}
    {data : ColumnData} (read : columnOf storage node buffers = .ok data) : Sound storage data := by
  obtain ⟨_, -, read⟩ := bind_eq_ok.mp read
  cases storage with
  | utf8 =>
    obtain ⟨values, texts, read⟩ := bind_eq_ok.mp read
    obtain rfl := Except.ok.inj read
    exact ⟨rfl, Nat.lt_of_le_of_lt (length_slotsOf _ _ _ Text.bytes values)
      (length_textValues texts)⟩
  | binary =>
    obtain ⟨values, strings, read⟩ := bind_eq_ok.mp read
    obtain rfl := Except.ok.inj read
    have fewer := length_slotsOf (toWord node.length) node.nullCount (buffers.getD 0 []) id values
    rw [List.map_id] at fewer
    exact ⟨rfl, Nat.lt_of_le_of_lt fewer (length_binaryValues strings)⟩
  | _ =>
    obtain ⟨values, -, read⟩ := bind_eq_ok.mp read
    obtain rfl := Except.ok.inj read
    exact ⟨rfl, Nat.two_pow_pos 31⟩

theorem sound_of_columns {codec : Option Int} {body : Bytes} {storages : List StorageType}
    {supply rest : Supply} {columns : List ColumnData}
    (read : supply.columns codec body storages = .ok (columns, rest)) :
    List.Forall₂ Sound storages columns := by
  induction storages generalizing supply columns with
  | nil =>
    cases read
    exact .nil
  | cons storage storages ih =>
    obtain ⟨⟨data, supply⟩, first, read⟩ := bind_eq_ok.mp read
    obtain ⟨⟨others, supply⟩, later, same⟩ := bind_eq_ok.mp read
    cases same
    obtain ⟨_, -, first⟩ := bind_eq_ok.mp first
    obtain ⟨_, -, first⟩ := bind_eq_ok.mp first
    obtain ⟨_, made, same⟩ := bind_eq_ok.mp first
    cases same
    exact .cons (sound_of_columnOf made) (ih later)

/-- Whether a batch has the storages of some fields and columns as long as it has rows. -/
structure Accepted (fields : List (StorageType × Bool)) (batch : RecordBatch) : Prop where
  sound : List.Forall₂ Sound (fields.map (·.1)) batch.columns
  lengths : ∀ data ∈ batch.columns, data.length = batch.rows

theorem accepted_of_batch {table : RecordBatchTable} {fields : List (StorageType × Bool)}
    {body : Bytes} {batch : RecordBatch} (read : table.batch fields body = .ok batch) :
    Accepted fields batch := by
  obtain ⟨⟨supply, codec⟩, -, read⟩ := bind_eq_ok.mp read
  obtain ⟨⟨columns, rest⟩, columns', read⟩ := bind_eq_ok.mp read
  obtain ⟨_, -, read⟩ := bind_eq_ok.mp read
  obtain ⟨_, -, read⟩ := bind_eq_ok.mp read
  obtain ⟨_, lengths, read⟩ := bind_eq_ok.mp read
  obtain rfl := Except.ok.inj read
  rw [accept_eq_ok, List.all_eq_true] at lengths
  exact ⟨sound_of_columns columns', fun data member => of_decide_eq_true (lengths data member)⟩

theorem firstBatch?_accepted {reader : FileReader} {fields : List (StorageType × Bool)}
    {batch : RecordBatch} (read : reader.firstBatch? fields = .ok (some batch)) :
    Accepted fields batch := by
  rw [FileReader.firstBatch?] at read
  split at read
  case h_1 => cases read
  case h_2 =>
    obtain ⟨_, -, read⟩ := bind_eq_ok.mp read
    obtain ⟨message, -, read⟩ := bind_eq_ok.mp read
    split at read
    case h_1 =>
      obtain ⟨_, found, read⟩ := bind_eq_ok.mp read
      cases read
      exact accepted_of_batch found
    case h_2 => cases read
    case h_3 => cases read

end Columnar.Ipc
