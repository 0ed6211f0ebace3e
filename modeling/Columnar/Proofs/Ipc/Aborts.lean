import Columnar.Proofs.Ipc.Accepted

/-!
When reading a record batch aborts. A step aborts if it insists on what does not hold; steps in sequence
abort with the first that does (`aborts_bind`). So a batch confounds its reader by a buffer, a bitmap or
offsets that do not have the bytes their column asks for, provided that all before it can be read
(`aborts_batch`).
-/
namespace Columnar.Ipc

/-- Whether decoding ends without an answer. -/
def Aborts {α : Type} (decoded : Decoded α) : Prop :=
  decoded = .error .aborted

section Steps

variable {α β : Type}

@[simp] theorem aborts_ok (value : α) : ¬Aborts (.ok value) :=
  nofun

@[simp] theorem aborts_rejected (cause : FormatError) : ¬Aborts (.error (.rejected cause) : Decoded α) :=
  nofun

@[simp] theorem aborts_undecodable : ¬Aborts (undecodable : Decoded α) :=
  nofun

/-- A sequence aborts if its first step does, or else what follows the first step. -/
theorem aborts_bind {first : Decoded α} {next : α → Decoded β} :
    Aborts (first >>= next) ↔ Aborts first ∨ ∃ value, first = .ok value ∧ Aborts (next value) :=
  bind_eq_error

theorem Aborts.bind {first : Decoded α} {next : α → Decoded β} (astray : Aborts first) :
    Aborts (first >>= next) :=
  aborts_bind.mpr (.inl astray)

theorem Aborts.after {first : Decoded α} {next : α → Decoded β} {value : α}
    (done : first = .ok value) (astray : Aborts (next value)) : Aborts (first >>= next) :=
  aborts_bind.mpr (.inr ⟨value, done, astray⟩)

theorem aborts_bind_of_answered {first : Decoded α} {next : α → Decoded β}
    (answered : ∀ value, ¬Aborts (next value)) : Aborts (first >>= next) ↔ Aborts first := by
  rw [aborts_bind]
  constructor
  · rintro (astray | ⟨value, -, astray⟩)
    · exact astray
    · exact absurd astray (answered value)
  · exact .inl

theorem aborts_bind_ok {first : Decoded α} {next : α → β} :
    Aborts (first >>= fun value => .ok (next value)) ↔ Aborts first :=
  aborts_bind_of_answered fun value => aborts_ok (next value)

theorem not_aborts_accept (condition : Bool) : ¬Aborts (accept condition) := by
  cases condition <;> nofun

theorem aborts_accept_bind {condition : Bool} {next : Unit → Decoded β} :
    Aborts (accept condition >>= next) ↔ condition = true ∧ Aborts (next ()) := by
  cases condition
  · exact iff_of_false nofun nofun
  · simp [accept]

theorem aborts_insist_bind {condition : Bool} {next : Unit → Decoded β} :
    Aborts (insist condition >>= next) ↔ (condition = true → Aborts (next ())) := by
  cases condition
  · exact iff_of_true rfl nofun
  · simp [insist]

theorem aborts_demand_bind {value? : Option α} {next : α → Decoded β} :
    Aborts (demand value? >>= next) ↔ ∀ value ∈ value?, Aborts (next value) := by
  cases value? with
  | none => exact iff_of_true rfl nofun
  | some value => simp [demand]

private theorem not_aborts_mapM {items : List β} {read : β → Decoded α}
    (each : ∀ item, ¬Aborts (read item)) :
    ¬Aborts (items.mapM read) := by
  intro aborts
  obtain ⟨_, item, _, _, _, own⟩ := mapM_eq_error.mp aborts
  exact each item own

end Steps

section Buffers

variable {codec : Option Int} {body : Bytes}

/-- Whether a region confounds the reader of a body: some of its bytes lie outside, or they are too few to
begin with the length they had before compression. -/
inductive BufferRegion.Confounds (codec : Option Int) (body : Bytes) (region : BufferRegion) : Prop
  | outside (beyond : body.length < toWord region.offset + toWord region.length)
  | packed (compressed : codec ≠ none) (some : 0 < toWord region.length)
    (short : toWord region.length < 8)

private theorem aborts_uncompressed {bytes : Bytes} :
    Aborts (uncompressed codec bytes) ↔ codec ≠ none ∧ 0 < bytes.length ∧ bytes.length < 8 := by
  unfold uncompressed
  split
  case isTrue plain =>
    refine iff_of_false (aborts_ok _) ?_
    rintro ⟨compressed, some, -⟩
    obtain same | rfl := plain
    · exact compressed same
    · exact absurd some (Nat.lt_irrefl 0)
  case isFalse packed =>
    obtain ⟨compressed, some⟩ := not_or.mp packed
    have answered (length : Int) : ¬Aborts (if length = 0 then .ok [] else if length = -1 then
        .ok (bytes.drop 8) else undecodable : Decoded Bytes) := by
      split
      · exact aborts_ok _
      · split
        · exact aborts_ok _
        · exact aborts_undecodable
    rw [aborts_insist_bind, decide_eq_true_eq]
    constructor
    · intro astray
      refine ⟨compressed, List.length_pos_iff.mpr some, ?_⟩
      by_contra enough
      exact answered _ (astray (Nat.not_lt.mp enough))
    · rintro ⟨-, -, short⟩ enough
      omega

private theorem aborts_bufferBytes {region : BufferRegion} :
    Aborts (bufferBytes codec body region) ↔ region.Confounds codec body := by
  unfold bufferBytes
  rw [aborts_insist_bind, decide_eq_true_eq, aborts_uncompressed]
  have cut (inside : toWord region.offset + toWord region.length ≤ body.length) :
      (body.slice (toWord region.offset) (toWord region.length)).length = toWord region.length := by
    unfold Bytes.slice
    rw [List.length_take, List.length_drop]
    omega
  constructor
  · intro astray
    by_cases inside : toWord region.offset + toWord region.length ≤ body.length
    · obtain ⟨compressed, some, short⟩ := astray inside
      rw [cut inside] at some short
      exact .packed compressed some short
    · exact .outside (Nat.not_le.mp inside)
  · rintro (beyond | ⟨compressed, some, short⟩) inside
    · omega
    · rw [cut inside]
      exact ⟨compressed, some, short⟩

/-- Whether the first `count` buffers confound their reader: one is missing or has such a region, and
those before it can be read. -/
def Supply.Confounds (codec : Option Int) (body : Bytes) (count : Nat) (supply : Supply) : Prop :=
  ∃ index < count,
    (∀ region ∈ supply.buffers.take index, ∃ bytes, bufferBytes codec body region = .ok bytes) ∧
    ∀ region ∈ supply.buffers[index]?, region.Confounds codec body

private theorem Supply.confounds_cons {count : Nat} {nodes : List FieldNode} {region : BufferRegion}
    {rest : List BufferRegion} {counts : List Int} :
    Confounds codec body (count + 1) ⟨nodes, region :: rest, counts⟩ ↔
      region.Confounds codec body ∨ ∃ bytes, bufferBytes codec body region = .ok bytes ∧
        Confounds codec body count ⟨nodes, rest, counts⟩ := by
  constructor
  · rintro ⟨index, inside, before, astray⟩
    cases index with
    | zero => exact .inl (astray region rfl)
    | succ index =>
      obtain ⟨⟨bytes, own⟩, others⟩ := List.forall_mem_cons.mp before
      exact .inr ⟨bytes, own, index, Nat.lt_of_succ_lt_succ inside, others, astray⟩
  · rintro (own | ⟨bytes, own, index, inside, before, astray⟩)
    · refine ⟨0, Nat.succ_pos count, nofun, ?_⟩
      rintro _ ⟨⟩
      exact own
    · refine ⟨index + 1, Nat.succ_lt_succ inside, ?_, astray⟩
      exact List.forall_mem_cons.mpr ⟨⟨bytes, own⟩, before⟩

theorem Supply.aborts_take {count : Nat} {supply : Supply} :
    Aborts (supply.take codec body count) ↔ supply.Confounds codec body count := by
  induction count generalizing supply with
  | zero =>
    refine iff_of_false (aborts_ok _) ?_
    rintro ⟨index, none, -⟩
    exact Nat.not_lt_zero index none
  | succ count ih =>
    obtain ⟨nodes, buffers, counts⟩ := supply
    unfold Supply.take Supply.buffer
    cases buffers with
    | nil => exact iff_of_true rfl ⟨0, Nat.succ_pos count, nofun, nofun⟩
    | cons region rest =>
      rw [confounds_cons, ← aborts_bufferBytes]
      simp only [bind_assoc, ok_bind, aborts_bind, ih, aborts_ok, and_false, exists_false, or_false]

end Buffers

section Columns

variable {codec : Option Int} {body : Bytes} {width length : Nat} {offsets bytes : Bytes}

/-- Whether a bitmap confounds its reader: it counts, and ends before the last slot. -/
structure BitmapConfounds (length : Nat) (nullCount : Int) (bitmap : Bytes) : Prop where
  nulls : 0 < nullCount
  short : 8 * bitmap.length < length

theorem aborts_checkBitmap_bind {α : Type} {nullCount : Int} {bitmap : Bytes}
    {next : Unit → Decoded α} :
    Aborts (checkBitmap length nullCount bitmap >>= next) ↔
      BitmapConfounds length nullCount bitmap ∨ Aborts (next ()) := by
  unfold checkBitmap
  rw [aborts_insist_bind, Bool.or_eq_true, decide_eq_true_eq, decide_eq_true_eq]
  constructor
  · intro astray
    by_cases whole : nullCount ≤ 0 ∨ length ≤ 8 * bitmap.length
    · exact .inr (astray whole)
    · rw [not_or, Int.not_le, Nat.not_le] at whole
      exact .inl ⟨whole.1, whole.2⟩
  · rintro (⟨nulls, short⟩ | astray) whole
    · omega
    · exact astray

/-- Whether the offsets of some slots confound their reader: they are not whole words, though there are
enough of them. -/
structure OffsetsConfound (width length : Nat) (offsets : Bytes) : Prop where
  enough : (length + 1) * width ≤ offsets.length
  uneven : offsets.length % width ≠ 0

theorem aborts_offsetsOf {limit : Nat} :
    Aborts (offsetsOf width length limit offsets) ↔ OffsetsConfound width length offsets := by
  unfold offsetsOf
  rw [aborts_accept_bind, decide_eq_true_eq]
  have fewer : length * width ≤ (length + 1) * width := Nat.mul_le_mul_right width (Nat.le_succ length)
  split
  case isTrue none =>
    obtain ⟨rfl, rfl⟩ := none
    refine iff_of_false (fun astray => aborts_ok _ astray.2) ?_
    rintro ⟨-, uneven⟩
    exact uneven (Nat.zero_mod width)
  case isFalse =>
    simp only [aborts_accept_bind, aborts_insist_bind, aborts_ok, decide_eq_true_eq, and_false]
    constructor
    · rintro ⟨-, enough, uneven⟩
      exact ⟨enough, uneven⟩
    · rintro ⟨enough, uneven⟩
      exact ⟨Nat.le_trans fewer enough, enough, uneven⟩

theorem aborts_binaryValues :
    Aborts (binaryValues width length offsets bytes) ↔ OffsetsConfound width length offsets := by
  unfold binaryValues
  rw [aborts_bind_ok, aborts_offsetsOf]

private theorem not_aborts_textOfPart (whole : Bool) (bytes : Bytes) (part : Nat × Nat × Bytes) :
    ¬Aborts (textOfPart whole bytes part) := by
  rw [textOfPart]
  split
  · exact aborts_undecodable
  · split
    · exact aborts_ok _
    · exact aborts_undecodable

theorem aborts_textValues :
    Aborts (textValues width length offsets bytes) ↔ OffsetsConfound width length offsets := by
  unfold textValues
  rw [aborts_bind_of_answered, aborts_offsetsOf]
  intro bounds
  exact not_aborts_mapM (not_aborts_textOfPart _ bytes)

private theorem not_aborts_fixedValues (width length : Nat) (values : Bytes) :
    ¬Aborts (fixedValues width length values) := by
  simp [fixedValues, aborts_accept_bind]

theorem not_aborts_truthValues (length : Nat) (values : Bytes) :
    ¬Aborts (truthValues length values) := by
  simp [truthValues, aborts_accept_bind]

/-- Whether the buffers of a column confound its reader: nulls are counted in a bitmap that ends too
soon, or the offsets of texts or byte strings are not whole words. -/
inductive BuffersConfound (storage : StorageType) (node : FieldNode) (buffers : List Bytes) : Prop
  | bitmap (astray : BitmapConfounds (toWord node.length) node.nullCount (buffers.getD 0 []))
  | offsets (laid : storage = .utf8 ∨ storage = .binary)
    (astray : OffsetsConfound 4 (toWord node.length) (buffers.getD 1 []))

theorem aborts_columnOf {storage : StorageType} {node : FieldNode} {buffers : List Bytes} :
    Aborts (columnOf storage node buffers) ↔ BuffersConfound storage node buffers := by
  unfold columnOf
  dsimp only
  rw [aborts_checkBitmap_bind]
  constructor
  · rintro (astray | values)
    · exact .bitmap astray
    · cases storage with
      | utf8 => exact .offsets (.inl rfl) (aborts_textValues.mp (aborts_bind_ok.mp values))
      | binary => exact .offsets (.inr rfl) (aborts_binaryValues.mp (aborts_bind_ok.mp values))
      | boolean => exact absurd (aborts_bind_ok.mp values) (not_aborts_truthValues _ _)
      | _ => exact absurd (aborts_bind_ok.mp values) (not_aborts_fixedValues _ _ _)
  · rintro (astray | ⟨rfl | rfl, astray⟩)
    · exact .inl astray
    · exact .inr (aborts_bind_ok.mpr (aborts_textValues.mpr astray))
    · exact .inr (aborts_bind_ok.mpr (aborts_binaryValues.mpr astray))

/-- Whether the array of a column confounds its reader, by the first buffers that are left or by what is
in them. -/
inductive Supply.ColumnConfounds (codec : Option Int) (body : Bytes) (storage : StorageType)
    (supply : Supply) : Prop
  | missing {node : FieldNode} {left : Supply} (first : supply.node = .ok (node, left))
    (astray : left.Confounds codec body (bufferCount storage))
  | taken {node : FieldNode} {left left' : Supply} {buffers : List Bytes}
    (first : supply.node = .ok (node, left))
    (taken : left.take codec body (bufferCount storage) = .ok (buffers, left'))
    (astray : BuffersConfound storage node buffers)

namespace Supply

theorem not_aborts_node (supply : Supply) : ¬Aborts supply.node := by
  unfold node
  split
  · exact aborts_ok _
  · exact aborts_undecodable

theorem aborts_column {storage : StorageType} {supply : Supply} :
    Aborts (supply.column codec body storage) ↔ supply.ColumnConfounds codec body storage := by
  unfold column
  simp only [aborts_bind, not_aborts_node, aborts_take, aborts_columnOf, aborts_ok, and_false,
    exists_false, or_false, false_or, Prod.exists]
  constructor
  · rintro ⟨node, left, first, astray | ⟨buffers, left', taken, astray⟩⟩
    · exact .missing first astray
    · exact .taken first taken astray
  · rintro (⟨first, astray⟩ | ⟨first, taken, astray⟩)
    · exact ⟨_, _, first, .inl astray⟩
    · exact ⟨_, _, first, .inr ⟨_, _, taken, astray⟩⟩

theorem aborts_columns {storages : List StorageType} {supply : Supply} :
    Aborts (supply.columns codec body storages) ↔ ∃ before storage after data left,
      storages = before ++ storage :: after ∧
      supply.columns codec body before = .ok (data, left) ∧
      left.ColumnConfounds codec body storage := by
  induction storages generalizing supply with
  | nil => simp [columns]
  | cons storage storages ih =>
    rw [columns, aborts_bind, aborts_column]
    constructor
    · rintro (own | ⟨⟨first, rest⟩, read, later⟩)
      · exact ⟨[], storage, storages, [], supply, rfl, rfl, own⟩
      · obtain ⟨before, astray, after, data, left, rfl, others, confounds⟩ :=
          ih.mp (aborts_bind_ok.mp later)
        refine ⟨storage :: before, astray, after, first :: data, left, rfl, ?_, confounds⟩
        rw [columns, read, ok_bind]
        dsimp only
        rw [others]
        rfl
    · rintro ⟨before, astray, after, data, left, split, read, confounds⟩
      cases before with
      | nil =>
        obtain ⟨rfl, rfl⟩ := List.cons.inj split
        cases read
        exact .inl confounds
      | cons _ before =>
        obtain ⟨rfl, rfl⟩ := List.cons.inj split
        rw [columns] at read
        obtain ⟨⟨first, rest⟩, own, read⟩ := bind_eq_ok.mp read
        obtain ⟨⟨others, left'⟩, later, same⟩ := bind_eq_ok.mp read
        cases same
        refine .inr ⟨_, own, aborts_bind_ok.mpr (ih.mpr ?_)⟩
        exact ⟨before, astray, after, others, left, rfl, later, confounds⟩

end Supply

end Columns

section Batch

theorem not_aborts_supply (table : RecordBatchTable) : ¬Aborts table.supply := by
  unfold RecordBatchTable.supply
  split
  · simp [aborts_accept_bind]
  · exact aborts_undecodable

/-- Whether a batch confounds its reader: by a column, or by counts of buffers that no column has. -/
inductive RecordBatchTable.Confounds (table : RecordBatchTable) (fields : List (StorageType × Bool))
    (body : Bytes) : Prop
  | column {supply left : Supply} {codec : Option Int} {before after : List StorageType}
    {storage : StorageType} {data : List ColumnData}
    (supplied : table.supply = .ok (supply, codec))
    (split : fields.map (·.1) = before ++ storage :: after)
    (read : supply.columns codec body before = .ok (data, left))
    (astray : left.ColumnConfounds codec body storage)
  | left {supply left : Supply} {codec : Option Int} {data : List ColumnData}
    (supplied : table.supply = .ok (supply, codec))
    (read : supply.columns codec body (fields.map (·.1)) = .ok (data, left))
    (counts : left.variadicCounts ≠ [])

theorem aborts_batch {table : RecordBatchTable} {fields : List (StorageType × Bool)} {body : Bytes} :
    Aborts (table.batch fields body) ↔ table.Confounds fields body := by
  unfold RecordBatchTable.batch
  rw [aborts_bind]
  constructor
  · rintro (astray | ⟨⟨supply, codec⟩, supplied, later⟩)
    · exact absurd astray (not_aborts_supply table)
    · obtain astray | ⟨⟨data, left⟩, read, later⟩ := aborts_bind.mp later
      · obtain ⟨_, _, _, _, _, split, read, astray⟩ := Supply.aborts_columns.mp astray
        exact .column supplied split read astray
      · apply RecordBatchTable.Confounds.left supplied read
        intro none
        have refused := aborts_insist_bind.mp later (List.isEmpty_iff.mpr none)
        simp only [aborts_accept_bind, aborts_ok, and_false] at refused
  · rintro (⟨supplied, split, read, astray⟩ | ⟨supplied, read, counts⟩)
    · refine .inr ⟨_, supplied, .bind ?_⟩
      exact Supply.aborts_columns.mpr ⟨_, _, _, _, _, split, read, astray⟩
    · refine .inr ⟨_, supplied, .after read ?_⟩
      apply aborts_insist_bind.mpr
      intro none
      exact absurd (List.isEmpty_iff.mp none) counts

end Batch

end Columnar.Ipc
