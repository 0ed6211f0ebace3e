import Columnar.Proofs.Bytes
import Columnar.Proofs.Ipc.Columns

/-!
The body of a record batch, read back. Buffers that follow one another in a body come back one after
the other (`take_regionsFrom`), the buffers of columns as the columns (`columns_regionsFrom`), and the
body of a whole batch as the batch (`batch_bodyOf`).
-/
namespace Columnar.Ipc

private theorem bodyOf_append (alignment : Nat) (first second : List Bytes) :
    bodyOf alignment (first ++ second) = bodyOf alignment first ++ bodyOf alignment second :=
  List.flatMap_append

theorem bodyOf_cons (alignment : Nat) (buffer : Bytes) (rest : List Bytes) :
    bodyOf alignment (buffer :: rest) =
      buffer ++ (Bytes.zeros (Bytes.gap alignment buffer.length) ++ bodyOf alignment rest) := by
  simp [bodyOf, Bytes.padded]

private theorem regionsFrom_append (alignment offset : Nat) (first second : List Bytes) :
    regionsFrom alignment offset (first ++ second) =
      regionsFrom alignment offset first ++
        regionsFrom alignment (offset + (bodyOf alignment first).length) second := by
  induction first generalizing offset with
  | nil => rfl
  | cons buffer rest ih =>
    rw [List.cons_append, regionsFrom, ih, regionsFrom, List.cons_append, bodyOf, bodyOf,
      List.flatMap_cons, List.length_append, Bytes.length_padded, Nat.add_assoc]

private theorem bufferBytes_of_append {body before buffer after : Bytes}
    (parts : body = before ++ (buffer ++ after)) (fits : body.length < 2 ^ 64) :
    bufferBytes none body ⟨before.length, buffer.length⟩ = .ok buffer := by
  have size : body.length = before.length + (buffer.length + after.length) := by simp [parts]
  have cut : body.slice before.length buffer.length = buffer := by simp [parts, Bytes.slice]
  rw [bufferBytes]
  dsimp only
  rw [toWord_ofNat (by omega), toWord_ofNat (by omega),
    insist_of (decide_eq_true (by omega)), ok_bind, cut, uncompressed, if_pos (.inl rfl)]

theorem length_buffers (data : ColumnData) : data.buffers.length = bufferCount data.storage := by
  cases data <;> rfl

/-- Whether a column can be read back: a signed word counts its slots, and an offset the bytes of its
texts or byte strings. -/
structure Readable (data : ColumnData) : Prop where
  slots : data.length < 2 ^ 63
  parts : data.parts.flatten.length < 2 ^ 31

section Body

variable {alignment : Nat} {body : Bytes} (fits : body.length < 2 ^ 64)

include fits

private theorem take_regionsFrom {buffers : List Bytes} {before after : Bytes}
    (parts : body = before ++ (bodyOf alignment buffers ++ after)) (nodes : List FieldNode)
    (regions : List BufferRegion) (counts : List Int) :
    Supply.take none body buffers.length
      ⟨nodes, regionsFrom alignment before.length buffers ++ regions, counts⟩ =
        .ok (buffers, ⟨nodes, regions, counts⟩) := by
  induction buffers generalizing before with
  | nil => rfl
  | cons buffer rest ih =>
    rw [bodyOf_cons] at parts
    have first : bufferBytes none body ⟨before.length, buffer.length⟩ = .ok buffer :=
      bufferBytes_of_append (parts.trans (by rw [List.append_assoc])) fits
    have later := @ih (before ++ Bytes.padded alignment buffer)
      (parts.trans (by simp [Bytes.padded]))
    rw [List.length_append, Bytes.length_padded] at later
    rw [List.length_cons, Supply.take, regionsFrom, List.cons_append, Supply.buffer]
    dsimp only
    rw [first, ok_bind, ok_bind]
    dsimp only
    rw [later, ok_bind]

private theorem column_regionsFrom {data : ColumnData} (readable : Readable data) {before after : Bytes}
    (parts : body = before ++ (bodyOf alignment data.buffers ++ after)) (nodes : List FieldNode)
    (regions : List BufferRegion) (counts : List Int) :
    Supply.column none body data.storage
      ⟨data.node :: nodes, regionsFrom alignment before.length data.buffers ++ regions, counts⟩ =
        .ok (data, ⟨nodes, regions, counts⟩) := by
  have buffers := take_regionsFrom fits parts nodes regions counts
  rw [length_buffers] at buffers
  have found := columnOf_buffers (Nat.lt_trans readable.slots (by decide)) readable.parts
  rw [Supply.column, Supply.node]
  dsimp only
  rw [ok_bind]
  dsimp only
  rw [buffers, ok_bind]
  dsimp only
  rw [found, ok_bind]

private theorem columns_regionsFrom {columns : List ColumnData}
    (readable : ∀ data ∈ columns, Readable data) {before : Bytes}
    (parts : body = before ++ bodyOf alignment (columns.flatMap ColumnData.buffers))
    (counts : List Int) :
    Supply.columns none body (columns.map (·.storage))
      ⟨columns.map ColumnData.node,
        regionsFrom alignment before.length (columns.flatMap ColumnData.buffers), counts⟩ =
          .ok (columns, ⟨[], [], counts⟩) := by
  induction columns generalizing before with
  | nil => rfl
  | cons data rest ih =>
    rw [List.flatMap_cons] at parts ⊢
    rw [bodyOf_append] at parts
    have first := column_regionsFrom fits (readable data (by simp)) parts
      (rest.map ColumnData.node)
      (regionsFrom alignment (before.length + (bodyOf alignment data.buffers).length)
        (rest.flatMap ColumnData.buffers)) counts
    have later := @ih (fun other member => readable other (by simp [member]))
      (before ++ bodyOf alignment data.buffers) (parts.trans (List.append_assoc _ _ _).symm)
    rw [List.length_append] at later
    rw [regionsFrom_append, List.map_cons, List.map_cons, Supply.columns, first, ok_bind]
    dsimp only
    rw [later, ok_bind]

end Body

/-- The body of a batch comes back as the batch. -/
theorem batch_bodyOf {alignment rows : Nat} {length : Int} {columns : List ColumnData}
    (lengths : ∀ data ∈ columns, data.length = rows) (word : toWord length = rows)
    (readable : ∀ data ∈ columns, Readable data)
    (fits : (bodyOf alignment (columns.flatMap ColumnData.buffers)).length < 2 ^ 64) :
    RecordBatchTable.batch
      ⟨length, some (columns.map ColumnData.node),
        some (regionsFrom alignment 0 (columns.flatMap ColumnData.buffers)), none, none⟩
      (columns.map fun data => (data.storage, true))
      (bodyOf alignment (columns.flatMap ColumnData.buffers)) = .ok ⟨rows, columns⟩ := by
  have found := @columns_regionsFrom alignment _ fits columns readable [] rfl []
  have named : (columns.map fun data => (data.storage, true)).map (·.1) =
      columns.map (·.storage) := by rw [List.map_map]; rfl
  have nullable : (((columns.map fun data => (data.storage, true)).zip columns).all
      fun pair => pair.1.2 || pair.2.nullCount = 0) = true := by
    rw [List.all_eq_true]
    rintro ⟨⟨storage, nullable⟩, data⟩ member
    obtain ⟨other, -, same⟩ := List.mem_map.mp (List.of_mem_zip member).1
    cases same
    rfl
  have same : (columns.all (·.length = toWord length)) = true := by simpa [word] using lengths
  rw [RecordBatchTable.batch]
  refine bind_eq_ok.mpr ⟨_, rfl, ?_⟩
  dsimp only
  rw [named]
  refine bind_eq_ok.mpr ⟨_, found, ?_⟩
  dsimp only
  rw [insist_of List.isEmpty_nil, ok_bind, accept_of nullable, ok_bind, accept_of same, ok_bind, word]

end Columnar.Ipc
