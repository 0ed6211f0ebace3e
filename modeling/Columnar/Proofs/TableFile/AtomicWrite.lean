import Columnar.Proofs.Arena.Budget
import Columnar.Proofs.Batch.OfRows
import Columnar.Proofs.Stream.Recording
import Columnar.TableFile.Write

/-!
Writing a file all or not at all. What is to be written is settled before the sink is asked for
anything (`plan_eq_ok`), room in the arena included. The room is asked for by the plain sum of the
footprints and later taken by the bounded one. As long as the sum is a word both are the same
(`Settled.room_of_bounded`), so that once the file is out the columns cannot be refused. A write to a
sink and to its recording are the same write (`write_recording`), and the recording tells what the
sink has received.
-/
namespace Columnar.TableFile

open Transpose (Fills)

/-- What it takes to settle what is to be written, and what then is settled. -/
structure Settled [Footprint Column] (arena : ColumnArena) (batch : RowBatch)
    (options : WriteOptions) (plan : Plan) : Prop where
  aligned : options.alignment ∈ WriteOptions.alignments
  columns : Transpose.columnsOfRows batch.schema batch.rows = .ok plan.columns
  room : arena.ensureRoom (Arena.plainFootprint plan.columns) = .ok ()
  dictionaries : DictionaryProvider.build plan.columns
    (plainFields batch.schema options.typeHints) = .ok plan.dictionaries
  contents : plan.contents =
    ⟨options.alignment,
      List.zipWith writtenField
        (plan.dictionaries.annotateFields (plainFields batch.schema options.typeHints)) plan.columns,
      batch.numRows, plan.columns.map (·.data)⟩

theorem bounds_of_aligned {alignment : Nat} (aligned : alignment ∈ WriteOptions.alignments) :
    0 < alignment ∧ alignment ≤ 64 := by
  simp only [WriteOptions.alignments, List.mem_cons, List.not_mem_nil, or_false] at aligned
  omega

theorem check_eq_ok {options : WriteOptions} :
    options.check = .ok () ↔ options.alignment ∈ WriteOptions.alignments := by
  rw [WriteOptions.check]
  split <;> simp [*]

theorem plan_result [Footprint Column] (arena : ColumnArena) (batch : RowBatch)
    (options : WriteOptions) : (plan arena batch options).result = (do
      options.check
      let columns ← Transpose.columnsOfRows batch.schema batch.rows
      (arena.ensureRoom (Arena.plainFootprint columns)).mapError ConversionError.allocation
      let fields := plainFields batch.schema options.typeHints
      let dictionaries ←
        (DictionaryProvider.build columns fields).mapError ConversionError.malformedInput
      .ok ⟨⟨options.alignment,
        List.zipWith writtenField (dictionaries.annotateFields fields) columns, batch.numRows,
        columns.map (·.data)⟩, columns, dictionaries⟩) := by
  simp [plan]

theorem plan_eq_ok [Footprint Column] {arena : ColumnArena} {batch : RowBatch}
    {options : WriteOptions} {settled : Plan} :
    (plan arena batch options).result = .ok settled ↔ Settled arena batch options settled := by
  rw [plan_result]
  constructor
  · intro ok
    obtain ⟨_, aligned, ok⟩ := bind_eq_ok.mp ok
    obtain ⟨columns, built, ok⟩ := bind_eq_ok.mp ok
    obtain ⟨_, room, ok⟩ := bind_eq_ok.mp ok
    obtain ⟨dictionaries, encoded, ok⟩ := bind_eq_ok.mp ok
    obtain rfl := Except.ok.inj ok
    exact ⟨check_eq_ok.mp aligned, built, mapError_eq_ok.mp room, mapError_eq_ok.mp encoded, rfl⟩
  · rintro ⟨aligned, built, room, encoded, contents⟩
    obtain ⟨_, columns, dictionaries⟩ := settled
    dsimp only at built room encoded contents
    simp [check_eq_ok.mpr aligned, built, room, encoded, contents, Except.mapError]

theorem Settled.fills [Footprint Column] {arena : ColumnArena} {batch : RowBatch}
    {options : WriteOptions} {settled : Plan} (ready : Settled arena batch options settled) :
    settled.columns.length = batch.schema.width ∧
      ∀ (index : Nat) (spec : ColumnSpec) (column : Column),
        batch.schema.columns[index]? = some spec → settled.columns[index]? = some column →
          Fills batch.rows index spec column :=
  (Transpose.columnsOfRows_eq_ok.mp ready.columns).2

section Write

variable {σ : Type} [Footprint Column] {arena : ColumnArena} {batch : RowBatch}
  {options : WriteOptions}

theorem Settled.columns_eq {settled : Plan} (ready : Settled arena batch options settled) :
    settled.columns = batch.columns :=
  Except.ok.inj (ready.columns.symm.trans batch.columnsOfRows_eq)

private theorem Settled.room_of_bounded {settled : Plan} (ready : Settled arena batch options settled)
    (bounded : Arena.footprints batch.columns < 2 ^ 64) :
    Arena.totalFootprint settled.columns ≤ arena.room := by
  have room := Arena.ensureRoom_eq_ok.mp ready.room
  rw [ready.columns_eq] at room ⊢
  rwa [Arena.plainFootprint_eq bounded] at room

private theorem keep_of_room {columns : List Column} (room : Arena.totalFootprint columns ≤ arena.room)
    (state : σ) (events : List Event) :
    keep arena state events columns =
      ⟨arena.extend (Arena.totalFootprint columns) columns, state, events,
        .ok (arena.nextHandles columns.length)⟩ := by
  rw [keep, Operation.storeAll_of_room room]

/-- Whether two writes, of which one is to a recording, are the same write. -/
structure SameWrite (plain : WriteOutcome σ) (noted : WriteOutcome (σ × Bytes)) : Prop where
  arena : noted.arena = plain.arena
  state : noted.sink.1 = plain.sink
  events : noted.events = plain.events
  result : noted.result = plain.result

/-- How a write ended that was refused: the arena is as it was, and unless the sink itself failed it
was not asked for anything. -/
structure Refused (arena : ColumnArena) (state : σ) (e : ConversionError)
    (outcome : WriteOutcome (σ × Bytes)) : Prop where
  kept : outcome.arena = arena
  untouched : (∀ cause, e ≠ .io cause) → outcome.sink = (state, [])

/-- How a write ended that gave handles: the sink has the whole file, and after its old items the
arena has one new item for each column of the schema. -/
structure Completed (arena : ColumnArena) (batch : RowBatch) (settled : Plan)
    (handles : List Handle) (outcome : WriteOutcome (σ × Bytes)) : Prop where
  file : outcome.sink.2 = settled.contents.bytes
  stored : outcome.arena = arena.extend (Arena.totalFootprint settled.columns) settled.columns
  issued : handles = arena.nextHandles batch.schema.width
  found : handles.mapM outcome.arena.get = .ok settled.columns
  width : settled.columns.length = batch.schema.width
  fills : ∀ (index : Nat) (spec : ColumnSpec) (column : Column),
    batch.schema.columns[index]? = some spec → settled.columns[index]? = some column →
      Fills batch.rows index spec column

theorem write_of_unsettled {e : ConversionError}
    (failed : (plan arena batch options).result = .error e) (sink : Sink σ) (state : σ) :
    write sink arena batch options state =
      ⟨arena, state, (plan arena batch options).events, .error e⟩ := by
  simp [write, failed]

section Planned

variable {sink : Sink σ} {state next : σ} {settled : Plan}
  (planned : (plan arena batch options).result = .ok settled)

include planned

theorem write_of_failed {cause : IoError}
    (failed : sink.emit state settled.contents.emissions = (.error cause, next)) :
    write sink arena batch options state =
      ⟨arena, next, (plan arena batch options).events, .error (.io cause)⟩ := by
  simp [write, planned, failed, ConversionError.ofFormat]

theorem write_of_emitted
    (emitted : sink.emit state settled.contents.emissions = (.ok (), next)) :
    write sink arena batch options state =
      keep arena next ((plan arena batch options).events ++
        [.framed batch.numRows settled.columns.length settled.dictionaries.size]) settled.columns := by
  simp only [write, planned, emitted]

theorem write_of_room (room : Arena.totalFootprint settled.columns ≤ arena.room)
    (emitted : sink.emit state settled.contents.emissions = (.ok (), next)) :
    write sink arena batch options state =
      ⟨arena.extend (Arena.totalFootprint settled.columns) settled.columns, next,
        (plan arena batch options).events ++
          [.framed batch.numRows settled.columns.length settled.dictionaries.size],
        .ok (arena.nextHandles batch.schema.width)⟩ := by
  rw [write_of_emitted planned emitted, keep_of_room room, (plan_eq_ok.mp planned).fills.1]

end Planned

theorem write_recording (sink : Sink σ) (state : σ) (received : Bytes) :
    SameWrite (write sink arena batch options state)
      (write sink.recording arena batch options (state, received)) := by
  cases planned : (plan arena batch options).result with
  | error e =>
    rw [write_of_unsettled planned, write_of_unsettled planned]
    exact ⟨rfl, rfl, rfl, rfl⟩
  | ok settled =>
    obtain ⟨result, same, -⟩ :=
      Sink.emit_recording sink state received settled.contents.emissions
    cases emitted : sink.emit state settled.contents.emissions with
    | mk answer next =>
    cases recorded : sink.recording.emit (state, received) settled.contents.emissions with
    | mk answer' next' =>
    rw [emitted, recorded] at result same
    dsimp only at result same
    subst result
    cases answer' with
    | error cause =>
      rw [write_of_failed planned emitted, write_of_failed planned recorded]
      exact ⟨rfl, same, rfl, rfl⟩
    | ok done =>
      rw [write_of_emitted planned emitted, write_of_emitted planned recorded]
      exact ⟨rfl, same, rfl, rfl⟩

theorem write_of_settled {settled : Plan} (ready : Settled arena batch options settled)
    (bounded : Arena.footprints batch.columns < 2 ^ 64) (sink : Sink σ) (state : σ) :
    (write sink arena batch options state).result =
      match (sink.emit state settled.contents.emissions).1 with
      | .error cause => .error (.io cause)
      | .ok () => .ok (arena.nextHandles batch.schema.width) := by
  have planned := plan_eq_ok.mpr ready
  cases emitted : sink.emit state settled.contents.emissions with
  | mk answer next =>
  cases answer with
  | error cause => rw [write_of_failed planned emitted]
  | ok done => rw [write_of_room planned (ready.room_of_bounded bounded) emitted]

theorem write_refused (bounded : Arena.footprints batch.columns < 2 ^ 64) {sink : Sink σ} {state : σ}
    {e : ConversionError} (failed : (write sink arena batch options state).result = .error e) :
    (write sink arena batch options state).arena = arena ∧
      ((∀ cause, e ≠ .io cause) → (write sink arena batch options state).sink = state) := by
  cases planned : (plan arena batch options).result with
  | error e' =>
    rw [write_of_unsettled planned]
    exact ⟨rfl, fun _ => rfl⟩
  | ok settled =>
    have room := (plan_eq_ok.mp planned).room_of_bounded bounded
    cases emitted : sink.emit state settled.contents.emissions with
    | mk answer next =>
    cases answer with
    | error cause =>
      rw [write_of_failed planned emitted] at failed ⊢
      obtain rfl := Except.error.inj failed
      exact ⟨rfl, fun other => absurd rfl (other cause)⟩
    | ok done =>
      rw [write_of_room planned room emitted] at failed
      cases failed

theorem room_of_keep {columns : List Column} {state : σ} {events : List Event}
    {handles : List Handle} (ok : (keep arena state events columns).result = .ok handles) :
    Arena.totalFootprint columns ≤ arena.room := by
  by_contra full
  rw [keep, Operation.storeAll_of_lt (UInt64.not_le.mp full)] at ok
  cases ok

theorem write_completed {sink : Sink σ} {state : σ} {handles : List Handle}
    (ok : (write sink.recording arena batch options (state, [])).result = .ok handles) :
    ∃ settled, Settled arena batch options settled ∧
      Completed arena batch settled handles
        (write sink.recording arena batch options (state, [])) := by
  cases planned : (plan arena batch options).result with
  | error e =>
    rw [write_of_unsettled planned] at ok
    cases ok
  | ok settled =>
    have ready := plan_eq_ok.mp planned
    obtain ⟨result, -, taken, noted, -, whole⟩ :=
      Sink.emit_recording sink state [] settled.contents.emissions
    cases recorded : sink.recording.emit (state, []) settled.contents.emissions with
    | mk answer next =>
    rw [recorded] at result noted
    cases answer with
    | error cause =>
      rw [write_of_failed planned recorded] at ok
      cases ok
    | ok done =>
      have kept := ok
      rw [write_of_emitted planned recorded] at kept
      rw [write_of_room planned (room_of_keep kept) recorded] at ok ⊢
      obtain rfl := Except.ok.inj ok
      refine ⟨settled, ready, noted.trans (whole result.symm), rfl, rfl, ?_, ready.fills.1,
        ready.fills.2⟩
      rw [← ready.fills.1]
      exact Arena.mapM_get_extend arena _ settled.columns

/-- A write that is refused leaves the arena as it was, and the sink too unless it is the sink that
refuses; any failure of the sink is an I/O error; and with the whole file in the sink nothing can be
refused any more. This takes footprints that come to less than 2 ^ 64, because the sum by which the room
is looked at first would wrap around. -/
theorem write_all_or_nothing (sink : Sink σ) (arena : ColumnArena) (batch : RowBatch)
    (options : WriteOptions) (state : σ) (bounded : Arena.footprints batch.columns < 2 ^ 64) :
    let outcome := write sink.recording arena batch options (state, [])
    SameWrite (write sink arena batch options state) outcome ∧
      (∀ e, outcome.result = .error e → Refused arena state e outcome) ∧
      (∀ handles, outcome.result = .ok handles →
        ∃ settled, Settled arena batch options settled ∧
          Completed arena batch settled handles outcome) ∧
      (∀ settled, Settled arena batch options settled →
        (∀ cause, (sink.emit state settled.contents.emissions).1 = .error cause →
          outcome.result = .error (.io cause)) ∧
        ((sink.emit state settled.contents.emissions).1 = .ok () →
          ∃ handles, outcome.result = .ok handles)) := by
  intro outcome
  have same : SameWrite (write sink arena batch options state) outcome :=
    write_recording sink state []
  refine ⟨same, fun e failed => ?_, fun handles ok => write_completed ok, fun settled ready => ?_⟩
  · obtain ⟨kept, untouched⟩ := write_refused bounded failed
    exact ⟨kept, untouched⟩
  · rw [same.result, write_of_settled ready bounded]
    constructor
    · intro cause failed
      rw [failed]
    · intro emitted
      rw [emitted]
      exact ⟨_, rfl⟩

end Write

def lone : RowBatch where
  schema := ⟨[⟨"x", .int64, none⟩]⟩
  rows := [[.int64 1]]
  checked := rfl

def closedSink : Sink Bytes :=
  LimitedSink.sink ⟨some 0, none, none, false, .other⟩

private theorem emit_closedSink (contents : Ipc.FileContents) :
    (closedSink.emit [] contents.emissions).1 = .error ⟨.other, "sink closed"⟩ := by
  simp [Ipc.FileContents.emissions, Sink.emit, Sink.perform, Sink.writeAll, closedSink, LimitedSink.sink,
    Ipc.fileMarker]

open NominalFootprint in
/-- A write that is refused for its alignment, one for lack of room, one for two columns that declare one
id, and one by its sink; and one that is not refused. -/
theorem write_all_or_nothing_lone :
    let ample : ColumnArena := Arena.new 0 Arena.unlimited
    let attempt (arena : ColumnArena) (sink : Sink Bytes) (batch : RowBatch) (options : WriteOptions) :=
      write sink.recording arena batch options ([], [])
    (∃ e, (attempt ample .memory lone ⟨7, true⟩).result = .error (.format e) ∧
      Refused ample [] (.format e) (attempt ample .memory lone ⟨7, true⟩)) ∧
    (∃ e, (attempt (Arena.new 0 1) .memory lone .standard).result = .error (.allocation e) ∧
      Refused (Arena.new 0 1) [] (.allocation e) (attempt (Arena.new 0 1) .memory lone .standard)) ∧
    (∃ e, (attempt ample .memory ColumnBatch.clashing .standard).result = .error (.malformedInput e) ∧
      Refused ample [] (.malformedInput e) (attempt ample .memory ColumnBatch.clashing .standard)) ∧
    (∃ e, (attempt ample closedSink lone .standard).result = .error (.io e) ∧
      Refused ample [] (.io e) (attempt ample closedSink lone .standard)) ∧
    ∃ settled handles, (attempt ample .memory lone .standard).result = .ok handles ∧
      Completed ample lone settled handles (attempt ample .memory lone .standard) := by
  intro ample attempt
  have bounded : Arena.footprints lone.columns < 2 ^ 64 := by decide +kernel
  have bounded' : Arena.footprints ColumnBatch.clashing.columns < 2 ^ 64 := by decide +kernel
  have holds (arena : ColumnArena) (sink : Sink Bytes) (options : WriteOptions) :=
    write_all_or_nothing sink arena lone options [] bounded
  have refused (arena : ColumnArena) (sink : Sink Bytes) (options : WriteOptions) :=
    (holds arena sink options).2.1
  have misaligned : (attempt ample .memory lone ⟨7, true⟩).result = .error (.format _) :=
    congrArg WriteOutcome.result (write_of_unsettled rfl _ _)
  have crowded : (attempt (Arena.new 0 1) .memory lone .standard).result = .error (.allocation _) :=
    congrArg WriteOutcome.result (write_of_unsettled rfl _ _)
  have unsettled : ∃ e, (plan (Arena.new 0 Arena.unlimited) ColumnBatch.clashing .standard).result =
      .error (.malformedInput e) := ⟨_, rfl⟩
  obtain ⟨e, unsettled⟩ := unsettled
  have clashes : (attempt ample .memory ColumnBatch.clashing .standard).result =
      .error (.malformedInput _) :=
    congrArg WriteOutcome.result (write_of_unsettled unsettled _ _)
  have planned : ∃ settled, (plan (Arena.new 0 Arena.unlimited) lone .standard).result = .ok settled :=
    ⟨_, rfl⟩
  obtain ⟨settled, planned⟩ := planned
  have ready := plan_eq_ok.mp planned
  have closed : (attempt ample closedSink lone .standard).result = .error (.io _) :=
    ((holds ample closedSink .standard).2.2.2 settled ready).1 _ (emit_closedSink settled.contents)
  have taken : (Sink.memory.emit [] settled.contents.emissions).1 = .ok () := by
    rw [Sink.emit_memory]
  obtain ⟨handles, ok⟩ : ∃ handles, (attempt ample .memory lone .standard).result = .ok handles :=
    ((holds ample .memory .standard).2.2.2 settled ready).2 taken
  obtain ⟨settled', -, completed⟩ := (holds ample .memory .standard).2.2.1 handles ok
  exact ⟨⟨_, misaligned, refused ample .memory ⟨7, true⟩ _ misaligned⟩,
    ⟨_, crowded, refused (Arena.new 0 1) .memory .standard _ crowded⟩,
    ⟨_, clashes, (write_all_or_nothing .memory ample ColumnBatch.clashing .standard [] bounded').2.1 _
      clashes⟩,
    ⟨_, closed, refused ample closedSink .standard _ closed⟩, settled', handles, ok, completed⟩

end Columnar.TableFile
