import Columnar.Proofs.Batch.Agreement
import Columnar.Session

/-!
Batches in a shared arena. Whatever calls are made on one arena, and whether they succeed or not, each
but a release only adds items to it (`Operation.Grows`, `reached_apply`). So a batch answers all along
as it did when it was made until the arena is released, and from then on not at all, whatever is put
into the slots it had (`ArenaUse.batch_of_shared_arena`).
-/
namespace Columnar

namespace Operation

variable {ε δ α β : Type}

/-- Whether an operation only adds items to the arena, also when it fails. -/
def Grows (operation : Operation ε α) : Prop :=
  ∀ arena, Arena.Extends arena (operation arena).arena

theorem grows_lift (traced : Traced ε α) : Grows (liftM traced : Operation ε α) := by
  intro arena
  exact .refl arena

theorem grows_pure (value : α) : Grows (pure value : Operation ε α) := by
  intro arena
  exact .refl arena

theorem grows_arenaId : Grows (arenaId : Operation ε Nat) := by
  intro arena
  exact .refl arena

theorem Grows.bind {first : Operation ε α} {next : α → Operation ε β} (grows : Grows first)
    (later : ∀ value, Grows (next value)) : Grows (first >>= next) := by
  intro arena
  cases done : (first arena).result with
  | error e =>
    rw [(bind_error done).2]
    exact grows arena
  | ok value =>
    rw [(bind_ok done).2]
    exact (grows arena).trans (later value _)

theorem Grows.mapError {operation : Operation ε α} (grows : Grows operation) (f : ε → δ) :
    Grows (operation.mapError f) := by
  intro arena
  exact grows arena

theorem grows_store [Footprint Column] (column : Column) : Grows (store column) := by
  intro arena
  exact Arena.extends_insert arena column

theorem grows_storeAll [Footprint Column] (columns : List Column) : Grows (storeAll columns) := by
  intro arena
  exact Arena.extends_insertAll arena columns

theorem grows_fetchAll (handles : List Handle) : Grows (fetchAll handles) := by
  intro arena
  exact .refl arena

theorem grows_placeRows [Footprint Column] (schema : TableSchema) (rows : List Row) :
    Grows (placeRows schema rows) := by
  apply (grows_lift _).bind
  intro columns
  exact grows_storeAll columns

end Operation

open Operation (Grows grows_lift grows_pure grows_arenaId grows_store grows_storeAll)

theorem Allocation.grows_place [Footprint Column] (allocation : Allocation) : Grows allocation.place := by
  cases allocation with
  | nulls name type count => exact (grows_store _).bind fun _ => grows_pure _
  | cells name type cells =>
    apply Grows.bind
    · apply (grows_lift _).bind
      intro column
      exact grows_store column
    · intro handle
      exact grows_pure _
  | native name values => exact (grows_store _).bind fun _ => grows_pure _
  | timestamps name millis => exact (grows_store _).bind fun _ => grows_pure _
  | rows schema content => exact Operation.grows_placeRows schema content

theorem ColumnBatch.grows_ofRows [Footprint Column] (batch : RowBatch) : Grows (ofRows batch) := by
  apply (Operation.grows_placeRows _ _).bind
  intro handles
  apply (Operation.grows_fetchAll handles).bind
  intro columns
  apply (grows_lift _).bind
  intro dictionaries
  exact grows_arenaId.bind fun _ => grows_pure _

theorem TableFile.grows_readWithin [Footprint Column] (budget : Flatbuffer.Budget) (source : Source) :
    Grows (readWithin budget source) := by
  apply (grows_lift _).bind
  intro found
  apply ((grows_storeAll found.columns).mapError _).bind
  intro handles
  apply (grows_lift _).bind
  intro _
  exact grows_arenaId.bind fun _ => grows_pure _

theorem TableFile.extends_write {σ : Type} [Footprint Column] (sink : Sink σ) (arena : ColumnArena)
    (batch : RowBatch) (options : WriteOptions) (state : σ) :
    Arena.Extends arena (write sink arena batch options state).arena := by
  unfold write
  dsimp only
  split
  case h_1 => exact .refl arena
  case h_2 =>
    split
    case h_1 => exact .refl arena
    case h_2 => exact grows_storeAll _ arena

/-- One call on a shared arena. Each comes with what columns count for in it. -/
inductive ArenaUse : Type 1
  | allocate [Footprint Column] (allocation : Allocation)
  | place [Footprint Column] (rows : RowBatch)
  | write [Footprint Column] {σ : Type} (sink : Sink σ) (state : σ) (rows : RowBatch)
    (options : WriteOptions)
  | read [Footprint Column] (budget : Flatbuffer.Budget) (source : Source)
  | release

namespace ArenaUse

def apply (arena : ColumnArena) : ArenaUse → ColumnArena × Option ColumnBatch
  | allocate allocation => ((allocation.place arena).arena, none)
  | place rows =>
    let outcome := ColumnBatch.ofRows rows arena
    (outcome.arena, outcome.result.toOption)
  | write sink state rows options => ((TableFile.write sink arena rows options state).arena, none)
  | read budget source =>
    let outcome := TableFile.readWithin budget source arena
    (outcome.arena, outcome.result.toOption)
  | release => (arena.release, none)

def after (arena : ColumnArena) (uses : List ArenaUse) : ColumnArena :=
  uses.foldl (fun left use => (use.apply left).1) arena

def isRelease : ArenaUse → Bool
  | release => true
  | _ => false

def releases (uses : List ArenaUse) : Nat :=
  uses.countP isRelease

end ArenaUse

/-- Whether an arena comes to another state, being released a number of times on the way. -/
structure Arena.Reached (arena later : ColumnArena) (releases : Nat) : Prop where
  id : later.id = arena.id
  generation : later.generation = arena.generation + releases
  kept : releases = 0 → Extends arena later

namespace Arena.Reached

variable {arena later last : ColumnArena}

theorem ofExtends (extended : Extends arena later) : Reached arena later 0 :=
  ⟨extended.id, extended.generation, fun _ => extended⟩

theorem trans {first second : Nat} (reached : Reached arena later first)
    (reached' : Reached later last second) : Reached arena last (first + second) := by
  refine ⟨reached'.id.trans reached.id, ?_, ?_⟩
  · rw [reached'.generation, reached.generation, Nat.add_assoc]
  · intro none
    obtain ⟨none, none'⟩ := Nat.add_eq_zero_iff.mp none
    exact (reached.kept none).trans (reached'.kept none')

end Arena.Reached

namespace ArenaUse

open Arena (Reached)

theorem reached_apply (use : ArenaUse) (arena : ColumnArena) :
    Reached arena (use.apply arena).1 (releases [use]) := by
  cases use with
  | allocate allocation => exact .ofExtends (allocation.grows_place arena)
  | place rows => exact .ofExtends (ColumnBatch.grows_ofRows rows arena)
  | write sink state rows options =>
    exact .ofExtends (TableFile.extends_write sink arena rows options state)
  | read budget source => exact .ofExtends (TableFile.grows_readWithin budget source arena)
  | release => exact ⟨rfl, rfl, fun none => absurd none Nat.one_ne_zero⟩

private theorem reached_after (uses : List ArenaUse) (arena : ColumnArena) :
    Reached arena (after arena uses) (releases uses) := by
  induction uses generalizing arena with
  | nil => exact .ofExtends (.refl arena)
  | cons use rest ih =>
    have count : releases (use :: rest) = releases [use] + releases rest := by
      rw [releases, releases, releases, ← List.countP_append]
      rfl
    rw [count]
    exact (reached_apply use arena).trans (ih _)

private theorem toOption_eq_some {ε α : Type} {result : Except ε α} {value : α} :
    result.toOption = some value ↔ result = .ok value := by
  cases result <;> simp [Except.toOption]

private theorem apply_place [Footprint Column] {rows : RowBatch} {arena : ColumnArena}
    {batch : ColumnBatch} (ok : (ColumnBatch.ofRows rows arena).result = .ok batch) :
    ((place rows).apply arena).2 = some batch :=
  toOption_eq_some.mpr ok

private theorem resolves_of_apply {use : ArenaUse} {arena : ColumnArena} {batch : ColumnBatch}
    (made : (use.apply arena).2 = some batch) :
    ∃ columns, ColumnBatch.Resolves batch (use.apply arena).1 columns := by
  cases use with
  | place rows => exact (ColumnBatch.Made.ofRows (toOption_eq_some.mp made)).resolves
  | read budget source => exact (ColumnBatch.Made.read (toOption_eq_some.mp made)).resolves
  | allocate allocation => cases made
  | write sink state rows options => cases made
  | release => cases made

end ArenaUse

namespace ColumnBatch

variable {batch : ColumnBatch} {arena later : ColumnArena} {columns : List Column}

/-- Whether a batch answers in one arena as in another. -/
structure SameAnswers (batch : ColumnBatch) (arena later : ColumnArena) : Prop where
  column : ∀ position, batch.column later position = batch.column arena position
  columns : batch.columns later = batch.columns arena
  cell : ∀ row position, batch.cell later row position = batch.cell arena row position
  row : ∀ index, batch.row later index = batch.row arena index
  rows : batch.toRowBatch later = batch.toRowBatch arena
  matrix : batch.toMatrix later = batch.toMatrix arena

private theorem sameAnswers_of_column (same : batch.column later = batch.column arena) :
    SameAnswers batch arena later := by
  have columns : batch.columns later = batch.columns arena := by
    unfold ColumnBatch.columns
    rw [same]
  refine ⟨congrFun same, columns, ?_, ?_, ?_, ?_⟩
  · intro row position
    unfold cell
    rw [same]
  · intro index
    unfold row
    rw [columns]
  · unfold toRowBatch
    rw [columns]
  · unfold toMatrix
    rw [columns]

/-- Whether a batch answers nothing but a failure to whatever is asked of its columns. -/
structure Withdrawn (batch : ColumnBatch) (arena : ColumnArena) (cause : ConversionError) : Prop where
  column : ∀ position < batch.width, batch.column arena position = .error cause
  columns : batch.columns arena = .error cause
  cell : ∀ row, ∀ position < batch.width, batch.cell arena row position = .error cause
  row : ∀ index < batch.rowCount, batch.row arena index = .error cause
  rows : batch.toRowBatch arena = .error cause
  matrix : (batch.toMatrix arena).result = .error cause

private theorem withdrawn_of_column {cause : ConversionError} (some : 0 < batch.width)
    (each : ∀ position < batch.width, batch.column arena position = .error cause) :
    Withdrawn batch arena cause := by
  have columns : batch.columns arena = .error cause := by
    obtain ⟨rest, width⟩ := Nat.exists_eq_succ_of_ne_zero (Nat.ne_of_gt some)
    unfold ColumnBatch.columns
    rw [width, List.range_succ_eq_map, List.mapM_cons, each 0 some]
    rfl
  refine ⟨each, columns, ?_, ?_, ?_, ?_⟩
  · intro row position inside
    unfold cell
    rw [each position inside]
    rfl
  · intro index inside
    unfold row
    rw [if_neg (Nat.not_le.mpr inside), columns]
    rfl
  · unfold toRowBatch
    rw [columns]
    rfl
  · unfold toMatrix
    rw [columns]
    rfl

namespace Resolves

variable (resolves : Resolves batch arena columns)

include resolves

theorem extended (extended : Arena.Extends arena later) : Resolves batch later columns := by
  refine ⟨?_, resolves.table⟩
  apply mapM_eq_ok.mpr
  apply (mapM_eq_ok.mp resolves.found).imp
  intro handle column found
  exact extended.get found

private theorem sameAnswers (extended : Arena.Extends arena later) : SameAnswers batch arena later := by
  apply sameAnswers_of_column
  funext position
  rw [(resolves.extended extended).column_eq, resolves.column_eq]

private theorem column_of_newer {releases position : Nat} (reached : Arena.Reached arena later releases)
    (some : 0 < releases) (inside : position < batch.width) :
    batch.column later position = .error (.allocation (.released arena.id arena.generation
      (arena.generation + releases))) := by
  obtain ⟨same, each⟩ := List.forall₂_iff_get.mp (mapM_eq_ok.mp resolves.found)
  have inside' : position < batch.handles.length := inside
  obtain ⟨own, current, -⟩ := Arena.get_eq_ok.mp (each position inside' (same ▸ inside'))
  rw [List.get_eq_getElem] at own current
  have newer := reached.generation
  unfold column
  rw [List.getElem?_eq_getElem inside']
  dsimp only
  rw [Arena.get, own, current, reached.id, newer, if_neg (by simp), if_pos (by omega)]
  rfl

end Resolves

end ColumnBatch

namespace ArenaUse

/-- A batch in a shared arena. Whatever was done with the arena before the batch was made, and whatever
is done with it later, as long as the arena is not released the batch can be read and answers as it did
when it was made; after a release, all that asks for one of its columns is refused, because the batch is
of an earlier generation. -/
theorem batch_of_shared_arena (arena : ColumnArena) (before later : List ArenaUse) (use : ArenaUse)
    (batch : ColumnBatch) (made : (use.apply (after arena before)).2 = some batch) :
    let created := after arena (before ++ [use])
    let left := after arena (before ++ use :: later)
    (releases later = 0 → batch.Reads left ∧ batch.SameAnswers created left) ∧
      (0 < releases later → 0 < batch.width →
        batch.Withdrawn left (.allocation (.released created.id created.generation
          (created.generation + releases later)))) := by
  intro created left
  obtain ⟨columns, resolves⟩ := resolves_of_apply made
  have here : created = (use.apply (after arena before)).1 := List.foldl_append
  have there : left = after created later := by
    rw [here]
    exact List.foldl_append
  have reached := reached_after later created
  rw [← there] at reached
  rw [← here] at resolves
  constructor
  · intro none
    have extended := reached.kept none
    exact ⟨(resolves.extended extended).reads, resolves.sameAnswers extended⟩
  · intro released some
    apply ColumnBatch.withdrawn_of_column some
    intro position inside
    exact resolves.column_of_newer reached released inside

open NominalFootprint in
open TableFile (twins) in
/-- The rows of `twins` placed after another column, before they are written, and before the arena is
released and they are placed again. -/
theorem batch_of_shared_twins :
    let before : List ArenaUse := [allocate (.timestamps "t" [0, 1])]
    let arena : ColumnArena := Arena.new 0 Arena.unlimited
    let created := after arena (before ++ [place twins])
    ∃ batch, ((place twins).apply (after arena before)).2 = some batch ∧
      batch.SameAnswers created
        (after arena (before ++ [place twins, write Sink.memory [] twins .standard])) ∧
      batch.Withdrawn (after arena (before ++ [place twins, release, place twins]))
        (.allocation (.released 0 0 1)) := by
  intro before arena created
  have room : twins.footprint ≤ (after arena before).room := by decide +kernel
  obtain ⟨dictionaries, built⟩ := (DictionaryProvider.build_of_stands twins.schema.stands_fields
    twins.length_columns).1 (by decide) (by decide)
  obtain ⟨batch, ok⟩ : ∃ batch, (ColumnBatch.ofRows twins (after arena before)).result = .ok batch := by
    rw [(ColumnBatch.ofRows_of_le room).1, built]
    exact ⟨_, rfl⟩
  have made := apply_place ok
  have width : 0 < batch.width := by
    rw [(ColumnBatch.resolves_of_ofRows ok).width_eq, twins.length_columns]
    decide
  refine ⟨batch, made, ?_, ?_⟩
  · exact ((batch_of_shared_arena arena before [write Sink.memory [] twins .standard]
      (place twins) batch made).1 rfl).2
  · have withdrawn := (batch_of_shared_arena arena before [release, place twins] (place twins)
      batch made).2 Nat.one_pos width
    have reached := reached_after (before ++ [place twins]) arena
    rwa [reached.id, reached.generation] at withdrawn

end ArenaUse

end Columnar
