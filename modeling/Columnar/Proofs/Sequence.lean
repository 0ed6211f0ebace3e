import Columnar.Batch
import Mathlib.Data.List.Forall2

/-!
Sequences of steps that may fail. A sequence of `Except` steps succeeds if each of them does; the
result of a traced sequence does not depend on its events; and an operation on an arena goes on from
the arena that the one before it left.
-/
namespace Columnar

section Except

variable {ε δ α β : Type}

@[simp] theorem ok_bind (a : α) (f : α → Except ε β) : (Except.ok a >>= f) = f a := rfl

@[simp] theorem error_bind (e : ε) (f : α → Except ε β) :
    ((Except.error e : Except ε α) >>= f) = .error e := rfl

@[simp] theorem bind_ok_self (x : Except ε α) : (x >>= fun a => .ok a) = x := by
  cases x <;> rfl

theorem bind_eq_ok {x : Except ε α} {f : α → Except ε β} {b : β} :
    (x >>= f) = .ok b ↔ ∃ a, x = .ok a ∧ f a = .ok b := by
  cases x with
  | error e => simp [bind, Except.bind]
  | ok a => simp [bind, Except.bind]

theorem bind_eq_error {x : Except ε α} {f : α → Except ε β} {e : ε} :
    (x >>= f) = .error e ↔ x = .error e ∨ ∃ a, x = .ok a ∧ f a = .error e := by
  cases x with
  | error e => simp
  | ok a => simp

theorem exists_bind_ok {x : Except ε α} {f : α → β} :
    (∃ b, (x >>= fun a => .ok (f a)) = .ok b) ↔ ∃ a, x = .ok a := by
  cases x <;> simp

theorem bind_ok_eq_error {x : Except ε α} {f : α → β} {e : ε} :
    (x >>= fun a => .ok (f a)) = .error e ↔ x = .error e := by
  cases x <;> simp

theorem bind_congr_of_ok {x : Except ε α} {f g : α → Except ε β}
    (same : ∀ a, x = .ok a → f a = g a) : (x >>= f) = (x >>= g) := by
  cases x with
  | error e => rfl
  | ok a => exact same a rfl

theorem map_bind {γ : Type} (x : Except ε α) (f : α → Except ε β) (g : β → γ) :
    (x >>= f).map g = x >>= fun a => (f a).map g := by
  cases x <;> rfl

theorem map_eq_ok {x : Except ε α} {f : α → β} {b : β} :
    x.map f = .ok b ↔ ∃ a, x = .ok a ∧ f a = b := by
  cases x <;> simp [Except.map]

@[simp] theorem mapError_eq_ok {x : Except ε α} {f : ε → δ} {a : α} :
    x.mapError f = .ok a ↔ x = .ok a := by
  cases x <;> simp [Except.mapError]

theorem mapError_eq_error {x : Except ε α} {f : ε → δ} {e : δ} :
    x.mapError f = .error e ↔ ∃ cause, x = .error cause ∧ f cause = e := by
  cases x <;> simp [Except.mapError]

/-- What evaluates to true of a result holds of its value. -/
theorem of_decide_ok (p : α → Prop) [DecidablePred p] {x : Except ε α} {a : α} (ok : x = .ok a)
    (evaluated : x.toOption.any (fun a => decide (p a)) = true) : p a := by
  rw [ok] at evaluated
  exact of_decide_eq_true evaluated

/-- A complete account of a result: it is a value if all is sound, each fault is an error, and there is
no third case. -/
theorem outcome_iff {x : Except ε α} {sound : Prop} {fault : ε → Prop}
    (complete : sound ∨ ∃ e, fault e) (value : sound → ∃ a, x = .ok a)
    (refused : ∀ e, fault e → x = .error e) :
    ((∃ a, x = .ok a) ↔ sound) ∧ ∀ e, x = .error e ↔ fault e := by
  obtain all | ⟨cause, own⟩ := complete
  · obtain ⟨a, rfl⟩ := value all
    refine ⟨iff_of_true ⟨a, rfl⟩ all, fun e => iff_of_false (by simp) fun wrong => ?_⟩
    cases refused e wrong
  · obtain rfl := refused cause own
    refine ⟨iff_of_false (by simp) fun all => ?_, fun e => ⟨fun same => ?_, refused e⟩⟩
    · obtain ⟨a, same⟩ := value all
      cases same
    · obtain rfl := Except.error.inj same
      exact own

theorem mapM_eq_ok {f : α → Except ε β} {xs : List α} {ys : List β} :
    xs.mapM f = .ok ys ↔ List.Forall₂ (fun x y => f x = .ok y) xs ys := by
  induction xs generalizing ys with
  | nil => cases ys <;> simp [pure, Except.pure]
  | cons x xs ih =>
    rw [List.mapM_cons, bind_eq_ok, List.forall₂_cons_left_iff]
    constructor
    · rintro ⟨y, first, rest⟩
      obtain ⟨others, later, same⟩ := bind_eq_ok.mp rest
      obtain rfl := Except.ok.inj same
      exact ⟨y, others, first, ih.mp later, rfl⟩
    · rintro ⟨y, others, first, later, rfl⟩
      exact ⟨y, first, bind_eq_ok.mpr ⟨others, ih.mpr later, rfl⟩⟩

theorem mapM_congr {f g : α → Except ε β} {xs : List α} (same : ∀ x ∈ xs, f x = g x) :
    xs.mapM f = xs.mapM g := by
  induction xs with
  | nil => rfl
  | cons x xs ih =>
    obtain ⟨own, others⟩ := List.forall_mem_cons.mp same
    rw [List.mapM_cons, List.mapM_cons, own, ih others]

theorem exists_mapM_eq_ok {f : α → Except ε β} {xs : List α} :
    (∃ ys, xs.mapM f = .ok ys) ↔ ∀ x ∈ xs, ∃ y, f x = .ok y := by
  simp only [mapM_eq_ok]
  constructor
  · rintro ⟨ys, each⟩
    induction each with
    | nil => simp
    | cons own _ ih => exact List.forall_mem_cons.mpr ⟨⟨_, own⟩, ih⟩
  · intro each
    induction xs with
    | nil => exact ⟨[], .nil⟩
    | cons x xs ih =>
      obtain ⟨⟨y, own⟩, others⟩ := List.forall_mem_cons.mp each
      obtain ⟨ys, rest⟩ := ih others
      exact ⟨y :: ys, .cons own rest⟩

theorem mapM_eq_error {e : ε} {f : α → Except ε β} {xs : List α} :
    xs.mapM f = .error e ↔ ∃ before x after, xs = before ++ x :: after ∧
      (∀ y ∈ before, ∃ b, f y = .ok b) ∧ f x = .error e := by
  induction xs with
  | nil => simp [pure, Except.pure]
  | cons x xs ih =>
    rw [List.mapM_cons]
    cases first : f x with
    | error cause =>
      rw [error_bind]
      constructor
      · intro failed
        obtain rfl := Except.error.inj failed
        exact ⟨[], x, xs, rfl, by simp, first⟩
      · rintro ⟨before, y, after, shape, sound, failed⟩
        cases before with
        | nil =>
          obtain ⟨rfl, rfl⟩ := List.cons.inj shape
          obtain rfl := Except.error.inj (first.symm.trans failed)
          rfl
        | cons head before =>
          obtain ⟨rfl, rfl⟩ := List.cons.inj shape
          obtain ⟨b, done⟩ := sound x (by simp)
          cases first.symm.trans done
    | ok b =>
      have rest : (xs.mapM f >>= fun ys => pure (b :: ys)) = .error e ↔ xs.mapM f = .error e := by
        cases xs.mapM f <;> simp [pure, Except.pure]
      rw [ok_bind, rest, ih]
      constructor
      · rintro ⟨before, y, after, rfl, sound, failed⟩
        exact ⟨x :: before, y, after, rfl, List.forall_mem_cons.mpr ⟨⟨b, first⟩, sound⟩, failed⟩
      · rintro ⟨before, y, after, shape, sound, failed⟩
        cases before with
        | nil =>
          obtain ⟨rfl, rfl⟩ := List.cons.inj shape
          cases first.symm.trans failed
        | cons head before =>
          obtain ⟨rfl, rfl⟩ := List.cons.inj shape
          exact ⟨before, y, after, rfl, (List.forall_mem_cons.mp sound).2, failed⟩

theorem exists_of_mapM_eq_error {e : ε} {f : α → Except ε β} {xs : List α}
    (failed : xs.mapM f = .error e) : ∃ x ∈ xs, f x = .error e := by
  obtain ⟨before, x, after, rfl, -, own⟩ := mapM_eq_error.mp failed
  exact ⟨x, by simp, own⟩

end Except

namespace Traced

variable {ε α β : Type}

@[simp] theorem liftM_result (result : Except ε α) :
    (liftM result : Traced ε α).result = result := rfl

@[simp] theorem report_result (event : Event) :
    (report event : Traced ε Unit).result = .ok () := rfl

variable {first : Traced ε α} {next : α → Traced ε β}

theorem bind_of_ok {value : α} (done : first.result = .ok value) :
    (first >>= next).result = (next value).result := by
  rw [bind_result, done, ok_bind]

theorem bind_result_eq_ok {value : β} :
    (first >>= next).result = .ok value ↔
      ∃ a, first.result = .ok a ∧ (next a).result = .ok value := by
  rw [bind_result, Columnar.bind_eq_ok]

theorem bind_result_eq_error {e : ε} :
    (first >>= next).result = .error e ↔
      first.result = .error e ∨ ∃ a, first.result = .ok a ∧ (next a).result = .error e := by
  rw [bind_result, Columnar.bind_eq_error]

end Traced

@[simp] theorem Transpose.tracedColumns_result (schema : TableSchema) (rows : List Row) :
    (tracedColumns schema rows).result = columnsOfRows schema rows := by
  simp [tracedColumns]

@[simp] theorem DictionaryProvider.tracedBuild_result (columns : List Column)
    (fields : List Field) :
    (tracedBuild columns fields).result =
      (build columns fields).mapError ConversionError.malformedInput := by
  simp [tracedBuild]

namespace Operation

variable {ε δ α β : Type}

theorem bind_ok {first : Operation ε α} {next : α → Operation ε β} {arena : ColumnArena} {value : α}
    (done : (first arena).result = .ok value) :
    ((first >>= next) arena).result = (next value (first arena).arena).result ∧
      ((first >>= next) arena).arena = (next value (first arena).arena).arena := by
  show (Operation.bind first next arena).result = _ ∧ (Operation.bind first next arena).arena = _
  simp [Operation.bind, done]

theorem bind_error {first : Operation ε α} {next : α → Operation ε β} {arena : ColumnArena} {e : ε}
    (failed : (first arena).result = .error e) :
    ((first >>= next) arena).result = .error e ∧
      ((first >>= next) arena).arena = (first arena).arena := by
  show (Operation.bind first next arena).result = _ ∧ (Operation.bind first next arena).arena = _
  simp [Operation.bind, failed]

@[simp] theorem ofTraced_result (traced : Traced ε α) (arena : ColumnArena) :
    ((liftM traced : Operation ε α) arena).result = traced.result := rfl

@[simp] theorem ofTraced_arena (traced : Traced ε α) (arena : ColumnArena) :
    ((liftM traced : Operation ε α) arena).arena = arena := rfl

end Operation

end Columnar
