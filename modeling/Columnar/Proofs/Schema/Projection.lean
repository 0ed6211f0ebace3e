import Columnar.Proofs.Schema

/-!
Projections of file schemas. A name stands for the first field that has it (`FirstNamed`), and a
projection has that field for each name asked for, in the order of the names. So a projection is projected
as the schema itself is, and it stands for the columns that the names have in the table of the schema
(`project_laws`).
-/
namespace Columnar

/-- Which item of a list is the first that has a name, and where it stands. -/
inductive FirstNamed {α : Type} (nameOf : α → String) (name : String) : List α → Nat → α → Prop where
  | here {item : α} {rest : List α} (own : nameOf item = name) :
    FirstNamed nameOf name (item :: rest) 0 item
  | later {head item : α} {rest : List α} {index : Nat} (other : nameOf head ≠ name)
    (found : FirstNamed nameOf name rest index item) :
    FirstNamed nameOf name (head :: rest) (index + 1) item

namespace FirstNamed

variable {α : Type} {nameOf : α → String} {name : String} {items : List α} {item : α} {index : Nat}

private theorem getElem?_eq (first : FirstNamed nameOf name items index item) :
    items[index]? = some item := by
  induction first with
  | here => rfl
  | later _ _ ih => exact ih

private theorem findIdx?_eq (first : FirstNamed nameOf name items index item) :
    items.findIdx? (nameOf · = name) = some index := by
  induction first with
  | here own => simp [List.findIdx?_cons, own]
  | later other _ ih => simp [List.findIdx?_cons, other, ih]

private theorem find?_eq_some : items.find? (nameOf · = name) = some item ↔
    ∃ index, FirstNamed nameOf name items index item := by
  constructor
  · intro found
    induction items with
    | nil => cases found
    | cons head rest ih =>
      by_cases own : nameOf head = name
      · rw [List.find?_cons_of_pos (by simpa using own)] at found
        obtain rfl := Option.some.inj found
        exact ⟨0, .here own⟩
      · rw [List.find?_cons_of_neg (by simpa using own)] at found
        obtain ⟨index, first⟩ := ih found
        exact ⟨index + 1, .later own first⟩
  · rintro ⟨index, first⟩
    induction first with
    | here own => simp [own]
    | later other _ ih => simp [other, ih]

private theorem forall₂ {β : Type} {nameOf' : β → String} {stands : α → β → Prop} {others : List β}
    (named : ∀ item other, stands item other → nameOf' other = nameOf item)
    (each : List.Forall₂ stands items others) (first : FirstNamed nameOf name items index item) :
    ∃ other, FirstNamed nameOf' name others index other ∧ stands item other := by
  induction first generalizing others with
  | here own =>
    obtain _ | ⟨head, _⟩ := each
    exact ⟨_, .here ((named _ _ head).trans own), head⟩
  | later other _ ih =>
    obtain _ | ⟨head, rest⟩ := each
    obtain ⟨found, first, stands⟩ := ih rest
    exact ⟨found, .later ((named _ _ head).trans_ne other) first, stands⟩

end FirstNamed

namespace FileSchema

variable {schema projection : FileSchema} {name : String} {names : List String} {field : Field}

def pick (schema : FileSchema) (name : String) : Except ConversionError Field :=
  match schema.field? name with
  | some field => .ok field
  | none => .error (.indexOutOfRange s!"column '{name}'" schema.fields.length schema.fields.length)

private theorem project_eq (schema : FileSchema) (names : List String) :
    schema.project names = names.mapM schema.pick >>= fun fields => .ok ⟨fields, schema.metadata⟩ :=
  rfl

theorem field?_eq_none : schema.field? name = none ↔ ∀ field ∈ schema.fields, field.name ≠ name := by
  simp [field?]

private theorem pick_eq_ok : schema.pick name = .ok field ↔ schema.field? name = some field := by
  unfold pick
  cases schema.field? name <;> simp

private theorem pick_eq_error {e : ConversionError} : schema.pick name = .error e ↔
    (∀ field ∈ schema.fields, field.name ≠ name) ∧
      e = .indexOutOfRange s!"column '{name}'" schema.fields.length schema.fields.length := by
  rw [← field?_eq_none]
  unfold pick
  cases schema.field? name <;> simp [eq_comm]

private theorem exists_pick : (∃ field, schema.pick name = .ok field) ↔
    ∃ field ∈ schema.fields, field.name = name := by
  simp only [pick_eq_ok, ← Option.isSome_iff_exists, field?, List.find?_isSome, decide_eq_true_eq]

theorem project_eq_ok : schema.project names = .ok projection ↔
    List.Forall₂ (fun name field => schema.field? name = some field) names projection.fields ∧
      projection.metadata = schema.metadata := by
  rw [project_eq, bind_eq_ok]
  simp only [mapM_eq_ok, pick_eq_ok]
  constructor
  · rintro ⟨fields, each, same⟩
    obtain rfl := Except.ok.inj same
    exact ⟨each, rfl⟩
  · rintro ⟨each, same⟩
    exact ⟨projection.fields, each, by rw [← same]⟩

private theorem exists_project : (∃ projection, schema.project names = .ok projection) ↔
    ∀ name ∈ names, ∃ field ∈ schema.fields, field.name = name := by
  simp only [← exists_pick, ← exists_mapM_eq_ok]
  exact exists_bind_ok

theorem project_eq_error {e : ConversionError} : schema.project names = .error e ↔
    ∃ before name after, names = before ++ name :: after ∧
      (∀ earlier ∈ before, ∃ field ∈ schema.fields, field.name = earlier) ∧
      (∀ field ∈ schema.fields, field.name ≠ name) ∧
      e = .indexOutOfRange s!"column '{name}'" schema.fields.length schema.fields.length := by
  simp only [project_eq, bind_ok_eq_error, mapM_eq_error, exists_pick, pick_eq_error]

private theorem field?_projection (projected : schema.project names = .ok projection)
    (asked : name ∈ names) : projection.field? name = schema.field? name := by
  obtain ⟨fields, metadata⟩ := projection
  have each := (project_eq_ok.mp projected).1
  unfold field? at each ⊢
  dsimp only at each ⊢
  clear projected
  -- The projection finds the first of the names asked for; it has the field that the schema has for it.
  induction each with
  | nil => cases asked
  | @cons own field _ _ found _ ih =>
    have named : field.name = own := by simpa using List.find?_some found
    by_cases same : own = name
    · subst same
      rw [List.find?_cons_of_pos (by simpa using named), found]
    · rw [List.find?_cons_of_neg (by simpa [named] using same)]
      exact ih ((List.mem_cons.mp asked).resolve_left (Ne.symm same))

private theorem pick_projection (projected : schema.project names = .ok projection)
    (asked : name ∈ names) :
    projection.pick name = schema.pick name := by
  obtain ⟨field, picked⟩ := exists_pick.mpr (exists_project.mp ⟨projection, projected⟩ name asked)
  rw [picked, pick_eq_ok, field?_projection projected asked]
  exact pick_eq_ok.mp picked

private theorem project_projection (projected : schema.project names = .ok projection)
    {more : List String} (drawn : more ⊆ names) : projection.project more = schema.project more := by
  have same : more.mapM projection.pick = more.mapM schema.pick :=
    mapM_congr fun name asked => pick_projection projected (drawn asked)
  rw [project_eq, project_eq, same, (project_eq_ok.mp projected).2]

private theorem ofFile_projection {table : TableSchema}
    (projected : schema.project names = .ok projection) (ok : TableSchema.ofFile schema = .ok table) :
    ∃ part, TableSchema.ofFile projection = .ok part ∧
      List.Forall₂ (fun name column => ∃ index, table.indexOf? name = some index ∧
        table.columns[index]? = some column) names part.columns := by
  obtain ⟨fields, metadata⟩ := projection
  have stands := TableSchema.ofFile_eq_ok.mp ok
  have each := (project_eq_ok.mp projected).1
  simp only [TableSchema.ofFile_eq_ok]
  dsimp only at each ⊢
  clear projected
  -- Fields and columns have the same names, so a name finds its field and its column at one place.
  induction each with
  | nil => exact ⟨⟨[]⟩, .nil, .nil⟩
  | cons found _ ih =>
    obtain ⟨⟨columns⟩, rest, named⟩ := ih
    obtain ⟨index, first⟩ := FirstNamed.find?_eq_some.mp found
    obtain ⟨column, first, own⟩ := first.forall₂ (fun _ _ stands => stands.name) stands
    exact ⟨⟨column :: columns⟩, .cons own rest,
      .cons ⟨index, first.findIdx?_eq, first.getElem?_eq⟩ named⟩

/-- A projection succeeds exactly if each name asked for is that of a field, and else fails with the first
that is not. It has the first field of each name, in the order of the names, and the metadata of the
schema. To project it again by some of the names is to project the schema by them. If the schema stands
for a table, the projection stands for the columns that the names have in it. -/
theorem project_laws (schema : FileSchema) (names : List String) :
    ((∃ projection, schema.project names = .ok projection) ↔
      ∀ name ∈ names, ∃ field ∈ schema.fields, field.name = name) ∧
    (∀ e, schema.project names = .error e ↔
      ∃ before name after, names = before ++ name :: after ∧
        (∀ earlier ∈ before, ∃ field ∈ schema.fields, field.name = earlier) ∧
        (∀ field ∈ schema.fields, field.name ≠ name) ∧
        e = .indexOutOfRange s!"column '{name}'" schema.fields.length schema.fields.length) ∧
    ∀ projection, schema.project names = .ok projection →
      List.Forall₂ (fun name field => ∃ index, FirstNamed Field.name name schema.fields index field)
        names projection.fields ∧
      projection.metadata = schema.metadata ∧
      (∀ more ⊆ names, projection.project more = schema.project more) ∧
      ∀ table, TableSchema.ofFile schema = .ok table →
        ∃ part, TableSchema.ofFile projection = .ok part ∧
          List.Forall₂ (fun name column => ∃ index, table.indexOf? name = some index ∧
            table.columns[index]? = some column) names part.columns := by
  refine ⟨exists_project, fun e => project_eq_error, ?_⟩
  intro projection projected
  obtain ⟨each, metadata⟩ := project_eq_ok.mp projected
  refine ⟨each.imp fun name field found => ?_, metadata, ?_, ?_⟩
  · exact FirstNamed.find?_eq_some.mp found
  · intro more drawn
    exact project_projection projected drawn
  · intro table ok
    exact ofFile_projection projected ok

/-- A table with two columns of one name. -/
def repeated : TableSchema :=
  ⟨[⟨"a", .int64, none⟩, ⟨"b", .float64, some ⟨4, true⟩⟩, ⟨"a", .categorical, none⟩]⟩

/-- Of two columns of one name the first is projected, as often as it is asked for. -/
theorem project_repeated :
    ∃ projection, repeated.toFile.project ["b", "a", "b"] = .ok projection ∧
      projection.project ["a", "a"] = repeated.toFile.project ["a", "a"] ∧
      TableSchema.ofFile projection = .ok ⟨[⟨"b", .float64, some ⟨4, true⟩⟩, ⟨"a", .int64, none⟩,
        ⟨"b", .float64, some ⟨4, true⟩⟩]⟩ := by
  obtain ⟨accepted, -, projected⟩ := project_laws repeated.toFile ["b", "a", "b"]
  obtain ⟨projection, ok⟩ := accepted.mpr (by decide)
  obtain ⟨-, -, again, part⟩ := projected projection ok
  refine ⟨projection, ok, again ["a", "a"] (by decide), ?_⟩
  obtain ⟨⟨columns⟩, read, named⟩ := part repeated rfl
  have same : columns = [⟨"b", .float64, some ⟨4, true⟩⟩, ⟨"a", .int64, none⟩,
      ⟨"b", .float64, some ⟨4, true⟩⟩] := by
    simpa [List.forall₂_cons_left_iff, repeated, TableSchema.indexOf?, List.findIdx?_cons, eq_comm]
      using named
  rw [read, same]

end FileSchema

end Columnar
