/-
Runs of a model: sequences of insertions, accepted or rejected.

- `register_eq_ok`: all that a successful registration does.
- `register_ok`: what a registered model is made of.
- `insert_ok`: all that an accepted insertion does.
- `insertAll_induction`: what holds of a new model and is kept by every accepted insertion holds after every run.
- `insertAll_config`: a run changes nothing but documents, positions and the counter.
- `validate_of_register`: so a registered model validates in the same way after every run.
-/
import Mathlib.Tactic
import DocumentModels.Model.Registry

namespace DocumentModels

/-- one call of `insert`: the time of the call and a document, in which the names of every object are distinct -/
structure Input where
  now : String
  document : Json
  distinct : document.Distinct

/-! ## New models -/

namespace Registry

def push (registry : Registry) (model : Collection) : Registry := { registry with models := registry.models ++ [model] }

theorem names_push (registry : Registry) (model : Collection) :
    (registry.push model).names = registry.names ++ [model.name] := by
  rw [push, names, List.map_append, names, List.map_singleton]

theorem isSome_find? (registry : Registry) (name : String) :
    (registry.find? name).isSome = true ↔ name ∈ registry.names := by
  rw [find?, List.find?_isSome, names, List.mem_map]
  simp

end Registry

namespace Collection

def fresh (name entity : String) (schema : Schema) (indexes : List Index) (timestamps : Bool) (patterns : PatternTable) :
    Collection :=
  { name, entity, schema, indexes, timestamps, patterns, positions := indexes.foldl addMap [] }

theorem make_ok {name entity : String} {schema : Schema} {indexes : List Index} {timestamps : Bool}
    {model : Collection} :
    make name entity schema indexes timestamps = .ok model ↔
      ∃ patterns, PatternTable.ofSchema schema = .ok patterns ∧
        (∀ index ∈ indexes, schema.hasField index.field = true) ∧
        model = fresh name entity schema indexes timestamps patterns := by
  unfold make
  cases hpatterns : PatternTable.ofSchema schema with
  | error e => simp [bind, Except.bind]
  | ok patterns =>
    simp only [bind, Except.bind, Except.ok.injEq, exists_eq_left']
    cases hfind : indexes.find? fun index => !schema.hasField index.field with
    | some index =>
      have hunknown : schema.hasField index.field = false := by simpa using List.find?_some hfind
      constructor
      · rintro ⟨⟩
      · rintro ⟨hindexes, -⟩
        rw [hindexes index (List.mem_of_find?_eq_some hfind)] at hunknown
        cases hunknown
    | none =>
      have hindexes : ∀ index ∈ indexes, schema.hasField index.field = true := by
        intro index hindex
        simpa using List.find?_eq_none.1 hfind index hindex
      constructor
      · rintro ⟨⟩
        exact ⟨hindexes, rfl⟩
      · rintro ⟨-, rfl⟩
        rfl

/-- **What a successful registration does.** -/
theorem register_eq_ok {registry next : Registry} {entity : String} {schema : Schema} {indexes : List Index}
    {model : Collection} :
    registry.register entity schema indexes = .ok (next, model) ↔
      Emit.modelName entity ∉ registry.names ∧ next = registry.push model ∧
        ∃ patterns, PatternTable.ofSchema schema = .ok patterns ∧
          (∀ index ∈ indexes, schema.hasField index.field = true) ∧
          model = fresh (Emit.modelName entity) entity schema indexes registry.timestamps patterns := by
  rw [← Registry.isSome_find?, ← make_ok, Registry.register]
  cases htaken : (registry.find? (Emit.modelName entity)).isSome with
  | true =>
    simp only [if_true, not_true, false_and, iff_false]
    rintro ⟨⟩
  | false =>
    cases hmake : make (Emit.modelName entity) entity schema indexes registry.timestamps with
    | error e =>
      constructor
      · rintro ⟨⟩
      · rintro ⟨-, -, ⟨⟩⟩
    | ok made =>
      constructor
      · rintro ⟨⟩
        exact ⟨by simp, rfl, rfl⟩
      · rintro ⟨-, rfl, ⟨⟩⟩
        rfl

theorem register_ok {registry registry' : Registry} {entity : String} {schema : Schema} {indexes : List Index}
    {model : Collection} (h : registry.register entity schema indexes = .ok (registry', model)) :
    ∃ patterns, PatternTable.ofSchema schema = .ok patterns ∧
      (∀ index ∈ indexes, schema.hasField index.field = true) ∧
      model = fresh (Emit.modelName entity) entity schema indexes registry.timestamps patterns :=
  (register_eq_ok.1 h).2.2

/-! ## One insertion -/

def storedMembers (model : Collection) (input : Input) (fields : Members) : Members :=
  model.storedForm input.now input.document (model.idOf input.document) fields

/-- the model once a document is stored -/
def grown (model : Collection) (input : Input) (fields : Members) : Collection :=
  { model with
    documents := model.documents.push (.object (model.storedMembers input fields))
    positions := model.positions.map (note model.documents.size (model.storedMembers input fields))
    nextId := bumped model.nextId (model.idOf input.document) }

/-- whether a document is accepted, with its fields as they are stored -/
structure Accepts (model : Collection) (input : Input) (fields : Members) : Prop where
  valid : model.validate input.document = .ok fields
  new : model.hasId (model.idOf input.document) = false

theorem insert_of_invalid {model : Collection} {input : Input} {violations : List Violation}
    (h : model.validate input.document = .error violations) :
    model.insert input.now input.document = .error violations := by
  unfold insert
  rw [h]
  rfl

theorem insert_of_taken {model : Collection} {input : Input} {fields : Members}
    (hvalid : model.validate input.document = .ok fields) (htaken : model.hasId (model.idOf input.document) = true) :
    model.insert input.now input.document = .error [⟨idKey, .duplicateKey (model.idOf input.document)⟩] := by
  unfold insert
  rw [hvalid]
  simp only [bind, Except.bind, htaken, if_true]
  rfl

theorem insert_of_accepts {model : Collection} {input : Input} {fields : Members} (h : model.Accepts input fields) :
    model.insert input.now input.document
      = .ok (model.grown input fields, .object (model.storedMembers input fields)) := by
  unfold insert
  rw [h.valid]
  simp only [bind, Except.bind, h.new]
  rfl

theorem insert_ok {model next : Collection} {input : Input} {stored : Json} :
    model.insert input.now input.document = .ok (next, stored) ↔
      ∃ fields, model.Accepts input fields ∧ next = model.grown input fields ∧
        stored = .object (model.storedMembers input fields) := by
  constructor
  · intro h
    cases hvalid : model.validate input.document with
    | error violations =>
      rw [insert_of_invalid hvalid] at h
      cases h
    | ok fields =>
      cases hnew : model.hasId (model.idOf input.document) with
      | true =>
        rw [insert_of_taken hvalid hnew] at h
        cases h
      | false =>
        have haccepts : model.Accepts input fields := ⟨hvalid, hnew⟩
        rw [insert_of_accepts haccepts] at h
        cases h
        exact ⟨fields, haccepts, rfl, rfl⟩
  · rintro ⟨fields, haccepts, rfl, rfl⟩
    exact insert_of_accepts haccepts

/-- the model after a call; a rejected document leaves it as it was -/
def tryInsert (model : Collection) (input : Input) : Collection :=
  match model.insert input.now input.document with
  | .ok (next, _) => next
  | .error _ => model

theorem tryInsert_of_accepts {model : Collection} {input : Input} {fields : Members} (h : model.Accepts input fields) :
    model.tryInsert input = model.grown input fields := by
  rw [tryInsert, insert_of_accepts h]

theorem tryInsert_cases (model : Collection) (input : Input) :
    model.tryInsert input = model ∨
      ∃ fields, model.Accepts input fields ∧ model.tryInsert input = model.grown input fields := by
  cases hinsert : model.insert input.now input.document with
  | error violations =>
    left
    rw [tryInsert, hinsert]
  | ok result =>
    right
    obtain ⟨next, stored⟩ := result
    obtain ⟨fields, haccepts, -⟩ := insert_ok.1 hinsert
    exact ⟨fields, haccepts, tryInsert_of_accepts haccepts⟩

/-! ## Runs -/

/-- the model after a sequence of calls -/
def insertAll (model : Collection) (inputs : List Input) : Collection := inputs.foldl tryInsert model

theorem insertAll_induction {P : Collection → Prop} {start : Collection} (hstart : P start)
    (hstep : ∀ model input fields, P model → model.Accepts input fields → P (model.grown input fields))
    (inputs : List Input) : P (start.insertAll inputs) := by
  induction inputs generalizing start with
  | nil => exact hstart
  | cons input inputs ih =>
    apply ih
    rcases start.tryInsert_cases input with hsame | ⟨fields, haccepts, hgrown⟩
    · rw [hsame]
      exact hstart
    · rw [hgrown]
      exact hstep start input fields hstart haccepts

/-- what a run does not change -/
def SameConfig (a b : Collection) : Prop :=
  a.schema = b.schema ∧ a.indexes = b.indexes ∧ a.timestamps = b.timestamps ∧ a.patterns = b.patterns

theorem insertAll_config (start : Collection) (inputs : List Input) : SameConfig (start.insertAll inputs) start := by
  apply insertAll_induction (P := fun model => SameConfig model start)
  · exact ⟨rfl, rfl, rfl, rfl⟩
  · intro model input fields h _
    exact h

theorem SameConfig.validate_eq {a b : Collection} (h : SameConfig a b) (document : Json) :
    a.validate document = b.validate document := by
  obtain ⟨hschema, -, -, hpatterns⟩ := h
  rw [validate, validate, hschema, hpatterns]

/-- in every later state, a registered model validates by its schema and the patterns of the schema -/
theorem validate_of_register {registry registry' : Registry} {entity : String} {schema : Schema} {indexes : List Index}
    {model : Collection} (h : registry.register entity schema indexes = .ok (registry', model)) :
    PatternTable.ofSchema schema = .ok model.patterns ∧ ∀ inputs document,
      (model.insertAll inputs).validate document = schema.validate model.patterns document := by
  obtain ⟨patterns, hpatterns, -, rfl⟩ := register_ok h
  refine ⟨hpatterns, ?_⟩
  intro inputs document
  rw [(insertAll_config _ inputs).validate_eq document]
  rfl

end Collection

end DocumentModels
