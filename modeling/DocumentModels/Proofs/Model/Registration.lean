/-
Registering models: when it succeeds, and what it adds.

- `Spec.mem_patterns`: the patterns that are listed for a position are those that stand at the positions in it.
- `Schema.PatternFails`: a position of the schema, at any depth, has a pattern that does not compile.
- `ofSchema_ok_iff`: the pattern table of a schema is made if and only if no pattern of it fails.
- `registrable_iff`: a registration succeeds if and only if the name is new, no pattern fails and every index is on a declared field.
- `register_error`: a registration that fails says which of these does not hold.
- `Index.infer_declared`: inferred indexes are on declared fields, so they never stand in the way.
-/
import Mathlib.Tactic
import DocumentModels.Proofs.Model.Patterns
import DocumentModels.Proofs.Model.Run
import DocumentModels.Proofs.Schema.Positions

namespace DocumentModels

/-! ## Patterns of a schema -/

namespace Spec

/-- a position with a pattern stands in the specification, at any depth -/
def Declares (spec : Spec) (text : String) : Prop :=
  ∃ steps part, spec.at? steps = some part ∧ part.rules.pattern = some text

theorem declares_leaf {rules : Rules} {type : BaseType} {text : String} :
    (leaf rules type).Declares text ↔ rules.pattern = some text := by
  constructor
  · rintro ⟨steps, part, hpart, htext⟩
    cases steps with
    | nil =>
      cases hpart
      exact htext
    | cons step steps => cases step <;> cases hpart
  · intro htext
    exact ⟨[], _, rfl, htext⟩

theorem declares_array {rules : Rules} {element : Spec} {text : String} :
    (array rules element).Declares text ↔ rules.pattern = some text ∨ element.Declares text := by
  constructor
  · rintro ⟨steps, part, hpart, htext⟩
    cases steps with
    | nil =>
      cases hpart
      exact Or.inl htext
    | cons step steps =>
      cases step with
      | field index => cases hpart
      | element => exact Or.inr ⟨steps, part, hpart, htext⟩
  · rintro (htext | ⟨steps, part, hpart, htext⟩)
    · exact ⟨[], _, rfl, htext⟩
    · exact ⟨.element :: steps, part, hpart, htext⟩

theorem declares_object {rules : Rules} {fields : List (String × Spec)} {text : String} :
    (object rules fields).Declares text ↔ rules.pattern = some text ∨ ∃ field ∈ fields, field.2.Declares text := by
  constructor
  · rintro ⟨steps, part, hpart, htext⟩
    cases steps with
    | nil =>
      cases hpart
      exact Or.inl htext
    | cons step steps =>
      cases step with
      | element => cases hpart
      | field index =>
        obtain ⟨field, hfield, hpart⟩ := Option.bind_eq_some_iff.1 hpart
        exact Or.inr ⟨field, List.mem_of_getElem? hfield, steps, part, hpart, htext⟩
  · rintro (htext | ⟨field, hfield, steps, part, hpart, htext⟩)
    · exact ⟨[], _, rfl, htext⟩
    · obtain ⟨index, hindex⟩ := List.mem_iff_getElem?.1 hfield
      exact ⟨.field index :: steps, part, Option.bind_eq_some_iff.2 ⟨field, hindex, hpart⟩, htext⟩

theorem mem_own {rules : Rules} {path text : String} :
    (∃ place, (place, text) ∈ (rules.pattern.map fun p => (path, p)).toList) ↔ rules.pattern = some text := by
  cases rules.pattern <;> simp [eq_comm]

mutual

/-- **The listed patterns are those of the positions.** -/
theorem mem_patterns (text : String) : ∀ (spec : Spec) (path : String),
    (∃ place, (place, text) ∈ spec.patterns path) ↔ spec.Declares text
  | .leaf rules type, path => by
    rw [patterns, mem_own, declares_leaf]
  | .array rules element, path => by
    simp only [patterns, List.mem_append, exists_or]
    rw [mem_own, mem_patterns text element, declares_array]
  | .object rules fields, path => by
    simp only [patterns, List.mem_append, exists_or]
    rw [mem_own, mem_fieldPatterns text fields, declares_object]

theorem mem_fieldPatterns (text : String) : ∀ (fields : List (String × Spec)) (parent : String),
    (∃ place, (place, text) ∈ fieldPatterns parent fields) ↔ ∃ field ∈ fields, field.2.Declares text
  | [], parent => by simp [fieldPatterns]
  | (name, spec) :: rest, parent => by
    simp only [fieldPatterns, List.mem_append, exists_or, List.exists_mem_cons_iff]
    rw [mem_patterns text spec, mem_fieldPatterns text rest]

end

end Spec

/-- a position of the schema, at any depth, has a pattern that does not compile -/
def Schema.PatternFails (schema : Schema) : Prop :=
  ∃ steps part text, schema.root.at? steps = some part ∧ part.rules.pattern = some text ∧ Pattern.parse? text = none

theorem Schema.patternFails_iff {schema : Schema} :
    schema.PatternFails ↔ ∃ item ∈ Spec.fieldPatterns "" schema.fields, Pattern.parse? item.2 = none := by
  have hdeclares : ∀ text, schema.root.Declares text ↔ ∃ field ∈ schema.fields, field.2.Declares text := by
    intro text
    rw [Schema.root, Spec.declares_object]
    simp
  constructor
  · rintro ⟨steps, part, text, hpart, htext, hparse⟩
    obtain ⟨place, hmem⟩ := (Spec.mem_fieldPatterns text schema.fields "").2
      ((hdeclares text).1 ⟨steps, part, hpart, htext⟩)
    exact ⟨(place, text), hmem, hparse⟩
  · rintro ⟨⟨place, text⟩, hmem, hparse⟩
    obtain ⟨steps, part, hpart, htext⟩ := (hdeclares text).2 ((Spec.mem_fieldPatterns text schema.fields "").1 ⟨place, hmem⟩)
    exact ⟨steps, part, text, hpart, htext, hparse⟩

namespace PatternTable

theorem add_error {table : PatternTable} {item : String × String} {error : ConstructionError}
    (h : table.add item = .error error) : error = .badPattern item.1 ∧ Pattern.parse? item.2 = none := by
  unfold add at h
  cases hfind : table.lookup item.2 with
  | some expr =>
    rw [hfind] at h
    cases h
  | none =>
    rw [hfind] at h
    cases hparse : Pattern.parse? item.2 with
    | none =>
      simp only [hparse] at h
      cases h
      exact ⟨rfl, rfl⟩
    | some expr =>
      simp only [hparse] at h
      cases h

/-- a table is not made because a pattern does not compile, and the error names the place of the pattern -/
theorem foldlM_add_error {items : List (String × String)} {table : PatternTable} {error : ConstructionError}
    (h : items.foldlM add table = .error error) :
    ∃ item ∈ items, error = .badPattern item.1 ∧ Pattern.parse? item.2 = none := by
  induction items generalizing table with
  | nil => cases h
  | cons item items ih =>
    rw [List.foldlM_cons] at h
    cases hadd : table.add item with
    | error e =>
      rw [hadd] at h
      cases h
      exact ⟨item, List.mem_cons_self, add_error hadd⟩
    | ok next =>
      rw [hadd] at h
      obtain ⟨other, hother, hcause⟩ := ih h
      exact ⟨other, List.mem_cons_of_mem _ hother, hcause⟩

/-- **When the patterns of a schema compile.** -/
theorem ofSchema_ok_iff {schema : Schema} : (∃ table, ofSchema schema = .ok table) ↔ ¬schema.PatternFails := by
  rw [Schema.patternFails_iff]
  constructor
  · rintro ⟨table, htable⟩ ⟨item, hitem, hparse⟩
    obtain ⟨expr, hexpr, -⟩ := ofSchema_holds htable item hitem
    rw [hparse] at hexpr
    cases hexpr
  · intro hnone
    cases htable : ofSchema schema with
    | ok table => exact ⟨table, rfl⟩
    | error e =>
      obtain ⟨item, hitem, -, hparse⟩ := foldlM_add_error htable
      exact absurd ⟨item, hitem, hparse⟩ hnone

end PatternTable

/-! ## Registering -/

namespace Index

theorem addIfNew_declared {schema : Schema} {indexes : List Index}
    (h : ∀ index ∈ indexes, schema.hasField index.field = true) (candidate : Index) :
    ∀ index ∈ addIfNew schema indexes candidate, schema.hasField index.field = true := by
  intro index hindex
  rw [addIfNew] at hindex
  split_ifs at hindex with hnew
  · rcases List.mem_append.1 hindex with hold | hlast
    · exact h index hold
    · rw [List.mem_singleton.1 hlast]
      exact hnew.1
  · exact h index hindex

/-- **Inferred indexes are on declared fields.** -/
theorem infer_declared (schema : Schema) (textFields : List String) :
    ∀ index ∈ infer schema textFields, schema.hasField index.field = true := by
  rw [infer]
  apply List.foldlRecOn (motive := fun indexes : List Index => ∀ index ∈ indexes, schema.hasField index.field = true)
  · exact List.forall_mem_nil _
  · intro indexes h candidate _
    exact addIfNew_declared h candidate

end Index

namespace Registry

open Collection

/-- **When a model can be registered.** -/
theorem registrable_iff {registry : Registry} {entity : String} {schema : Schema} {indexes : List Index} :
    (∃ next model, registry.register entity schema indexes = .ok (next, model)) ↔
      Emit.modelName entity ∉ registry.names ∧ ¬schema.PatternFails ∧
        ∀ index ∈ indexes, schema.hasField index.field = true := by
  rw [← PatternTable.ofSchema_ok_iff]
  constructor
  · rintro ⟨next, model, h⟩
    obtain ⟨hnew, -, patterns, hpatterns, hindexes, -⟩ := register_eq_ok.1 h
    exact ⟨hnew, ⟨patterns, hpatterns⟩, hindexes⟩
  · rintro ⟨hnew, ⟨patterns, hpatterns⟩, hindexes⟩
    exact ⟨_, _, register_eq_ok.2 ⟨hnew, rfl, patterns, hpatterns, hindexes, rfl⟩⟩

/-- **Why a model is not registered:** its name is taken, a pattern does not compile, or an index is on no field. -/
theorem register_error {registry : Registry} {entity : String} {schema : Schema} {indexes : List Index}
    {error : ConstructionError} (h : registry.register entity schema indexes = .error error) :
    (error = .nameTaken ∧ Emit.modelName entity ∈ registry.names) ∨
    (∃ item ∈ Spec.fieldPatterns "" schema.fields, error = .badPattern item.1 ∧ Pattern.parse? item.2 = none) ∨
    ∃ index ∈ indexes, error = .unknownField index.field ∧ schema.hasField index.field = false := by
  rw [register] at h
  cases htaken : (registry.find? (Emit.modelName entity)).isSome with
  | true =>
    simp only [htaken, if_true] at h
    cases h
    exact Or.inl ⟨rfl, (isSome_find? _ _).1 htaken⟩
  | false =>
    right
    simp only [htaken, Bool.false_eq_true, if_false, make] at h
    cases hpatterns : PatternTable.ofSchema schema with
    | error cause =>
      rw [hpatterns] at h
      cases h
      exact Or.inl (PatternTable.foldlM_add_error hpatterns)
    | ok patterns =>
      rw [hpatterns] at h
      simp only [bind, Except.bind] at h
      cases hfind : indexes.find? fun index => !schema.hasField index.field with
      | none =>
        rw [hfind] at h
        cases h
      | some index =>
        rw [hfind] at h
        cases h
        exact Or.inr ⟨index, List.mem_of_find?_eq_some hfind, rfl, by simpa using List.find?_some hfind⟩

end Registry

end DocumentModels
