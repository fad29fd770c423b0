/-
What is found in an entity, and where.

A finding comes from one field: a union, a node without counterpart, an enum without members, or a default that does not
fit. Fields are reached through object fields and array elements; options of a union are not looked into.
- `Field.at?`, `Field.trail`: the field at a path of steps, and the names on the way to it.
- `Field.Reports`: what there is to be found at a field.
- `Origin.Before`: fields come before their later siblings, and a default comes after all that is beneath its field.
- `Field.mem_origins`, `Field.pairwise_origins`, `Field.diagnose_eq`: the findings of a field come from just the origins
  beneath it, in this order.
- `Entity.diagnostics_exact`: the findings of an entity are its origins, each once, in order, with the path of its field.
-/
import Mathlib.Tactic
import DocumentModels.Proofs.Schema.Positions

namespace DocumentModels

/-! ## Fields and the ways to them -/

namespace Field

/-- **The field at a path.** -/
def at? : List Step → Field → Option Field
  | [], field => some field
  | .field index :: rest, .object _ fields => fields[index]?.bind fun named => at? rest named.2
  | .element :: rest, .array _ element => at? rest element
  | _ :: _, _ => none

/-- the names on the way to a field -/
def trail : List Step → Field → List String
  | .field index :: rest, .object _ fields =>
    match fields[index]? with
    | some named => named.1 :: trail rest named.2
    | none => []
  | .element :: rest, .array _ element => elementName :: trail rest element
  | _, _ => []

theorem trail_nil (field : Field) : field.trail [] = [] := by
  cases field <;> rfl

end Field

namespace Entity

/-- an entity as one field: an object of its fields, under no modifier -/
def root (entity : Entity) : Field := .object {} entity.fields

/-- a field of an entity is reached by some steps -/
def Visits (entity : Entity) (steps : List Step) (field : Field) : Prop :=
  steps ≠ [] ∧ entity.root.at? steps = some field

/-- the path of a field: the names on the way to it, joined -/
def pathTo (entity : Entity) (steps : List Step) : String := (entity.root.trail steps).foldl joinPath ""

end Entity

/-! ## Findings about one field -/

/-- a value is of a JSON type that fits the type of a position -/
inductive Spec.Fits : Spec → Json → Prop
  | mixed (rules : Rules) (value : Json) : Fits (.leaf rules .mixed) value
  | string (rules : Rules) (s : String) : Fits (.leaf rules .string) (.string s)
  | number (rules : Rules) (n : Number) : Fits (.leaf rules .number) (.number n)
  | boolean (rules : Rules) (b : Bool) : Fits (.leaf rules .boolean) (.bool b)
  | dateText (rules : Rules) (s : String) : Fits (.leaf rules .date) (.string s)
  | dateNumber (rules : Rules) (n : Number) : Fits (.leaf rules .date) (.number n)
  | array (rules : Rules) (element : Spec) (items : List Json) : Fits (.array rules element) (.array items)
  | object (rules : Rules) (fields : List (String × Spec)) (members : Members) :
    Fits (.object rules fields) (.object members)

theorem Spec.acceptsDefault_iff (spec : Spec) (value : Json) :
    spec.acceptsDefault value = true ↔ value = .null ∨ spec.Fits value := by
  constructor
  · intro h
    unfold acceptsDefault at h
    split at h
    · exact Or.inl rfl
    · exact Or.inr (.mixed _ _)
    · exact Or.inr (.string _ _)
    · exact Or.inr (.number _ _)
    · exact Or.inr (.boolean _ _)
    · exact Or.inr (.dateText _ _)
    · exact Or.inr (.dateNumber _ _)
    · exact Or.inr (.array _ _ _)
    · exact Or.inr (.object _ _ _)
    · cases h
  · rintro (rfl | h)
    · cases spec <;> rfl
    · cases h with
      | mixed rules value => cases value <;> rfl
      | _ => rfl

namespace Field

/-- **What there is to be found at a field itself.** -/
inductive Reports : Field → Finding → Prop
  | union (modifiers : Modifiers) (options : List Field) :
    Reports (.union modifiers options) (.unionFallback options.length)
  | unmodeled (modifiers : Modifiers) (typeName : String) :
    Reports (.leaf modifiers (.unmodeled typeName)) (.unhandledType typeName)
  | enum (modifiers : Modifiers) : Reports (.leaf modifiers (.enum [])) .emptyEnum
  | default {field : Field} {value : Json} : field.modifiers.default = some value → value ≠ .null →
    ¬ field.spec.Fits value → Reports field (.defaultTypeMismatch field.spec.tag)

/-- the finding that the kind of a field calls for, if any -/
def kindFindings : Field → List Finding
  | .leaf _ l => l.findings
  | .union _ options => [.unionFallback options.length]
  | _ => []

/-- the findings about a field itself, its default last -/
def ownFindings (field : Field) : List Finding := field.kindFindings ++ field.defaultFindings

theorem mem_kindFindings {field : Field} {finding : Finding} (h : finding ∈ field.kindFindings) :
    field.Reports finding ∧ ∀ type, finding ≠ .defaultTypeMismatch type := by
  cases field with
  | leaf modifiers l =>
    rw [kindFindings] at h
    unfold Leaf.findings at h
    split at h
    · rw [List.mem_singleton.1 h]
      exact ⟨.enum modifiers, by simp⟩
    · rw [List.mem_singleton.1 h]
      exact ⟨.unmodeled modifiers _, by simp⟩
    · cases h
  | union modifiers options =>
    rw [List.mem_singleton.1 h]
    exact ⟨.union modifiers options, by simp⟩
  | array modifiers element => cases h
  | object modifiers fields => cases h

theorem mem_defaultFindings {field : Field} {finding : Finding} :
    finding ∈ field.defaultFindings ↔ finding = .defaultTypeMismatch field.spec.tag ∧
      ∃ value, field.modifiers.default = some value ∧ value ≠ .null ∧ ¬ field.spec.Fits value := by
  rw [defaultFindings]
  cases field.modifiers.default with
  | none => simp
  | some value =>
    have haccepts := field.spec.acceptsDefault_iff value
    by_cases h : field.spec.acceptsDefault value = true
    · simp only [h, if_true, List.not_mem_nil, Option.some.injEq, exists_eq_left', false_iff]
      rintro ⟨-, hnull, hfits⟩
      exact (haccepts.1 h).elim hnull hfits
    · rw [haccepts, not_or] at h
      simp [haccepts, h]

theorem mem_ownFindings {field : Field} {finding : Finding} :
    finding ∈ field.ownFindings ↔ field.Reports finding := by
  rw [ownFindings, List.mem_append, mem_defaultFindings]
  constructor
  · rintro (h | ⟨rfl, value, hdefault, hnull, hfits⟩)
    · exact (mem_kindFindings h).1
    · exact .default hdefault hnull hfits
  · intro h
    cases h with
    | default hdefault hnull hfits => exact Or.inr ⟨rfl, _, hdefault, hnull, hfits⟩
    | _ => exact Or.inl List.mem_cons_self

end Field

/-! ## Where findings come from -/

/-- a finding and the steps to the field that it is about -/
structure Origin where
  steps : List Step
  finding : Finding

namespace Origin

/-- **The order of findings.** What comes from a field comes before what comes from a later sibling; a default comes after
all that is found beneath its field, and after what else is found at it. -/
inductive Before : Origin → Origin → Prop
  | sibling (outer : List Step) {i j : ℕ} (left right : List Step) (first second : Finding) : i < j →
    Before ⟨outer ++ .field i :: left, first⟩ ⟨outer ++ .field j :: right, second⟩
  | beneath (outer : List Step) (step : Step) (rest : List Step) (finding : Finding) (type : String) :
    Before ⟨outer ++ step :: rest, finding⟩ ⟨outer, .defaultTypeMismatch type⟩
  | own (steps : List Step) {finding : Finding} (type : String) : (∀ other, finding ≠ .defaultTypeMismatch other) →
    Before ⟨steps, finding⟩ ⟨steps, .defaultTypeMismatch type⟩

theorem Before.ne {a b : Origin} (h : Before a b) : a ≠ b := by
  intro hsame
  cases h with
  | sibling outer left right first second hlt =>
    rw [Origin.mk.injEq, List.append_cancel_left_eq, List.cons.injEq, Step.field.injEq] at hsame
    omega
  | beneath outer step rest finding type =>
    have hlength := congrArg (fun origin => origin.steps.length) hsame
    simp at hlength
  | own steps type hother =>
    rw [Origin.mk.injEq] at hsame
    exact hother type hsame.2

/-- the same finding, with one more step before the others -/
def under (step : Step) (origin : Origin) : Origin := ⟨step :: origin.steps, origin.finding⟩

theorem Before.under {a b : Origin} (h : Before a b) (step : Step) : Before (a.under step) (b.under step) := by
  cases h with
  | sibling outer left right first second hlt => exact .sibling (step :: outer) left right first second hlt
  | beneath outer next rest finding type => exact .beneath (step :: outer) next rest finding type
  | own steps type hother => exact .own (step :: steps) type hother

end Origin

namespace Field

/-- the findings about a field itself, with no step to it -/
def ownOrigins (field : Field) : List Origin := field.ownFindings.map (⟨[], ·⟩)

mutual

/-- the findings beneath a field, then those about itself -/
def origins : Field → List Origin
  | .array modifiers element => (origins element).map (.under .element) ++ ownOrigins (.array modifiers element)
  | .object modifiers fields => fieldOrigins 0 fields ++ ownOrigins (.object modifiers fields)
  | field => ownOrigins field

/-- the findings of fields, the first of which has the given place -/
def fieldOrigins (place : ℕ) : List (String × Field) → List Origin
  | [] => []
  | (_, field) :: rest => (origins field).map (.under (.field place)) ++ fieldOrigins (place + 1) rest

end

theorem mem_fieldOrigins {place : ℕ} {fields : List (String × Field)} {origin : Origin} :
    origin ∈ fieldOrigins place fields ↔ ∃ index named, fields[index]? = some named ∧
      ∃ inner ∈ origins named.2, origin = inner.under (.field (place + index)) := by
  induction fields generalizing place with
  | nil => simp [fieldOrigins]
  | cons first rest ih =>
    rw [fieldOrigins, List.mem_append, List.mem_map, ih]
    constructor
    · rintro (⟨inner, hinner, rfl⟩ | ⟨index, named, hnamed, inner, hinner, rfl⟩)
      · exact ⟨0, first, rfl, inner, hinner, rfl⟩
      · exact ⟨index + 1, named, hnamed, inner, hinner, by rw [Nat.add_assoc, Nat.add_comm 1]⟩
    · rintro ⟨index, named, hnamed, inner, hinner, rfl⟩
      cases index with
      | zero =>
        cases hnamed
        exact Or.inl ⟨inner, hinner, rfl⟩
      | succ index => exact Or.inr ⟨index, named, hnamed, inner, hinner, by rw [Nat.add_assoc, Nat.add_comm 1]⟩

theorem mem_ownOrigins {field : Field} {origin : Origin} :
    origin ∈ field.ownOrigins ↔ origin.steps = [] ∧ field.Reports origin.finding := by
  obtain ⟨steps, finding⟩ := origin
  rw [ownOrigins, List.mem_map, ← mem_ownFindings]
  constructor
  · rintro ⟨other, hother, h⟩
    cases h
    exact ⟨rfl, hother⟩
  · rintro ⟨rfl, h⟩
    exact ⟨finding, h, rfl⟩

mutual

/-- **The origins of a field are the findings at the fields beneath it,** and at itself. -/
theorem mem_origins : ∀ (field : Field) (origin : Origin),
    origin ∈ field.origins ↔ ∃ part, field.at? origin.steps = some part ∧ part.Reports origin.finding
  | .leaf modifiers l, ⟨steps, finding⟩ => by
    rw [origins, mem_ownOrigins]
    · cases steps <;> simp [at?]
    · simp
    · simp
  | .union modifiers options, ⟨steps, finding⟩ => by
    rw [origins, mem_ownOrigins]
    · cases steps <;> simp [at?]
    · simp
    · simp
  | .array modifiers element, ⟨steps, finding⟩ => by
    rw [origins, List.mem_append, mem_ownOrigins, List.mem_map]
    cases steps with
    | nil => simp [at?, Origin.under]
    | cons step rest =>
      cases step with
      | field index => simp [at?, Origin.under]
      | element =>
        rw [at?, ← mem_origins element ⟨rest, finding⟩]
        constructor
        · rintro (⟨inner, hinner, h⟩ | ⟨h, -⟩)
          · cases h
            exact hinner
          · cases h
        · intro h
          exact Or.inl ⟨_, h, rfl⟩
  | .object modifiers fields, ⟨steps, finding⟩ => by
    rw [origins, List.mem_append, mem_ownOrigins, mem_fieldOrigins]
    cases steps with
    | nil => simp [at?, Origin.under]
    | cons step rest =>
      cases step with
      | element => simp [at?, Origin.under]
      | field index =>
        rw [at?]
        simp only [Nat.zero_add]
        constructor
        · rintro (⟨index', named, hnamed, inner, hinner, h⟩ | ⟨h, -⟩)
          · obtain ⟨part, hpart, hreports⟩ := (mem_named_origins fields named (List.mem_of_getElem? hnamed) inner).1 hinner
            cases h
            exact ⟨part, by rw [hnamed, Option.bind_some, hpart], hreports⟩
          · cases h
        · rintro ⟨part, hpart, hreports⟩
          obtain ⟨named, hnamed, hpart⟩ := Option.bind_eq_some_iff.1 hpart
          have hinner := (mem_named_origins fields named (List.mem_of_getElem? hnamed) ⟨rest, finding⟩).2
            ⟨part, hpart, hreports⟩
          exact Or.inl ⟨index, named, hnamed, _, hinner, rfl⟩

theorem mem_named_origins : ∀ (fields : List (String × Field)), ∀ named ∈ fields, ∀ origin : Origin,
    origin ∈ origins named.2 ↔ ∃ part, named.2.at? origin.steps = some part ∧ part.Reports origin.finding
  | (name, field) :: rest, named, hnamed, origin => by
    rcases List.mem_cons.1 hnamed with rfl | hnamed
    · exact mem_origins field origin
    · exact mem_named_origins rest named hnamed origin

end

/-! ## The order of origins -/

theorem pairwise_kindFindings (field : Field) (r : Finding → Finding → Prop) : field.kindFindings.Pairwise r := by
  cases field with
  | leaf modifiers l =>
    rw [kindFindings]
    unfold Leaf.findings
    split
    · exact List.pairwise_singleton _ _
    · exact List.pairwise_singleton _ _
    · exact List.Pairwise.nil
  | union modifiers options => exact List.pairwise_singleton _ _
  | array modifiers element => exact List.Pairwise.nil
  | object modifiers fields => exact List.Pairwise.nil

theorem pairwise_defaultFindings (field : Field) (r : Finding → Finding → Prop) : field.defaultFindings.Pairwise r := by
  unfold defaultFindings
  split
  · split_ifs
    · exact List.Pairwise.nil
    · exact List.pairwise_singleton _ _
  · exact List.Pairwise.nil

theorem pairwise_ownOrigins (field : Field) : field.ownOrigins.Pairwise Origin.Before := by
  rw [ownOrigins, List.pairwise_map, ownFindings, List.pairwise_append]
  refine ⟨pairwise_kindFindings field _, pairwise_defaultFindings field _, ?_⟩
  intro kind hkind default hdefault
  obtain ⟨rfl, -⟩ := mem_defaultFindings.1 hdefault
  exact .own [] _ (mem_kindFindings hkind).2

/-- what is found beneath a field with parts comes before what is found about itself, which can only be its default -/
theorem before_ownOrigins {field : Field} (hkind : field.kindFindings = []) {origin : Origin}
    (horigin : origin ∈ field.ownOrigins) (step : Step) (inner : Origin) : (inner.under step).Before origin := by
  rw [ownOrigins, ownFindings, hkind, List.nil_append] at horigin
  obtain ⟨finding, hfinding, rfl⟩ := List.mem_map.1 horigin
  obtain ⟨rfl, -⟩ := mem_defaultFindings.1 hfinding
  exact .beneath [] step inner.steps inner.finding _

mutual

/-- **Origins are listed in order.** -/
theorem pairwise_origins : ∀ field : Field, field.origins.Pairwise Origin.Before
  | .leaf modifiers l => by
    rw [origins]
    · exact pairwise_ownOrigins _
    · simp
    · simp
  | .union modifiers options => by
    rw [origins]
    · exact pairwise_ownOrigins _
    · simp
    · simp
  | .array modifiers element => by
    rw [origins, List.pairwise_append]
    refine ⟨(pairwise_origins element).map _ fun _ _ h => h.under .element, pairwise_ownOrigins _, ?_⟩
    intro origin horigin own hown
    obtain ⟨inner, -, rfl⟩ := List.mem_map.1 horigin
    exact before_ownOrigins rfl hown .element inner
  | .object modifiers fields => by
    rw [origins, List.pairwise_append]
    refine ⟨pairwise_fieldOrigins 0 fields, pairwise_ownOrigins _, ?_⟩
    intro origin horigin own hown
    obtain ⟨index, named, -, inner, -, rfl⟩ := mem_fieldOrigins.1 horigin
    exact before_ownOrigins rfl hown _ inner

theorem pairwise_fieldOrigins : ∀ (place : ℕ) (fields : List (String × Field)),
    (fieldOrigins place fields).Pairwise Origin.Before
  | _, [] => List.Pairwise.nil
  | place, (name, field) :: rest => by
    rw [fieldOrigins, List.pairwise_append]
    refine ⟨(pairwise_origins field).map _ fun _ _ h => h.under _, pairwise_fieldOrigins (place + 1) rest, ?_⟩
    intro first hfirst later hlater
    obtain ⟨left, -, rfl⟩ := List.mem_map.1 hfirst
    obtain ⟨index, named, -, right, -, rfl⟩ := mem_fieldOrigins.1 hlater
    exact .sibling [] left.steps right.steps left.finding right.finding (by omega)

end

/-! ## The findings of a traversal -/

/-- a finding at the path of its field -/
def located (entity parent : String) (field : Field) (origin : Origin) : Diagnostic :=
  ⟨entity, (field.trail origin.steps).foldl joinPath parent, origin.finding⟩

theorem map_ownOrigins (entity parent : String) (field : Field) :
    field.ownOrigins.map (located entity parent field) = field.ownFindings.map (⟨entity, parent, ·⟩) := by
  rw [ownOrigins, List.map_map]
  refine List.map_congr_left ?_
  intro finding _
  rw [Function.comp_apply, located, trail_nil, List.foldl_nil]

/-- the way to a field leads on to what is beneath it -/
theorem located_field (entity parent : String) (modifiers : Modifiers) {fields : List (String × Field)} {place : ℕ}
    {named : String × Field} (h : fields[place]? = some named) (inner : Origin) :
    located entity parent (.object modifiers fields) (inner.under (.field place))
      = located entity (joinPath parent named.1) named.2 inner := by
  rw [located, Origin.under, trail, h]
  rfl

mutual

/-- **A traversal reports the origins of a field,** in order and at their paths. -/
theorem diagnose_eq (entity : String) : ∀ (field : Field) (parent : String),
    diagnose entity parent field = field.origins.map (located entity parent field)
  | .leaf modifiers l, parent => by
    rw [origins, map_ownOrigins, diagnose, ownFindings, kindFindings]
    · simp
    · simp
  | .union modifiers options, parent => by
    rw [origins, map_ownOrigins, diagnose, ownFindings, kindFindings, List.singleton_append]
    · simp
    · simp
  | .array modifiers element, parent => by
    rw [origins, List.map_append, map_ownOrigins, diagnose, diagnose_eq entity element, List.map_map]
    -- by definition, the way to the element leads on to what is beneath it
    rfl
  | .object modifiers fields, parent => by
    have hfields := diagnoseFields_eq entity modifiers [] fields parent
    rw [origins, List.map_append, map_ownOrigins, diagnose, hfields]
    rfl

/-- the same for fields after others of their object -/
theorem diagnoseFields_eq (entity : String) (modifiers : Modifiers) : ∀ (before fields : List (String × Field))
    (parent : String), diagnoseFields entity parent fields
      = (fieldOrigins before.length fields).map (located entity parent (.object modifiers (before ++ fields)))
  | _, [], _ => rfl
  | before, (name, field) :: rest, parent => by
    have hplace : (before ++ (name, field) :: rest)[before.length]? = some (name, field) := by simp
    have hrest := diagnoseFields_eq entity modifiers (before ++ [(name, field)]) rest parent
    rw [List.length_append, List.length_singleton, List.append_assoc, List.singleton_append] at hrest
    rw [diagnoseFields, fieldOrigins, List.map_append, hrest, diagnose_eq entity field, List.map_map]
    congr 1
    refine List.map_congr_left ?_
    intro inner _
    rw [Function.comp_apply, located_field entity parent modifiers hplace]

end

end Field

/-! ## Entities -/

/-- warnings and infos are all findings, each in one of the two lists -/
theorem Diagnostic.warnings_infos (items : List Diagnostic) :
    (warnings items ++ infos items).Perm items ∧ ∀ item ∈ warnings items, item ∉ infos items := by
  have hinfos : infos items = items.filter fun item => !decide (item.severity = .warning) := by
    refine List.filter_congr ?_
    intro item _
    cases item.severity <;> rfl
  constructor
  · rw [hinfos]
    exact List.filter_append_perm _ items
  · intro item hwarning hinfo
    rw [hinfos, List.mem_filter] at hinfo
    have hsevere := (List.mem_filter.1 hwarning).2
    rw [hsevere] at hinfo
    exact absurd hinfo.2 (by decide)

namespace Entity

theorem origins_root (entity : Entity) : entity.root.origins = Field.fieldOrigins 0 entity.fields := by
  have hown : entity.root.ownOrigins = [] := rfl
  rw [root] at hown ⊢
  rw [Field.origins, hown, List.append_nil]

/-- **The findings of an entity are exact.** There is one finding for each field that is reached through object fields and
array elements and has something to be found, each with the name of the entity and the path of its field, and no other.
Fields come before their later siblings, and the default of a field after all that is found beneath it. Warnings and
infos divide the findings. -/
theorem diagnostics_exact (entity : Entity) :
    (∃ origins : List Origin, origins.Nodup ∧ origins.Pairwise Origin.Before ∧
      (∀ origin, origin ∈ origins ↔ ∃ field, entity.Visits origin.steps field ∧ field.Reports origin.finding) ∧
      entity.translate.diagnostics
        = origins.map fun origin => ⟨entity.name, entity.pathTo origin.steps, origin.finding⟩) ∧
    (Diagnostic.warnings entity.translate.diagnostics ++ Diagnostic.infos entity.translate.diagnostics).Perm
      entity.translate.diagnostics ∧
    ∀ item ∈ Diagnostic.warnings entity.translate.diagnostics,
      item ∉ Diagnostic.infos entity.translate.diagnostics := by
  refine ⟨⟨entity.root.origins, ?_, entity.root.pairwise_origins, ?_, ?_⟩, Diagnostic.warnings_infos _⟩
  · exact entity.root.pairwise_origins.imp fun h => h.ne
  · intro origin
    rw [Field.mem_origins]
    constructor
    · rintro ⟨field, hfield, hreports⟩
      refine ⟨field, ⟨?_, hfield⟩, hreports⟩
      intro hsteps
      -- nothing is found about the entity itself
      have hown : origin ∈ entity.root.ownOrigins := by
        rw [hsteps] at hfield
        cases hfield
        exact Field.mem_ownOrigins.2 ⟨hsteps, hreports⟩
      cases hown
    · rintro ⟨field, ⟨-, hfield⟩, hreports⟩
      exact ⟨field, hfield, hreports⟩
  · have hfields := Field.diagnoseFields_eq entity.name {} [] entity.fields ""
    rw [origins_root]
    exact hfields

/-- what is found in the element of an array comes before the default of the array -/
example : diagnostics ⟨"grids", [("cells", .array { default := some (.bool true) } (.object {}
      [("kind", .leaf {} (.enum [])), ("value", .union {} [.leaf {} .date, .leaf {} .boolean])]))]⟩
    = [⟨"grids", "cells[].kind", .emptyEnum⟩, ⟨"grids", "cells[].value", .unionFallback 2⟩,
      ⟨"grids", "cells", .defaultTypeMismatch "Array"⟩] := by
  decide

end Entity

end DocumentModels
