/-
Absent and null members: a model and the validator of its collection ask for the same.

A validator nests objects as its schema does, under `properties` and `items`. The emitter works out once more, for every
position, whether null may stand there; a model looks at the rules of a field only when it is given a document.
- `JsonSchema.part?`, `Spec.part?`: the part of a validator, of a specification, at a path of keys.
- `part?_positionMembers`: rendering commutes with going to a part, by induction on the keys.
- `RendersFields`, `renders_positionMembers`: what is rendered for one object about the presence of its members.
- `null_fault_iff`: type and admitted values of a property against what its field breaks by null.
- `Spec.Reaches`, `Reaches.isInfix`: validation of a document comes to an object inside, and what that object breaks is
  reported in one stretch, by induction on the way to it.
- `presence_agrees`: the whole, at every object of a registered schema.
-/
import Mathlib.Tactic
import DocumentModels.Proofs.Emit.Validator
import DocumentModels.Proofs.Model.Locality

namespace DocumentModels

/-! ## Parts at a path of keys -/

/-- a step into a validator -/
inductive Key where
  | property (name : String)
  | items
  deriving DecidableEq

/-- the validator of a part -/
def JsonSchema.part? : List Key → Json → Option Json
  | [], schema => some schema
  | .property name :: rest, schema => ((schema.get? "properties").bind (·.get? name)).bind (part? rest)
  | .items :: rest, schema => (schema.get? "items").bind (part? rest)

/-- whether a keyword, if it is given, holds of a value -/
def JsonSchema.admitsBy (keywords : Members) (keyword : String) (value : Json) : Bool :=
  (keywords.lookup keyword).all fun argument => holds keyword argument value

/-- the field of a name; where a name stands twice, a validator describes the last -/
def fieldOf? (fields : List (String × Spec)) (name : String) : Option Spec := fields.reverse.lookup name

theorem mem_of_fieldOf? {fields : List (String × Spec)} {name : String} {spec : Spec} (h : fieldOf? fields name = some spec) :
    (name, spec) ∈ fields :=
  List.mem_reverse.1 (mem_of_lookup h)

def Spec.part? : List Key → Spec → Option Spec
  | [], spec => some spec
  | .property name :: rest, .object _ fields => (fieldOf? fields name).bind (part? rest)
  | .items :: rest, .array _ element => part? rest element
  | _ :: _, _ => none

/-- names that are given values one after the other stand in that order, each once -/
theorem Members.names_overlay_nil (more : Members) : (Members.overlay [] more).names = more.names.eraseDups := by
  unfold Members.names
  induction more using List.reverseRecOn with
  | nil => rfl
  | append_singleton more member ih =>
    have hlast : Members.overlay [] (more ++ [member]) = upsert member.1 member.2 (Members.overlay [] more) := by
      simp [Members.overlay, List.foldl_append]
    have hmem : member.1 ∈ (Members.overlay [] more).map Prod.fst ↔ member.1 ∈ more.map Prod.fst := by
      rw [ih, List.mem_eraseDups]
    rw [hlast, names_upsert, List.map_append, List.eraseDups_append, ← ih]
    by_cases h : member.1 ∈ more.map Prod.fst
    · rw [if_pos (hmem.2 h)]
      simp [List.removeAll, h]
    · rw [if_neg (mt hmem.1 h)]
      simp [List.removeAll, h, List.eraseDups_cons]

namespace Emit

open JsonSchema Spec

/-! ## Keywords of a position -/

/-- a member that need not be there, by name -/
theorem lookup_option {α : Type} (rule : Option α) (keyword : String) (argument : α → Json) (key : String) :
    (rule.map fun a => (keyword, argument a)).toList.lookup key = if key = keyword then rule.map argument else none := by
  cases rule with
  | none => simp
  | some a => by_cases h : key = keyword <;> simp [h, List.lookup_cons, beq_false_of_ne]

theorem lookup_ruleMembers (rules : Rules) (nullable : Bool) {key : String}
    (h : key ∉ ["minimum", "maximum", "multipleOf", "minLength", "maxLength", "pattern"]) :
    (ruleMembers rules nullable).lookup key
      = if key = "enum" then rules.enumValues.map fun values => .array (admitted values nullable) else none := by
  simp only [List.mem_cons, List.not_mem_nil, or_false, not_or] at h
  obtain ⟨hmin, hmax, hstep, hshort, hlong, hpattern⟩ := h
  have hinteger : (if rules.integer then [("multipleOf", Json.ofNat 1)] else []).lookup key = none := by
    split_ifs
    · simp [List.lookup_cons, beq_false_of_ne hstep]
    · rfl
  simp only [ruleMembers, List.lookup_append, hinteger, lookup_option, hmin, hmax, hshort, hlong, hpattern, if_false,
    Option.or_none]

theorem lookup_requiredMember (fields : List (String × Spec)) (key : String) :
    (requiredMember fields).lookup key
      = if key = "required" ∧ requiredNames fields ≠ [] then some (.array ((requiredNames fields).map .string)) else none := by
  unfold requiredMember
  by_cases hempty : requiredNames fields = []
  · simp [hempty]
  · by_cases hkey : key = "required" <;> simp [hempty, hkey, List.lookup_cons, beq_false_of_ne]

theorem lookup_objectMembers (nullable : Bool) (rules : Rules) (fields : List (String × Spec)) :
    (positionMembers nullable (.object rules fields)).lookup "required"
        = (if requiredNames fields = [] then none else some (.array ((requiredNames fields).map .string))) ∧
      (positionMembers nullable (.object rules fields)).lookup "properties"
        = some (.object (Members.overlay [] (propertyMembers fields))) := by
  rw [positionMembers]
  refine ⟨?_, ?_⟩
  · simp [List.lookup_append, bsonType, lookup_requiredMember, lookup_ruleMembers, List.lookup_cons]
  · simp [List.lookup_append, bsonType, lookup_requiredMember, List.lookup_cons]

theorem lookup_properties (fields : List (String × Spec)) (name : String) :
    (Members.overlay [] (propertyMembers fields)).lookup name
      = (fieldOf? fields name).map fun spec => .object (positionMembers (!spec.rules.required) spec) := by
  have hproperties : propertyMembers fields
      = fields.map fun field => (field.1, .object (positionMembers (!field.2.rules.required) field.2)) := by
    induction fields with
    | nil => rfl
    | cons field rest ih =>
      obtain ⟨first, spec⟩ := field
      rw [propertyMembers, ih, List.map_cons]
  have hlookup : ∀ entries : List (String × Spec),
      (entries.map fun field => (field.1, Json.object (positionMembers (!field.2.rules.required) field.2))).lookup name
        = (entries.lookup name).map fun spec => .object (positionMembers (!spec.rules.required) spec) := by
    intro entries
    induction entries with
    | nil => rfl
    | cons entry rest ih =>
      obtain ⟨first, spec⟩ := entry
      by_cases h : name = first
      · simp [h]
      · simp [List.lookup_cons, beq_false_of_ne h, ih]
  rw [Members.lookup_overlay, List.lookup_nil, Option.or_none, hproperties, ← List.map_reverse, hlookup, fieldOf?]

/-- **Rendering commutes with going to a part.** -/
theorem part?_positionMembers {keys : List Key} {spec part : Spec} (h : spec.part? keys = some part) (nullable : Bool) :
    ∃ admitsNull, JsonSchema.part? keys (.object (positionMembers nullable spec))
      = some (.object (positionMembers admitsNull part)) := by
  induction keys generalizing spec nullable with
  | nil =>
    obtain rfl := Option.some.inj h
    exact ⟨nullable, rfl⟩
  | cons key rest ih =>
    cases key with
    | property name =>
      cases spec with
      | object rules fields =>
        obtain ⟨field, hfield, hpart⟩ := Option.bind_eq_some_iff.1 h
        obtain ⟨admitsNull, hrest⟩ := ih hpart (!field.rules.required)
        refine ⟨admitsNull, ?_⟩
        rw [JsonSchema.part?, Json.get?, (lookup_objectMembers nullable rules fields).2, Option.bind_some, Json.get?,
          lookup_properties, hfield, Option.map_some, Option.bind_some, hrest]
      | _ => simp [Spec.part?] at h
    | items =>
      cases spec with
      | array rules element =>
        obtain ⟨admitsNull, hrest⟩ := ih h false
        have hitems : (positionMembers nullable (.array rules element)).lookup "items"
            = some (.object (positionMembers false element)) := by
          simp [positionMembers, bsonType, List.lookup_cons]
        refine ⟨admitsNull, ?_⟩
        rw [JsonSchema.part?, Json.get?, hitems, Option.bind_some, hrest]
      | _ => simp [Spec.part?] at h

/-! ## One object -/

/-- **What a validator says of the members of an object.** `required` lists the required names in the order of the fields,
and is left out if there are none; `properties` has the names of the fields in order, each once. Where the names are distinct,
as in every definition, these are all of them, and every field is the one of its name. -/
structure RendersFields (fields : List (String × Spec)) (keywords properties : Members) (required : List String) : Prop where
  inOrder : required = (fields.filter fun field => field.2.rules.required).map Prod.fst
  listed : keywords.lookup "required" = if required = [] then none else some (.array (required.map .string))
  described : keywords.lookup "properties" = some (.object properties)
  named : properties.names = (fields.map Prod.fst).eraseDups
  distinct : (fields.map Prod.fst).Nodup →
    properties.names = fields.map Prod.fst ∧ ∀ field ∈ fields, fieldOf? fields field.1 = some field.2

theorem renders_positionMembers (nullable : Bool) (rules : Rules) (fields : List (String × Spec)) :
    RendersFields fields (positionMembers nullable (.object rules fields)) (Members.overlay [] (propertyMembers fields))
      (requiredNames fields) where
  inOrder := rfl
  listed := (lookup_objectMembers nullable rules fields).1
  described := (lookup_objectMembers nullable rules fields).2
  named := by rw [Members.names_overlay_nil, names_propertyMembers]
  distinct := by
    intro hnames
    refine ⟨?_, ?_⟩
    · rw [overlay_propertyMembers hnames, names_propertyMembers]
    · intro field hfield
      rw [fieldOf?, lookup_reverse hnames, lookup_of_mem hnames hfield]

theorem admitsBy_enum (spec : Spec) : admitsBy (positionMembers true spec) "enum" .null = true := by
  have hrules : ∀ rules, admitsBy (ruleMembers rules true) "enum" .null = true := by
    intro rules
    rw [admitsBy, lookup_ruleMembers _ _ (by decide), if_pos rfl]
    cases rules.enumValues with
    | none => rfl
    | some values => simp [Json.asArray?, null_isIn_admitted]
  cases spec with
  | leaf rules type =>
    cases type <;> simpa [admitsBy, positionMembers, bsonName?, bsonType, List.lookup_append, List.lookup_cons] using hrules rules
  | array rules element =>
    simpa [admitsBy, positionMembers, bsonType, List.lookup_append, List.lookup_cons] using hrules rules
  | object rules fields =>
    simpa [admitsBy, positionMembers, bsonType, List.lookup_append, List.lookup_cons, lookup_requiredMember] using hrules rules

theorem admitsBy_bsonType {spec : Spec} (h : ∀ rules, spec ≠ .leaf rules .mixed) (nullable : Bool) :
    admitsBy (positionMembers nullable spec) "bsonType" .null = nullable := by
  have htype : ∀ name more, name ≠ "null" → admitsBy (bsonType name nullable ++ more) "bsonType" .null = nullable := by
    intro name more hname
    cases nullable <;> simp [admitsBy, bsonType, hasType, typeName, Json.asString?, hname.symm]
  cases spec with
  | leaf rules type =>
    cases type with
    | mixed => exact absurd rfl (h rules)
    | _ => exact htype _ _ (by decide)
  | array rules element =>
    rw [positionMembers, List.append_assoc]
    exact htype _ _ (by decide)
  | object rules fields =>
    rw [positionMembers, List.append_assoc, List.append_assoc]
    exact htype _ _ (by decide)

/-- **Type and admitted values of a property both take null just when its field takes null.** -/
theorem null_fault_iff {fields : List (String × Spec)} {name : String} {spec : Spec} (hspec : fieldOf? fields name = some spec)
    (htype : ∀ rules, spec ≠ .leaf rules .mixed) (place : String) :
    ∃ property, (Members.overlay [] (propertyMembers fields)).lookup name = some (.object property) ∧
      (spec.ownFaults place (some .null) ≠ [] ↔
        ¬(admitsBy property "bsonType" .null = true ∧ admitsBy property "enum" .null = true)) := by
  refine ⟨positionMembers (!spec.rules.required) spec, ?_, ?_⟩
  · rw [lookup_properties, hspec, Option.map_some]
  · rw [ownFaults_null, admitsBy_bsonType htype]
    cases hrequired : spec.rules.required with
    | true => simp
    | false => simp [admitsBy_enum]

end Emit

/-! ## Objects inside a document -/

namespace Spec

open Emit

/-- **Validation of a value at a path comes to a part of it:** to the member of a field, or to an item, along the keys that
the validator has for it. -/
inductive Reaches : Spec → String → Json → List Key → Spec → String → Json → Prop
  | here {spec : Spec} {path : String} {value : Json} : Reaches spec path value [] spec path value
  | field {rules : Rules} {fields : List (String × Spec)} {path name place : String} {members : Members} {spec part : Spec}
    {keys : List Key} {value inner : Json} :
    fieldOf? fields name = some spec → members.lookup name = some value →
      Reaches spec (fieldPath path name) value keys part place inner →
        Reaches (.object rules fields) path (.object members) (.property name :: keys) part place inner
  | item {rules : Rules} {element part : Spec} {path place : String} {items : List Json} {index : ℕ} {keys : List Key}
    {value inner : Json} :
    items[index]? = some value → Reaches element (itemPath path index) value keys part place inner →
      Reaches (.array rules element) path (.array items) (.items :: keys) part place inner

theorem isInfix_flatMap {α β : Type} {a : α} {l : List α} (h : a ∈ l) (f : α → List β) : f a <:+: l.flatMap f := by
  rw [List.flatMap_def]
  exact List.infix_of_mem_flatten (List.mem_map_of_mem h)

namespace Reaches

variable {spec part : Spec} {path place : String} {value inner : Json} {keys : List Key} {members : Members}

theorem counts (h : Reaches spec path value keys part place (.object members)) (field : Spec) :
    field.given (some value) = .value value ∧ value.isNull = false := by
  cases h <;> exact ⟨rfl, rfl⟩

/-- **What an object inside breaks is reported in one stretch.** -/
theorem isInfix (h : Reaches spec path value keys part place inner) (hinner : inner = .object members) :
    part.ownViolations place inner <:+: spec.ownViolations path value := by
  induction h with
  | here => exact List.infix_rfl
  | @field rules fields path name place outer spec part keys value inner hfield hvalue hrest ih =>
    subst hinner
    have hmember : spec.ownFaults (fieldPath path name) (outer.lookup name)
        <:+: (object rules fields).ownViolations path (.object outer) := by
      rw [ownViolations_object]
      exact isInfix_flatMap (mem_of_fieldOf? hfield)
        fun field => field.2.ownFaults (fieldPath path field.1) (outer.lookup field.1)
    rw [hvalue, ownFaults_value (hrest.counts spec).1] at hmember
    exact (ih rfl).trans hmember
  | @item rules element part path place items index keys value inner hvalue hrest ih =>
    subst hinner
    have hmem : (value, index) ∈ items.zipIdx := List.mem_zipIdx_iff_getElem?.2 hvalue
    have hitem := isInfix_flatMap hmem fun item => element.ownItemFaults (itemPath path item.2) item.1
    rw [← ownViolations_array path rules element items] at hitem
    simp only [ownItemFaults, (hrest.counts element).2, Bool.false_eq_true, if_false] at hitem
    exact (ih rfl).trans hitem

/-- the members of an object inside can be any, and some document has that object -/
theorem exists_document (h : spec.part? keys = some part) (path : String) (inner : Json) :
    ∃ value place, Reaches spec path value keys part place inner := by
  induction keys generalizing spec path with
  | nil =>
    obtain rfl := Option.some.inj h
    exact ⟨inner, path, .here⟩
  | cons key rest ih =>
    cases key with
    | property name =>
      cases spec with
      | object rules fields =>
        obtain ⟨field, hfield, hpart⟩ := Option.bind_eq_some_iff.1 h
        obtain ⟨value, place, hrest⟩ := ih hpart (fieldPath path name)
        exact ⟨.object [(name, value)], place, .field hfield List.lookup_cons_self hrest⟩
      | _ => simp [Spec.part?] at h
    | items =>
      cases spec with
      | array rules element =>
        obtain ⟨value, place, hrest⟩ := ih h (itemPath path 0)
        exact ⟨.array [value], place, .item rfl hrest⟩
      | _ => simp [Spec.part?] at h

theorem field_isInfix {rules inner : Rules} {fields parts : List (String × Spec)} {outer : Members}
    (h : Reaches (.object rules fields) path (.object outer) keys (.object inner parts) place (.object members))
    {field : String × Spec} (hfield : field ∈ parts) :
    ∃ top ∈ fields, field.2.ownFaults (fieldPath place field.1) (members.lookup field.1)
      <:+: top.2.ownFaults (fieldPath path top.1) (outer.lookup top.1) := by
  have hobject : field.2.ownFaults (fieldPath place field.1) (members.lookup field.1)
      <:+: (object inner parts).ownViolations place (.object members) := by
    rw [ownViolations_object]
    exact isInfix_flatMap hfield fun field => field.2.ownFaults (fieldPath place field.1) (members.lookup field.1)
  cases h with
  | here => exact ⟨field, hfield, List.infix_rfl⟩
  | @field _ _ _ name _ _ spec _ keys value _ hspec hvalue hrest =>
    refine ⟨(name, spec), mem_of_fieldOf? hspec, ?_⟩
    rw [hvalue, ownFaults_value (hrest.counts spec).1]
    exact hobject.trans (hrest.isInfix rfl)

end Reaches

end Spec

/-- a document is rejected for a member, or for its absence: the field breaks something, and that is reported in one stretch -/
def Collection.RejectsFor (model : Collection) (document : Json) (field : Spec) (path : String) (member : Option Json) : Prop :=
  field.ownFaults path member ≠ [] ∧ field.ownFaults path member <:+: model.rejections document

/-- whatever a field of an object inside breaks, the document is rejected for it: the object may be reached from any of the
fields of the schema -/
theorem Collection.rejectsFor_within {registry next : Registry} {entity : String} {schema : Schema} {indexes : List Index}
    {model : Collection} (h : registry.register entity schema indexes = .ok (next, model)) (inputs : List Input)
    {outermost rules : Rules} {tops fields : List (String × Spec)} (htops : ∀ top ∈ tops, top ∈ schema.fields)
    {keys : List Key} {document : Json} {place : String} {members : Members}
    (hreach : Spec.Reaches (.object outermost tops) "" document keys (.object rules fields) place (.object members))
    {field : String × Spec} (hfield : field ∈ fields) {member : Option Json} (hmember : members.lookup field.1 = member) :
    (model.insertAll inputs).RejectsFor document field.2 (fieldPath place field.1) member ↔
      field.2.ownFaults (fieldPath place field.1) member ≠ [] := by
  subst hmember
  refine ⟨fun hrejects => hrejects.1, ?_⟩
  intro hfaults
  refine ⟨hfaults, ?_⟩
  have hdocument : ∃ outer, document = .object outer := by
    cases hreach with
    | here => exact ⟨_, rfl⟩
    | field => exact ⟨_, rfl⟩
  obtain ⟨outer, rfl⟩ := hdocument
  obtain ⟨top, htop, hstretch⟩ := hreach.field_isInfix hfield
  have hreported := Spec.isInfix_flatMap (htops top htop)
    fun field : String × Spec => field.2.ownFaults field.1 (outer.lookup field.1)
  rw [← rejections_object h inputs outer] at hreported
  exact hstretch.trans hreported

namespace Emit

open JsonSchema Spec Collection

/-! ## Registered schemas -/

/-- the position that the validator of a schema describes: an object without the managed fields -/
def unmanagedRoot (schema : Schema) : Spec := .object { required := true } (unmanagedFields schema)

theorem get?_validator (schema : Schema) :
    (validator schema).get? "$jsonSchema" = some (.object (positionMembers false (unmanagedRoot schema))) := by
  have hroot : objectValidator (unmanagedFields schema) = .object (positionMembers false (unmanagedRoot schema)) := by
    rw [unmanagedRoot, positionMembers, objectValidator]
    simp [ruleMembers]
  rw [← hroot]
  rfl

/-- whatever a field of an object inside breaks, the document is rejected for it -/
theorem rejectsFor_iff {registry next : Registry} {entity : String} {schema : Schema} {indexes : List Index}
    {model : Collection} (h : registry.register entity schema indexes = .ok (next, model)) (inputs : List Input)
    {keys : List Key} {rules : Rules} {fields : List (String × Spec)} {document : Json} {place : String} {members : Members}
    (hreach : Reaches (unmanagedRoot schema) "" document keys (.object rules fields) place (.object members))
    {field : String × Spec} (hfield : field ∈ fields) {member : Option Json} (hmember : members.lookup field.1 = member) :
    (model.insertAll inputs).RejectsFor document field.2 (fieldPath place field.1) member ↔
      field.2.ownFaults (fieldPath place field.1) member ≠ [] :=
  rejectsFor_within h inputs (fun _ htop => (List.mem_filter.1 htop).1) hreach hfield hmember

/-- **A model and the validator of its collection agree on absent and null members,** in every state of a registered model
and for every object of its schema: the outermost one without the managed fields, and those inside at any depth. The object
is rendered in its place in the validator, and some document comes to it with any members. Wherever a document does:
- it is rejected for the absence of a member if and only if `required` lists the name;
- it is rejected for null in the field of a name, whose type is not open, if and only if type and admitted values of the
  property do not both take null. -/
theorem presence_agrees {registry next : Registry} {entity : String} {schema : Schema} {indexes : List Index}
    {model : Collection} (h : registry.register entity schema indexes = .ok (next, model)) (inputs : List Input)
    {keys : List Key} {rules : Rules} {fields : List (String × Spec)}
    (hpart : (unmanagedRoot schema).part? keys = some (.object rules fields)) :
    ∃ keywords properties required,
      ((validator schema).get? "$jsonSchema").bind (JsonSchema.part? keys) = some (.object keywords) ∧
      RendersFields fields keywords properties required ∧
      (∀ members, ∃ document place,
        Reaches (unmanagedRoot schema) "" document keys (.object rules fields) place (.object members)) ∧
      ∀ document place members, Reaches (unmanagedRoot schema) "" document keys (.object rules fields) place (.object members) →
        (∀ name, members.lookup name = none →
          ((∃ field ∈ fields, field.1 = name ∧
              (model.insertAll inputs).RejectsFor document field.2 (fieldPath place name) none) ↔ name ∈ required)) ∧
        ∀ name spec, members.lookup name = some .null → fieldOf? fields name = some spec →
          (∀ rules, spec ≠ .leaf rules .mixed) →
            ∃ property, properties.lookup name = some (.object property) ∧
              ((model.insertAll inputs).RejectsFor document spec (fieldPath place name) (some .null) ↔
                ¬(admitsBy property "bsonType" .null = true ∧ admitsBy property "enum" .null = true)) := by
  obtain ⟨nullable, hrendered⟩ := part?_positionMembers hpart false
  refine ⟨_, _, _, ?_, renders_positionMembers nullable rules fields, ?_, ?_⟩
  · rw [get?_validator, Option.bind_some, hrendered]
  · intro members
    exact Reaches.exists_document hpart "" (.object members)
  · intro document place members hreach
    refine ⟨?_, ?_⟩
    · intro name hmember
      simp only [requiredNames, List.mem_map, List.mem_filter]
      refine ⟨?_, ?_⟩
      · intro hfield
        obtain ⟨field, hfield, hname, hrejects⟩ := hfield
        exact ⟨field, ⟨hfield, (ownFaults_absent _ _).1 hrejects.1⟩, hname⟩
      · intro hfield
        obtain ⟨field, ⟨hfield, hrequired⟩, rfl⟩ := hfield
        exact ⟨field, hfield, rfl, (rejectsFor_iff h inputs hreach hfield hmember).2 ((ownFaults_absent _ _).2 hrequired)⟩
    · intro name spec hmember hspec htype
      obtain ⟨property, hproperty, hnull⟩ := null_fault_iff hspec htype (fieldPath place name)
      refine ⟨property, hproperty, ?_⟩
      rw [← hnull]
      exact rejectsFor_iff h inputs hreach (mem_of_fieldOf? hspec) hmember

/-- the heading that the first chapter lacks is listed where the chapters are described, and the volume is rejected for it -/
theorem heading_asked_for :
    Registry.register { timestamps := false } "volumes" volumeSchema []
        = .ok ({ timestamps := false, models := [volumeModel] }, volumeModel) ∧
      (unmanagedRoot volumeSchema).part? [.property "chapters", .items] = some chapterSpec ∧
      ∃ field : String × Spec, field.1 = "heading" ∧
        volumeModel.RejectsFor (.object brokenVolume) field.2 (fieldPath "chapters.0" "heading") none := by
  have hregister : Registry.register { timestamps := false } "volumes" volumeSchema []
      = .ok ({ timestamps := false, models := [volumeModel] }, volumeModel) := rfl
  have hpart : (unmanagedRoot volumeSchema).part? [.property "chapters", .items] = some chapterSpec := rfl
  refine ⟨hregister, hpart, ?_⟩
  obtain ⟨keywords, properties, required, -, hrendered, -, hrejects⟩ := presence_agrees hregister [] hpart
  have hreach : Reaches (unmanagedRoot volumeSchema) "" (.object brokenVolume) [.property "chapters", .items] chapterSpec
      "chapters.0" (.object [("pages", .number (.int 3))]) :=
    .field rfl rfl (@Reaches.item _ _ _ _ _ _ 0 _ _ _ rfl .here)
  have hrequired : "heading" ∈ required := by
    rw [hrendered.inOrder]
    decide
  obtain ⟨field, -, hname, hfield⟩ := ((hrejects _ _ _ hreach).1 "heading" rfl).2 hrequired
  exact ⟨field, hname, hfield⟩

end Emit

end DocumentModels
