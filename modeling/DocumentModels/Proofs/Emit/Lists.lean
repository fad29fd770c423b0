/-
Lists in collection validators, and which of them the database refuses.

A schema object has up to three lists: types under `bsonType`, names under `required`, values under `enum`. The database refuses
an empty list and one with an entry twice. The emitter leaves an empty `required` out, but writes the members of an enum as the
definition has them.
- `JsonSchema.Sound`, `JsonSchema.Admissible`: what holds of the lists of every schema object, and what the database asks.
- `part?_rendered`: the parts of a validator are rendered parts of the schema, by induction on the keys.
- `sound_positionMembers`: the emitter leaves no `required` empty and requires only names that it describes.
- `admissible_positionMembers_iff`, `admissible_field_iff`: which positions, and which fields, are rendered with lists that the
  database takes.
- `Field.part?`, `Field.part?_spec`: the field at a path of keys; translating commutes with going there.
- `validator_lists_iff`: the whole, for the validator of any entity.
- `lists_refused`: an enum with a member twice, an enum without members.
-/
import Mathlib.Tactic
import DocumentModels.Proofs.Emit.Presence
import DocumentModels.Proofs.Schema.Positions

namespace DocumentModels

/-! ## What the database asks of lists -/

namespace JsonSchema

def Unrepeated (values : List Json) : Prop := values.Pairwise fun a b => a.same b = false

/-- what is so in every schema object that is rendered: no type stands twice, and `required` is not empty and names described
properties -/
structure Sound (keywords : Members) : Prop where
  types : ∀ names, keywords.lookup "bsonType" = some (.array names) → Unrepeated names
  required : ∀ names, keywords.lookup "required" = some (.array names) →
    names ≠ [] ∧ ∃ properties, keywords.lookup "properties" = some (.object properties) ∧
      ∀ name ∈ names, ∃ text ∈ Members.names properties, name = .string text

/-- **The database takes the lists of a schema object:** it is sound, no name is required twice, and the admitted values are
some, and none twice. -/
structure Admissible (keywords : Members) : Prop extends Sound keywords where
  requiredOnce : ∀ names, keywords.lookup "required" = some (.array names) → Unrepeated names
  admitted : ∀ values, keywords.lookup "enum" = some (.array values) → values ≠ [] ∧ Unrepeated values

/-- every part of a validator, at any depth, is a schema object of a kind -/
def Everywhere (P : Members → Prop) (validator : Json) : Prop :=
  ∀ keys part, (validator.get? "$jsonSchema").bind (part? keys) = some part → ∃ keywords, part = .object keywords ∧ P keywords

theorem unrepeated_strings (texts : List String) : Unrepeated (texts.map .string) ↔ texts.Nodup := by
  have hsame : ∀ a b : String, (Json.string a).same (.string b) = false ↔ a ≠ b := by
    intro a b
    rw [Json.same, beq_eq_false_iff_ne]
  rw [Unrepeated, List.pairwise_map, List.Nodup]
  simp only [hsame]

end JsonSchema

open JsonSchema

namespace Emit

/-! ## Parts -/

/-- whether the validator of a part takes null: a property does if its field need not be given, an item does not -/
def takesNullAt (outermost : Bool) (keys : List Key) (part : Spec) : Bool :=
  match keys.getLast? with
  | none => outermost
  | some (.property _) => !part.rules.required
  | some .items => false

/-- **The parts of a validator are the rendered parts of its schema.** -/
theorem part?_rendered (keys : List Key) (spec : Spec) (nullable : Bool) :
    JsonSchema.part? keys (.object (positionMembers nullable spec))
      = (spec.part? keys).map fun part => .object (positionMembers (takesNullAt nullable keys part) part) := by
  induction keys generalizing spec nullable with
  | nil => rfl
  | cons key rest ih =>
    have hlater : ∀ (inner : Bool), rest ≠ [] → takesNullAt inner rest = takesNullAt nullable (key :: rest) := by
      intro inner hrest
      funext part
      rw [takesNullAt, takesNullAt, List.getLast?_cons, List.getLast?_eq_some_getLast hrest, Option.getD_some]
      cases rest.getLast hrest <;> rfl
    cases key with
    | property name =>
      cases spec with
      | object rules fields =>
        rw [JsonSchema.part?, Json.get?, (lookup_objectMembers nullable rules fields).2, Option.bind_some, Json.get?,
          lookup_properties, Spec.part?]
        cases fieldOf? fields name with
        | none => rfl
        | some field =>
          rw [Option.map_some, Option.bind_some, Option.bind_some, ih]
          rcases eq_or_ne rest [] with rfl | hrest
          · rfl
          · rw [hlater _ hrest]
      | leaf rules type =>
        cases type <;>
          simp [JsonSchema.part?, Spec.part?, Json.get?, positionMembers, bsonName?, bsonType, List.lookup_cons,
            lookup_ruleMembers]
      | array rules element =>
        simp [JsonSchema.part?, Spec.part?, Json.get?, positionMembers, bsonType, List.lookup_cons, lookup_ruleMembers]
    | items =>
      cases spec with
      | array rules element =>
        have hitems : (positionMembers nullable (.array rules element)).lookup "items"
            = some (.object (positionMembers false element)) := by
          simp [positionMembers, bsonType, List.lookup_cons]
        rw [JsonSchema.part?, Json.get?, hitems, Option.bind_some, ih, Spec.part?]
        rcases eq_or_ne rest [] with rfl | hrest
        · rfl
        · rw [hlater _ hrest]
      | leaf rules type =>
        cases type <;>
          simp [JsonSchema.part?, Spec.part?, Json.get?, positionMembers, bsonName?, bsonType, List.lookup_cons,
            lookup_ruleMembers]
      | object rules fields =>
        simp [JsonSchema.part?, Spec.part?, Json.get?, positionMembers, bsonType, List.lookup_append, List.lookup_cons,
          lookup_requiredMember, lookup_ruleMembers]

/-! ## Lists of one position -/

theorem lookup_enum (nullable : Bool) (spec : Spec) :
    (positionMembers nullable spec).lookup "enum"
      = spec.rules.enumValues.map fun values => .array (admitted values nullable) := by
  cases spec with
  | leaf rules type =>
    cases type <;>
      simp [positionMembers, bsonName?, bsonType, List.lookup_cons, lookup_ruleMembers, Spec.rules]
  | array rules element =>
    simp [positionMembers, bsonType, List.lookup_cons, lookup_ruleMembers, Spec.rules]
  | object rules fields =>
    simp [positionMembers, bsonType, List.lookup_append, List.lookup_cons, lookup_requiredMember, lookup_ruleMembers,
      Spec.rules]

theorem lookup_required (nullable : Bool) {spec : Spec} (h : ∀ rules fields, spec ≠ .object rules fields) :
    (positionMembers nullable spec).lookup "required" = none := by
  cases spec with
  | leaf rules type =>
    cases type <;> simp [positionMembers, bsonName?, bsonType, List.lookup_cons, lookup_ruleMembers]
  | array rules element => simp [positionMembers, bsonType, List.lookup_cons, lookup_ruleMembers]
  | object rules fields => exact absurd rfl (h rules fields)

theorem lookup_types {nullable : Bool} {spec : Spec} {names : List Json}
    (h : (positionMembers nullable spec).lookup "bsonType" = some (.array names)) :
    ∃ name, name ≠ "null" ∧ names = [.string name, .string "null"] := by
  have htype : ∀ name more, name ≠ "null" → (bsonType name nullable ++ more).lookup "bsonType" = some (.array names) →
      ∃ name, name ≠ "null" ∧ names = [.string name, .string "null"] := by
    intro name more hname hlookup
    cases nullable with
    | false => simp [bsonType] at hlookup
    | true => exact ⟨name, hname, by simpa [bsonType, eq_comm] using hlookup⟩
  cases spec with
  | leaf rules type =>
    cases type with
    | mixed => simp [positionMembers, bsonName?, lookup_ruleMembers] at h
    | _ => exact htype _ _ (by decide) h
  | array rules element =>
    rw [positionMembers, List.append_assoc] at h
    exact htype _ _ (by decide) h
  | object rules fields =>
    rw [positionMembers, List.append_assoc, List.append_assoc] at h
    exact htype _ _ (by decide) h

theorem lookup_required_object {nullable : Bool} {rules : Rules} {fields : List (String × Spec)} {names : List Json}
    (h : (positionMembers nullable (.object rules fields)).lookup "required" = some (.array names)) :
    requiredNames fields ≠ [] ∧ names = (requiredNames fields).map .string := by
  rw [(lookup_objectMembers nullable rules fields).1] at h
  split_ifs at h with hempty
  exact ⟨hempty, (Json.array.inj (Option.some.inj h)).symm⟩

/-- **Every position is rendered soundly.** -/
theorem sound_positionMembers (nullable : Bool) (spec : Spec) : Sound (positionMembers nullable spec) := by
  constructor
  · intro names h
    obtain ⟨name, hname, rfl⟩ := lookup_types h
    exact (unrepeated_strings [name, "null"]).2 (by simpa using hname)
  · intro names h
    cases spec with
    | object rules fields =>
      obtain ⟨hempty, rfl⟩ := lookup_required_object h
      refine ⟨by simpa using hempty, _, (lookup_objectMembers nullable rules fields).2, ?_⟩
      intro name hname
      obtain ⟨text, htext, rfl⟩ := List.mem_map.1 hname
      refine ⟨text, ?_, rfl⟩
      rw [Members.names_overlay_nil, List.mem_eraseDups, names_propertyMembers]
      obtain ⟨field, hfield, rfl⟩ := List.mem_map.1 htext
      exact List.mem_map_of_mem (List.mem_of_mem_filter hfield)
    | _ =>
      rw [lookup_required nullable (by simp)] at h
      cases h

/-- null is admitted once -/
theorem unrepeated_admitted (values : List Json) (nullable : Bool) :
    Unrepeated (admitted values nullable) ↔ Unrepeated values := by
  unfold admitted
  split_ifs with hadded
  · have hnone : ∀ value ∈ values, value.same .null = false := by
      simp only [Bool.and_eq_true, Bool.not_eq_true', Json.isIn, List.any_eq_false] at hadded
      simpa using hadded.2
    simpa [Unrepeated, List.pairwise_append] using fun _ => hnone
  · rfl

theorem admitted_eq_nil {values : List Json} {nullable : Bool} :
    admitted values nullable = [] ↔ values = [] ∧ nullable = false := by
  unfold admitted
  cases values with
  | nil => cases nullable <;> simp [Json.isIn]
  | cons value values => split_ifs <;> simp

/-- the names that an object requires are distinct -/
def RequiresOnce : Spec → Prop
  | .object _ fields => (requiredNames fields).Nodup
  | _ => True

/-- **Which positions are rendered with lists that the database takes:** no name is required twice, no value is admitted
twice, and some value is admitted. -/
theorem admissible_positionMembers_iff (nullable : Bool) (spec : Spec) :
    Admissible (positionMembers nullable spec) ↔ RequiresOnce spec ∧
      ∀ values ∈ spec.rules.enumValues, (values = [] → nullable = true) ∧ Unrepeated values := by
  have henum : (∀ values, (positionMembers nullable spec).lookup "enum" = some (.array values) →
        values ≠ [] ∧ Unrepeated values)
      ↔ ∀ values ∈ spec.rules.enumValues, (values = [] → nullable = true) ∧ Unrepeated values := by
    rw [lookup_enum]
    cases spec.rules.enumValues with
    | none => simp
    | some values => simp [unrepeated_admitted, admitted_eq_nil]
  have hrequired : (∀ names, (positionMembers nullable spec).lookup "required" = some (.array names) → Unrepeated names)
      ↔ RequiresOnce spec := by
    cases spec with
    | object rules fields =>
      rw [(lookup_objectMembers nullable rules fields).1, RequiresOnce]
      split_ifs with hempty
      · simp [hempty]
      · simp [unrepeated_strings]
    | _ => simp [lookup_required, RequiresOnce]
  rw [← henum, ← hrequired]
  constructor
  · intro h
    exact ⟨h.requiredOnce, h.admitted⟩
  · rintro ⟨honce, hadmitted⟩
    exact ⟨sound_positionMembers nullable spec, honce, hadmitted⟩

end Emit

/-! ## Fields -/

namespace Field

/-- the field at a path of keys; where a name stands twice in an object, the last one -/
def part? : List Key → Field → Option Field
  | [], field => some field
  | .property name :: rest, .object _ fields => (fields.reverse.lookup name).bind (part? rest)
  | .items :: rest, .array _ element => part? rest element
  | _ :: _, _ => none

theorem rules_spec_required (field : Field) : field.spec.rules.required = field.required := by
  cases field with
  | leaf modifiers l => cases l <;> rfl
  | _ => rfl

theorem fieldOf?_specs (fields : List (String × Field)) (name : String) :
    fieldOf? (specs fields) name = (fields.reverse.lookup name).map spec := by
  rw [fieldOf?, specs_eq, ← List.map_reverse]
  induction fields.reverse with
  | nil => rfl
  | cons field rest ih =>
    obtain ⟨first, inner⟩ := field
    by_cases hname : name = first
    · simp [hname]
    · simp [List.lookup_cons, beq_false_of_ne hname, ih]

/-- **Translating commutes with going to a part.** -/
theorem part?_spec (keys : List Key) (field : Field) : field.spec.part? keys = (field.part? keys).map spec := by
  induction keys generalizing field with
  | nil => rfl
  | cons key rest ih =>
    cases field with
    | leaf modifiers l =>
      obtain ⟨rules, type, hspec⟩ := Node.leaf_of_spec l modifiers.rules
      rw [spec, hspec]
      cases key <;> rfl
    | union modifiers options => cases key <;> rfl
    | array modifiers element =>
      cases key with
      | property name => rfl
      | items => exact ih element
    | object modifiers fields =>
      cases key with
      | property name =>
        rw [spec, Spec.part?, fieldOf?_specs, part?]
        cases fields.reverse.lookup name with
        | none => rfl
        | some inner => exact ih inner
      | items => rfl

/-- whether null may be stored at the part at a path of keys: it is a field that need not be given -/
def takesNullAt (keys : List Key) (field : Field) : Bool :=
  match keys.getLast? with
  | some (.property _) => !field.required
  | _ => false

/-- **The lists of a field can be rendered:** an enum has no member twice, and if it has none, null may be stored there; an
object does not require a name twice. -/
def Listable (takesNull : Bool) : Field → Prop
  | .leaf _ (.enum members) => members.Nodup ∧ (members = [] → takesNull = true)
  | .object _ fields => ((fields.filter fun field => field.2.required).map Prod.fst).Nodup
  | _ => True

end Field

namespace Emit

theorem requiredNames_specs (fields : List (String × Field)) :
    requiredNames (Field.specs fields) = (fields.filter fun field => field.2.required).map Prod.fst := by
  rw [requiredNames, Field.specs_eq, List.filter_map, List.map_map]
  simp only [Function.comp_def, Field.rules_spec_required]

/-- **Which fields are rendered with lists that the database takes.** -/
theorem admissible_field_iff (nullable : Bool) (field : Field) :
    Admissible (positionMembers nullable field.spec) ↔ field.Listable nullable := by
  rw [admissible_positionMembers_iff]
  cases field with
  | leaf modifiers l =>
    cases l with
    | enum members =>
      simp [Field.spec, Leaf.spec, RequiresOnce, Spec.rules, Field.Listable, unrepeated_strings, and_comm]
    | literal value =>
      simp [Field.spec, Leaf.spec, RequiresOnce, Spec.rules, Field.Listable, Unrepeated]
    | _ => simp [Field.spec, Leaf.spec, RequiresOnce, Spec.rules, Field.Listable, Modifiers.rules]
  | object modifiers fields =>
    simp [Field.spec, RequiresOnce, Spec.rules, Field.Listable, requiredNames_specs, Modifiers.rules]
  | _ => simp [Field.spec, RequiresOnce, Spec.rules, Field.Listable, Modifiers.rules]

/-- what the validator of an entity describes: an object of its fields, without the managed ones -/
def unmanagedEntity (entity : Entity) : Field :=
  .object {} (entity.fields.filter fun field => !managedFields.contains field.1)

theorem unmanagedRoot_schema (entity : Entity) : unmanagedRoot entity.schema = (unmanagedEntity entity).spec := by
  rw [unmanagedRoot, unmanagedEntity, Field.spec, unmanagedFields, Entity.schema, Field.specs_eq, Field.specs_eq,
    List.filter_map]
  rfl

theorem part?_validator (entity : Entity) (keys : List Key) :
    ((validator entity.schema).get? "$jsonSchema").bind (JsonSchema.part? keys)
      = ((unmanagedEntity entity).part? keys).map fun field =>
          .object (positionMembers (field.takesNullAt keys) field.spec) := by
  rw [get?_validator, Option.bind_some, part?_rendered, unmanagedRoot_schema, Field.part?_spec, Option.map_map]
  congr 1
  funext field
  rw [Function.comp_apply, takesNullAt, Field.takesNullAt, Field.rules_spec_required]
  cases keys.getLast? with
  | none => rfl
  | some key => cases key <;> rfl

/-- **When the database takes a validator.** In the validator of any entity, at every depth, no type stands twice, and a
`required` is not empty and names described properties. The database takes all its lists if and only if, at every field that is
rendered, an enum has no member twice, and none only where null may be stored, and an object does not require a name twice. -/
theorem validator_lists_iff (entity : Entity) :
    Everywhere Sound (validator entity.schema) ∧
    (Everywhere Admissible (validator entity.schema) ↔
      ∀ keys field, (unmanagedEntity entity).part? keys = some field → field.Listable (field.takesNullAt keys)) := by
  refine ⟨?_, ?_, ?_⟩
  · intro keys part hpart
    rw [part?_validator, Option.map_eq_some_iff] at hpart
    obtain ⟨field, -, rfl⟩ := hpart
    exact ⟨_, rfl, sound_positionMembers _ _⟩
  · intro hall keys field hfield
    obtain ⟨keywords, hkeywords, hadmissible⟩ := hall keys _ (by rw [part?_validator, hfield, Option.map_some])
    rw [← Json.object.inj hkeywords] at hadmissible
    exact (admissible_field_iff _ field).1 hadmissible
  · intro hlistable keys part hpart
    rw [part?_validator, Option.map_eq_some_iff] at hpart
    obtain ⟨field, hfield, rfl⟩ := hpart
    exact ⟨_, rfl, (admissible_field_iff _ field).2 (hlistable keys field hfield)⟩

/-! ## Enums as they are defined -/

/-- a definition of one field, an enum with the given entries -/
def gradeDefinition (entries : List Json) : Json :=
  .object [("type", .string "object"), ("shape", .object [
    ("grade", .object [("type", .string "enum"), ("entries", .array entries)])])]

def gradeEntity (members : List String) : Entity := ⟨"grades", [("grade", .leaf {} (.enum members))]⟩

/-- Both are read from definitions; the member stands twice in the list of admitted values, and the other list is empty. -/
theorem lists_refused :
    Entity.ofDefinition "grades" (gradeDefinition [.string "A", .string "A"]) = .ok (gradeEntity ["A", "A"]) ∧
      ¬Everywhere Admissible (validator (gradeEntity ["A", "A"]).schema) ∧
      Entity.ofDefinition "grades" (gradeDefinition []) = .ok (gradeEntity []) ∧
      ¬Everywhere Admissible (validator (gradeEntity []).schema) := by
  refine ⟨rfl, ?_, rfl, ?_⟩
  · intro hall
    obtain ⟨keywords, hkeywords, hadmissible⟩ := hall [.property "grade"] _ rfl
    cases hkeywords
    have htwice := (hadmissible.admitted (["A", "A"].map .string) rfl).2
    exact absurd ((unrepeated_strings _).1 htwice) (by decide)
  · intro hall
    obtain ⟨keywords, hkeywords, hadmissible⟩ := hall [.property "grade"] _ rfl
    cases hkeywords
    exact (hadmissible.admitted [] rfl).1 rfl

end Emit

end DocumentModels
