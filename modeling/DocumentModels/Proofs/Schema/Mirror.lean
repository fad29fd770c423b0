/-
A schema mirrors its definition, position by position.

- `Mirrors`: what stands at one position, given the node there without its modifiers: the type, and just the constraints
  that the node carries.
- `mirrors_spec`: what a node declares mirrors its core.
- `Node.definable_at?`: literals are scalars at every position.
- `schema_mirrors`: the schema of a definition has the positions of its tree and no others, and mirrors it at each.
-/
import Mathlib.Tactic
import DocumentModels.Proofs.Definition.Document
import DocumentModels.Proofs.Schema.Positions

namespace DocumentModels

/-- the type of a scalar; null has none of its own -/
inductive Json.OfType : Json → BaseType → Prop
  | null : OfType .null .mixed
  | bool (b : Bool) : OfType (.bool b) .boolean
  | number (n : Number) : OfType (.number n) .number
  | string (s : String) : OfType (.string s) .string

namespace Node

/-- **What stands at a position mirrors the node there**, given without its modifiers. The presence of a value and its
default are left open; all other rules are just those that the node carries. -/
inductive Mirrors : Node → Spec → Prop
  | string {required : Bool} {default : Option Json} (r : StringRules) :
    Mirrors (.leaf (.string r)) (.leaf
      { required, default, minLength := r.minLength, maxLength := r.maxLength,
        pattern := if r.email then some emailPattern else r.pattern } .string)
  | number {required : Bool} {default : Option Json} (r : NumberRules) :
    Mirrors (.leaf (.number r)) (.leaf { required, default, min := r.min, max := r.max, integer := r.integer } .number)
  | boolean {required : Bool} {default : Option Json} :
    Mirrors (.leaf .boolean) (.leaf { required, default } .boolean)
  | date {required : Bool} {default : Option Json} : Mirrors (.leaf .date) (.leaf { required, default } .date)
  | enum {required : Bool} {default : Option Json} (members : List String) :
    Mirrors (.leaf (.enum members)) (.leaf { required, default, enumValues := some (members.map .string) } .string)
  | literal {required : Bool} {default : Option Json} {value : Json} {type : BaseType} : value.OfType type →
    Mirrors (.leaf (.literal value)) (.leaf { required, default, enumValues := some [value] } type)
  | unmodeled {required : Bool} {default : Option Json} (typeName : String) :
    Mirrors (.leaf (.unmodeled typeName)) (.leaf { required, default } .string)
  | union {required : Bool} {default : Option Json} (options : List Node) :
    Mirrors (.union options) (.leaf { required, default } .mixed)
  | array {required : Bool} {default : Option Json} (element : Node) (spec : Spec) :
    Mirrors (.array element) (.array { required, default } spec)
  | object {required : Bool} {default : Option Json} {shape : List (String × Node)} {fields : List (String × Spec)} :
    fields.map Prod.fst = shape.map Prod.fst → Mirrors (.object shape) (.object { required, default } fields)

/-! ## One position -/

theorem ofType_literalType {value : Json} (h : (Leaf.literal value).Definable) : value.OfType (Leaf.literalType value) := by
  cases value with
  | null => exact .null
  | bool b => exact .bool b
  | number n => exact .number n
  | string s => exact .string s
  | array items => cases h.1
  | object members => cases h.2

theorem definable_core : ∀ node : Node, node.Definable → node.core.Definable
  | .modified _ inner, h => definable_core inner h
  | .leaf _, h | .array _, h | .object _, h | .union _, h => h

/-- **What a definable node declares mirrors its core.** -/
theorem mirrors_spec {node : Node} (h : node.Definable) : node.core.Mirrors node.spec := by
  have hdefinable := definable_core node h
  cases hcore : node.core with
  | modified modifier inner => exact absurd hcore (core_ne_modified node modifier inner)
  | array element =>
    rw [spec_array hcore]
    exact .array element element.spec
  | object shape =>
    rw [spec_object hcore]
    refine .object ?_
    rw [List.map_map]
    rfl
  | union options =>
    rw [spec_union hcore]
    exact .union options
  | leaf l =>
    rw [spec_leaf hcore]
    rw [hcore] at hdefinable
    cases l with
    | string r => exact .string r
    | number r => exact .number r
    | boolean => exact .boolean
    | date => exact .date
    | enum members => exact .enum members
    | literal value => exact .literal (ofType_literalType hdefinable)
    | unmodeled typeName => exact .unmodeled typeName

/-! ## All positions -/

theorem definable_at? (path : List Step) {node part : Node} (h : node.Definable) (hpart : node.at? path = some part) :
    part.Definable := by
  induction path generalizing node with
  | nil =>
    cases hpart
    exact h
  | cons step path ih =>
    have hdefinable := definable_core node h
    unfold at? at hpart
    split at hpart
    · next index shape hcore =>
      obtain ⟨field, hfield, hpart⟩ := Option.bind_eq_some_iff.1 hpart
      rw [hcore] at hdefinable
      have hmem := List.mem_map_of_mem (f := Prod.snd) (List.mem_of_getElem? hfield)
      exact ih ((shapeDefinable_iff shape).1 hdefinable field.2 hmem) hpart
    · next element hcore =>
      rw [hcore] at hdefinable
      have helement : element.Definable := hdefinable
      exact ih helement hpart
    · cases hpart

end Node

/-- **A schema mirrors its definition.** The schema of a definition that is accepted has the name given for it. At every
path of steps through object fields and array elements, there is a position in the schema just when there is a node in
the tree of the definition, and it mirrors that node under its modifiers. -/
theorem schema_mirrors {name : String} {definition : Json} {entity : Entity}
    (h : Entity.ofDefinition name definition = .ok entity) :
    entity.translate.schema.name = name ∧ ∃ tree, Entity.Describes definition tree ∧
      ∀ path, Option.Rel (fun node spec => node.core.Mirrors spec) (tree.at? path)
        (entity.translate.schema.root.at? path) := by
  obtain ⟨tree, htree, hentity⟩ := Entity.ofDefinition_eq_ok h
  have hroot : entity.translate.schema.root = tree.spec := Entity.schema_root hentity
  obtain ⟨shape, -, rfl⟩ := Entity.ofNode_eq_ok hentity
  refine ⟨rfl, tree, htree, ?_⟩
  intro path
  obtain ⟨primary, -, hdecode⟩ := htree
  rw [hroot, Node.spec_at?]
  cases hpart : tree.at? path with
  | none => exact .none
  | some part => exact .some (Node.mirrors_spec (Node.definable_at? path (Node.definable_of_decodeAt hdecode) hpart))

/-! ## Arrays of arrays, under modifiers -/

/-- a definition with an export that is no node before the one that counts -/
def gridDefinition : Json :=
  .object [("version", .number (.int 2)), ("gridSchema", .object [("type", .string "object"), ("shape", .object [
    ("cells", .object [("type", .string "nullable"), ("innerType", .object [("type", .string "array"),
      ("element", .object [("type", .string "optional"), ("innerType", .object [("type", .string "array"),
        ("element", .object [("type", .string "literal"), ("value", .null)])])])])])])])]

def gridEntity : Entity :=
  ⟨"grids", [("cells", .array { nullable := true } (.array { optional := true } (.leaf {} (.literal .null))))]⟩

/-- the element of the element of a field is a position, under an array at each step -/
theorem grid_mirrors :
    Entity.ofDefinition "grids" gridDefinition = .ok gridEntity ∧
      ∃ tree, Entity.Describes gridDefinition tree ∧
        Option.Rel (fun node spec => node.core.Mirrors spec) (tree.at? [.field 0, .element, .element])
          (some (.leaf { required := true, enumValues := some [.null] } .mixed)) := by
  have h : Entity.ofDefinition "grids" gridDefinition = .ok gridEntity := rfl
  obtain ⟨-, tree, htree, hmirrors⟩ := schema_mirrors h
  exact ⟨h, tree, htree, hmirrors [.field 0, .element, .element]⟩

end DocumentModels
