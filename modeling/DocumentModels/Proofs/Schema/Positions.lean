/-
Positions: the places of a definition that are reached through object fields and array elements, and of its schema.

The source has modifiers around its nodes, the schema has none, so a step from a node goes into its core. Options of a
union are no positions.
- `Node.at?`, `Spec.at?`: the node, the specification at a path of steps.
- `Field.ofNode_eq`: a field is made of the modifiers around a node and of its core.
- `Node.spec_array`, `Node.spec_object`, `Node.spec_leaf`, `Node.spec_union`: what a node declares, by its core.
- `Node.spec_at?`: what stands at a path of a schema is what the node at that path declares.
- `Entity.ofDefinition_eq_ok`, `Entity.schema_root`: a schema is what the tree of its definition declares.
-/
import Mathlib.Tactic
import DocumentModels.Schema.Translation

namespace DocumentModels

/-- a step into a position: to a field of an object, by its place among the fields, or to the element of an array -/
inductive Step where
  | field (index : Nat)
  | element

namespace Node

/-- **The node at a path.** -/
def at? : List Step → Node → Option Node
  | [], node => some node
  | step :: rest, node =>
    match step, node.core with
    | .field index, .object shape => shape[index]?.bind fun field => at? rest field.2
    | .element, .array element => at? rest element
    | _, _ => none

def spec (node : Node) : Spec := (Field.ofNode node).spec

end Node

/-- **The specification at a path.** -/
def Spec.at? : List Step → Spec → Option Spec
  | [], spec => some spec
  | .field index :: rest, .object _ fields => fields[index]?.bind fun field => at? rest field.2
  | .element :: rest, .array _ element => at? rest element
  | _ :: _, _ => none

/-- a schema as one position: an object that must be given -/
def Schema.root (schema : Schema) : Spec := .object { required := true } schema.fields

/-! ## Cores -/

namespace Node

theorem core_ne_modified : ∀ (node : Node) (modifier : Modifier) (inner : Node), node.core ≠ .modified modifier inner
  | .modified _ node, modifier, inner => core_ne_modified node modifier inner
  | .leaf _, _, _ | .array _, _, _ | .object _, _, _ | .union _, _, _ => by rintro ⟨⟩

end Node

namespace Field

theorem within_eq : ∀ (node : Node) (outer : Modifiers),
    within outer node = within (node.layers.foldl Modifiers.add outer) node.core
  | .modified modifier inner, outer => within_eq inner (outer.add modifier)
  | .leaf _, _ | .array _, _ | .object _, _ | .union _, _ => rfl

/-- **A field is made of the modifiers around a node and of its core.** -/
theorem ofNode_eq (node : Node) : ofNode node = within node.modifiers node.core := within_eq node {}

theorem ofShape_eq (shape : List (String × Node)) :
    ofShape shape = shape.map fun field => (field.1, ofNode field.2) := by
  induction shape with
  | nil => rfl
  | cons field shape ih => rw [ofShape, ih, List.map_cons, ofNode]

theorem specs_eq (fields : List (String × Field)) : specs fields = fields.map fun field => (field.1, field.2.spec) := by
  induction fields with
  | nil => rfl
  | cons field fields ih => rw [specs, ih, List.map_cons]

theorem ofNode_array {node element : Node} (h : node.core = .array element) :
    ofNode node = .array node.modifiers (ofNode element) := by
  rw [ofNode_eq, h]
  rfl

theorem ofNode_object {node : Node} {shape : List (String × Node)} (h : node.core = .object shape) :
    ofNode node = .object node.modifiers (shape.map fun field => (field.1, ofNode field.2)) := by
  rw [ofNode_eq, h, ← ofShape_eq]
  rfl

end Field

/-! ## What a node declares -/

namespace Node

variable {node : Node}

theorem spec_leaf {l : Leaf} (h : node.core = .leaf l) : node.spec = l.spec node.modifiers.rules := by
  rw [spec, Field.ofNode_eq, h, Field.within, Field.spec]

theorem spec_union {options : List Node} (h : node.core = .union options) :
    node.spec = .leaf node.modifiers.rules .mixed := by
  rw [spec, Field.ofNode_eq, h, Field.within, Field.spec]

theorem spec_array {element : Node} (h : node.core = .array element) :
    node.spec = .array node.modifiers.rules element.spec := by
  rw [spec, Field.ofNode_array h, Field.spec]
  rfl

theorem spec_object {shape : List (String × Node)} (h : node.core = .object shape) :
    node.spec = .object node.modifiers.rules (shape.map fun field => (field.1, field.2.spec)) := by
  rw [spec, Field.ofNode_object h, Field.spec, Field.specs_eq, List.map_map]
  rfl

theorem leaf_of_spec (l : Leaf) (rules : Rules) : ∃ rules' type, l.spec rules = .leaf rules' type := by
  cases l <;> exact ⟨_, _, rfl⟩

/-- **Declaring commutes with going to a position.** -/
theorem spec_at? (path : List Step) (node : Node) : node.spec.at? path = (node.at? path).map spec := by
  induction path generalizing node with
  | nil => rfl
  | cons step path ih =>
    cases hcore : node.core with
    | modified modifier inner => exact absurd hcore (core_ne_modified node modifier inner)
    | leaf l =>
      obtain ⟨rules, type, hspec⟩ := leaf_of_spec l node.modifiers.rules
      rw [spec_leaf hcore, hspec]
      cases step <;> simp [at?, Spec.at?, hcore]
    | union options =>
      rw [spec_union hcore]
      cases step <;> simp [at?, Spec.at?, hcore]
    | array element =>
      rw [spec_array hcore]
      cases step with
      | field index => simp [at?, Spec.at?, hcore]
      | element => simp [at?, Spec.at?, hcore, ih]
    | object shape =>
      rw [spec_object hcore]
      cases step with
      | field index =>
        simp only [at?, Spec.at?, hcore, List.getElem?_map]
        cases shape[index]? with
        | none => rfl
        | some field => exact ih field.2
      | element => simp [at?, Spec.at?, hcore]

end Node

/-! ## Definitions -/

namespace Entity

def Describes (definition : Json) (tree : Node) : Prop :=
  ∃ primary, primary? definition = some primary ∧ Node.decode primary = .ok tree

theorem ofDefinition_of_describes {definition : Json} {tree : Node} (h : Describes definition tree) (name : String) :
    ofDefinition name definition = ofNode name tree := by
  obtain ⟨primary, hprimary, hdecode⟩ := h
  rw [ofDefinition, hprimary]
  simp only [hdecode]
  rfl

theorem ofDefinition_eq_ok {name : String} {definition : Json} {entity : Entity}
    (h : ofDefinition name definition = .ok entity) :
    ∃ tree, Describes definition tree ∧ ofNode name tree = .ok entity := by
  rw [ofDefinition] at h
  cases hprimary : primary? definition with
  | none =>
    rw [hprimary] at h
    cases h
  | some primary =>
    simp only [hprimary] at h
    cases hdecode : Node.decode primary with
    | error e =>
      rw [hdecode] at h
      cases h
    | ok tree =>
      rw [hdecode] at h
      exact ⟨tree, ⟨primary, hprimary, hdecode⟩, h⟩

theorem ofNode_eq_ok {name : String} {tree : Node} {entity : Entity} (h : ofNode name tree = .ok entity) :
    ∃ shape, tree = .object shape ∧ entity = ⟨name, Field.ofShape shape⟩ := by
  cases tree with
  | object shape =>
    cases h
    exact ⟨shape, rfl, rfl⟩
  | _ => cases h

/-- **A schema is what the tree of its definition declares.** -/
theorem schema_root {name : String} {tree : Node} {entity : Entity} (h : ofNode name tree = .ok entity) :
    entity.schema.root = tree.spec := by
  obtain ⟨shape, rfl, rfl⟩ := ofNode_eq_ok h
  rfl

end Entity

end DocumentModels
