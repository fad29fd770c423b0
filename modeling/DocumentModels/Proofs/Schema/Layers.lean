/-
What modifiers do, end to end.

The layers around the node of a position decide whether a value is required there and what its default is, and they
decide nothing else in the schema.
- `modifiers_eq`, `required_eq`: the modifiers gathered from layers; the outermost default is the one that counts.
- `under`, `relayered`, `updateAt`, `relayerAt`: layers put around a node, other layers in place of its own, a change at one
  path, other layers at one path.
- `presence_spec`: what a node declares says of presence what its layers say.
- `spec_relayerAt`: other layers around one node change presence at its path; by `spec_eq_withPresence` for the node itself
  and `spec_updateAt` for all that is around it.
- `ofNode_relayerAt`: the same layers in another order change nothing; by `ofNode_relayered` and `ofNode_updateAt`.
- `definable_relayerAt`, `Entity.describes_document`: a tree with other layers has a definition.
- `layers_decide_presence`: the three for definitions, their schemas and their findings.
-/
import Mathlib.Tactic
import DocumentModels.Proofs.Schema.Mirror

namespace DocumentModels

/-! ## Gathered modifiers -/

namespace Modifier

def default? : Modifier → Option Json
  | .default value => some value
  | _ => none

def isOptional : Modifier → Bool
  | .optional => true
  | _ => false

def isNullable : Modifier → Bool
  | .nullable => true
  | _ => false

end Modifier

theorem Modifiers.foldl_add (layers : List Modifier) (outer : Modifiers) :
    layers.foldl add outer = ⟨outer.optional || layers.any Modifier.isOptional,
      outer.nullable || layers.any Modifier.isNullable, outer.default.or (layers.findSome? Modifier.default?)⟩ := by
  induction layers generalizing outer with
  | nil => simp
  | cons layer layers ih =>
    rw [List.foldl_cons, ih]
    cases layer <;>
      simp [add, Modifier.isOptional, Modifier.isNullable, Modifier.default?, List.findSome?_cons]

namespace Node

theorem modifiers_eq (node : Node) :
    node.modifiers = ⟨node.layers.any Modifier.isOptional, node.layers.any Modifier.isNullable,
      node.layers.findSome? Modifier.default?⟩ := by
  rw [modifiers, Modifiers.foldl_add]
  simp

/-- **A value is required just where there is no layer.** -/
theorem required_eq (node : Node) : node.modifiers.required = node.layers.isEmpty := by
  rw [modifiers_eq, Modifiers.required]
  cases node.layers with
  | nil => rfl
  | cons layer layers => cases layer <;> simp [Modifier.isOptional, Modifier.isNullable, Modifier.default?]

/-! ## Layers around a node -/

/-- a node under more layers, the outermost first -/
def under (layers : List Modifier) (node : Node) : Node := layers.foldr .modified node

def relayered (layers : List Modifier) (node : Node) : Node := under layers node.core

theorem core_under (layers : List Modifier) (node : Node) : (under layers node).core = node.core := by
  induction layers with
  | nil => rfl
  | cons layer layers ih => exact ih

theorem layers_under (layers : List Modifier) (node : Node) : (under layers node).layers = layers ++ node.layers := by
  induction layers with
  | nil => rfl
  | cons layer layers ih => exact congrArg (layer :: ·) ih

theorem core_core : ∀ node : Node, node.core.core = node.core
  | .modified _ inner => core_core inner
  | .leaf _ | .array _ | .object _ | .union _ => rfl

theorem layers_core : ∀ node : Node, node.core.layers = []
  | .modified _ inner => layers_core inner
  | .leaf _ | .array _ | .object _ | .union _ => rfl

theorem core_relayered (layers : List Modifier) (node : Node) : (node.relayered layers).core = node.core := by
  rw [relayered, core_under, core_core]

theorem layers_relayered (layers : List Modifier) (node : Node) : (node.relayered layers).layers = layers := by
  rw [relayered, layers_under, layers_core, List.append_nil]

/-- layers of one node put around another that has none -/
theorem modifiers_under {node : Node} (h : node.layers = []) (outer : Node) :
    (under outer.layers node).modifiers = outer.modifiers := by
  rw [modifiers, modifiers, layers_under, h, List.append_nil]

/-! ## Presence -/

end Node

/-- the same specification, with another answer on presence -/
def Spec.withPresence (required : Bool) (default : Option Json) : Spec → Spec
  | .leaf rules type => .leaf { rules with required, default } type
  | .array rules element => .array { rules with required, default } element
  | .object rules fields => .object { rules with required, default } fields

namespace Node

/-- **Nodes of one core declare the same but for presence**, which the layers decide. -/
theorem spec_eq_withPresence {node other : Node} (h : other.core = node.core) :
    other.spec = node.spec.withPresence other.layers.isEmpty (other.layers.findSome? Modifier.default?) := by
  have hrequired := required_eq other
  have hdefault : other.modifiers.default = other.layers.findSome? Modifier.default? := by rw [modifiers_eq]
  rw [← hrequired, ← hdefault]
  cases hcore : node.core with
  | modified modifier inner => exact absurd hcore (core_ne_modified node modifier inner)
  | leaf l =>
    rw [spec_leaf hcore, spec_leaf (h.trans hcore)]
    cases l <;> rfl
  | array element =>
    rw [spec_array hcore, spec_array (h.trans hcore)]
    rfl
  | object shape =>
    rw [spec_object hcore, spec_object (h.trans hcore)]
    rfl
  | union options =>
    rw [spec_union hcore, spec_union (h.trans hcore)]
    rfl

/-- whether a specification says of presence what the layers of a node say: a value is required just where there is no
layer, and the default is that of the outermost layer that gives one -/
def Presence (node : Node) (spec : Spec) : Prop :=
  (spec.rules.required = true ↔ node.layers = []) ∧ spec.rules.default = node.layers.findSome? Modifier.default?

theorem presence_spec (node : Node) : Presence node node.spec := by
  have hspec := spec_eq_withPresence (Eq.refl node.core)
  have hrules : node.spec.rules.required = node.layers.isEmpty ∧
      node.spec.rules.default = node.layers.findSome? Modifier.default? := by
    rw [hspec]
    cases node.spec <;> exact ⟨rfl, rfl⟩
  exact ⟨by rw [hrules.1, List.isEmpty_iff], hrules.2⟩

/-- **The order of layers is of no account, but for the order of the defaults.** -/
theorem ofNode_relayered {node : Node} {layers : List Modifier} (hperm : layers.Perm node.layers)
    (hdefaults : layers.filterMap Modifier.default? = node.layers.filterMap Modifier.default?) :
    Field.ofNode (node.relayered layers) = Field.ofNode node := by
  have hmodifiers : (node.relayered layers).modifiers = node.modifiers := by
    rw [modifiers_eq, modifiers_eq, layers_relayered, hperm.any_eq, hperm.any_eq, ← List.head?_filterMap, hdefaults,
      List.head?_filterMap]
  rw [Field.ofNode_eq, Field.ofNode_eq, hmodifiers, core_relayered]

/-! ## Changes at a path -/

/-- change the node at a path; where no node is at the path, nothing is changed -/
def updateAt : List Step → (Node → Node) → Node → Node
  | [], change, node => change node
  | step :: rest, change, node =>
    match step, node.core with
    | .field index, .object shape =>
      under node.layers (.object (shape.modify index fun field => (field.1, updateAt rest change field.2)))
    | .element, .array element => under node.layers (.array (updateAt rest change element))
    | _, _ => node

end Node

/-- change the specification at a path; where none is at the path, nothing is changed -/
def Spec.updateAt : List Step → (Spec → Spec) → Spec → Spec
  | [], change, spec => change spec
  | .field index :: rest, change, .object rules fields =>
    .object rules (fields.modify index fun field => (field.1, updateAt rest change field.2))
  | .element :: rest, change, .array rules element => .array rules (updateAt rest change element)
  | _ :: _, _, spec => spec

theorem map_modify {α β : Type} {f : α → α} {g : β → β} {h : α → β} {items : List α} {index : Nat}
    (hitem : ∀ item, items[index]? = some item → h (f item) = g (h item)) :
    (items.modify index f).map h = (items.map h).modify index g := by
  apply List.ext_getElem?
  intro i
  rw [List.getElem?_map, List.getElem?_modify, List.getElem?_modify, List.getElem?_map]
  by_cases hi : index = i
  · subst hi
    cases hget : items[index]? with
    | none => rfl
    | some item => simp [hitem item hget]
  · simp [hi]

theorem mem_modify {α : Type} {f : α → α} {items : List α} {index : Nat} {item : α} (h : item ∈ items.modify index f) :
    item ∈ items ∨ ∃ old ∈ items, item = f old := by
  obtain ⟨i, hi⟩ := List.mem_iff_getElem?.1 h
  rw [List.getElem?_modify, Option.map_eq_map, Option.map_eq_some_iff] at hi
  obtain ⟨old, hold, hitem⟩ := hi
  have hmem := List.mem_of_getElem? hold
  by_cases hindex : index = i
  · rw [if_pos hindex] at hitem
    exact .inr ⟨old, hmem, hitem.symm⟩
  · rw [if_neg hindex] at hitem
    exact .inl (hitem ▸ hmem)

namespace Node

/-- **A change of what one node declares is a change of the whole at its path alone.** -/
theorem spec_updateAt {change : Node → Node} {declared : Spec → Spec}
    (h : ∀ node, (change node).spec = declared node.spec) (path : List Step) (node : Node) :
    (node.updateAt path change).spec = node.spec.updateAt path declared := by
  induction path generalizing node with
  | nil => exact h node
  | cons step path ih =>
    cases hcore : node.core with
    | modified modifier inner => exact absurd hcore (core_ne_modified node modifier inner)
    | leaf l =>
      obtain ⟨rules, type, hspec⟩ := leaf_of_spec l node.modifiers.rules
      cases step <;> simp [updateAt, Spec.updateAt, hcore, spec_leaf hcore, hspec]
    | union options => cases step <;> simp [updateAt, Spec.updateAt, hcore, spec_union hcore]
    | array element =>
      cases step with
      | field index => simp [updateAt, Spec.updateAt, hcore, spec_array hcore]
      | element =>
        simp only [updateAt, hcore]
        rw [spec_array hcore, spec_array (core_under _ _), modifiers_under rfl, ih, Spec.updateAt]
    | object shape =>
      cases step with
      | field index =>
        simp only [updateAt, hcore]
        rw [spec_object hcore, spec_object (core_under _ _), modifiers_under rfl, Spec.updateAt]
        congr 1
        apply map_modify
        intro field _
        rw [ih]
      | element => simp [updateAt, Spec.updateAt, hcore, spec_object hcore]

/-- **A change that keeps the field of one node keeps the whole field.** -/
theorem ofNode_updateAt {change : Node → Node} (path : List Step) (node : Node)
    (h : ∀ part, node.at? path = some part → Field.ofNode (change part) = Field.ofNode part) :
    Field.ofNode (node.updateAt path change) = Field.ofNode node := by
  induction path generalizing node with
  | nil => exact h node rfl
  | cons step path ih =>
    unfold updateAt
    split
    · next index shape hcore =>
      have hpart : ∀ field, shape[index]? = some field →
          Field.ofNode (updateAt path change field.2) = Field.ofNode field.2 := by
        intro field hfield
        apply ih
        intro part hpart
        apply h
        simp [at?, hcore, hfield, hpart]
      rw [Field.ofNode_object hcore, Field.ofNode_object (core_under _ _), modifiers_under rfl]
      congr 1
      have hmap := map_modify (g := id) (h := fun field : String × Node => (field.1, Field.ofNode field.2))
        (f := fun field => (field.1, updateAt path change field.2))
        fun field hfield => Prod.ext rfl (hpart field hfield)
      rw [hmap, List.modify_id]
    · next element hcore =>
      have hpart : Field.ofNode (updateAt path change element) = Field.ofNode element := by
        apply ih
        intro part hpart
        apply h
        simp [at?, hcore, hpart]
      rw [Field.ofNode_array hcore, Field.ofNode_array (core_under _ _), modifiers_under rfl, hpart]
    · rfl

theorem definable_under (layers : List Modifier) {node : Node} (h : node.Definable) : (under layers node).Definable := by
  induction layers with
  | nil => exact h
  | cons layer layers ih => exact ih

theorem definable_updateAt {change : Node → Node} (hchange : ∀ node : Node, node.Definable → (change node).Definable)
    (path : List Step) (node : Node) (h : node.Definable) : (node.updateAt path change).Definable := by
  induction path generalizing node with
  | nil => exact hchange node h
  | cons step path ih =>
    have hdefinable := definable_core node h
    unfold updateAt
    split
    · next index shape hcore =>
      rw [hcore] at hdefinable
      have hshape : ∀ part ∈ shape.map Prod.snd, part.Definable := (shapeDefinable_iff shape).1 hdefinable
      refine definable_under _ ((shapeDefinable_iff _).2 ?_)
      rw [map_modify (h := Prod.snd) (g := updateAt path change) fun _ _ => rfl]
      intro part hpart
      obtain hpart | ⟨old, hold, rfl⟩ := mem_modify hpart
      · exact hshape part hpart
      · exact ih old (hshape old hold)
    · next element hcore =>
      rw [hcore] at hdefinable
      exact definable_under _ (ih element hdefinable)
    · exact h

theorem updateAt_object (shape : List (String × Node)) {path : List Step} (hpath : path ≠ [])
    (change : Node → Node) : ∃ shape', updateAt path change (.object shape) = .object shape' := by
  cases path with
  | nil => exact absurd rfl hpath
  | cons step path => cases step <;> exact ⟨_, rfl⟩

def relayerAt (path : List Step) (layers : List Modifier) (tree : Node) : Node := tree.updateAt path (relayered layers)

theorem definable_relayerAt (path : List Step) (layers : List Modifier) {tree : Node} (h : tree.Definable) :
    (tree.relayerAt path layers).Definable :=
  definable_updateAt (fun node hnode => definable_under layers (definable_core node hnode)) path tree h

/-- **Other layers around one node change presence at its path, and nothing else.** -/
theorem spec_relayerAt (path : List Step) (layers : List Modifier) (tree : Node) :
    (tree.relayerAt path layers).spec =
      tree.spec.updateAt path (Spec.withPresence layers.isEmpty (layers.findSome? Modifier.default?)) := by
  apply spec_updateAt
  intro node
  rw [spec_eq_withPresence (core_relayered layers node), layers_relayered]

/-- the same layers in another order, with the defaults in theirs, change no field -/
theorem ofNode_relayerAt {path : List Step} {layers : List Modifier} {tree node : Node} (hnode : tree.at? path = some node)
    (hperm : layers.Perm node.layers)
    (hdefaults : layers.filterMap Modifier.default? = node.layers.filterMap Modifier.default?) :
    Field.ofNode (tree.relayerAt path layers) = Field.ofNode tree := by
  apply ofNode_updateAt
  intro part hpart
  obtain rfl : node = part := Option.some.inj (hnode.symm.trans hpart)
  exact ofNode_relayered hperm hdefaults

theorem isNode_document : ∀ node : Node, isNode node.document = true
  | .modified modifier _ => by cases modifier <;> rfl
  | .leaf l => by cases l <;> rfl
  | .array _ | .object _ | .union _ => rfl

end Node

/-! ## Definitions -/

theorem Entity.describes_document {tree : Node} (h : tree.Definable) : Describes tree.document tree :=
  ⟨tree.document, by rw [primary?, if_pos tree.isNode_document], tree.decodeAt_document "$" h⟩

/-- **Layers decide presence, and nothing else.** In the schema of a definition that is accepted, a value is required at
a position just where the node has no layer, and the default is that of the outermost layer that gives one. Putting other
layers around one node below the root gives a definition that is accepted too, and changes in the schema only the
presence at that path. The same layers in another order, with the defaults in theirs, change neither the schema nor the
findings. -/
theorem layers_decide_presence {name : String} {definition : Json} {entity : Entity}
    (h : Entity.ofDefinition name definition = .ok entity) :
    ∃ tree, Entity.Describes definition tree ∧
      (∀ path, Option.Rel Node.Presence (tree.at? path) (entity.translate.schema.root.at? path)) ∧
      ∀ path node layers, path ≠ [] → tree.at? path = some node →
        Entity.Describes (tree.relayerAt path layers).document (tree.relayerAt path layers) ∧
        ∀ other, Entity.Describes other (tree.relayerAt path layers) →
          ∃ entity', Entity.ofDefinition name other = .ok entity' ∧
            entity'.translate.schema.root = entity.translate.schema.root.updateAt path
              (Spec.withPresence layers.isEmpty (layers.findSome? Modifier.default?)) ∧
            (layers.Perm node.layers →
              layers.filterMap Modifier.default? = node.layers.filterMap Modifier.default? →
              entity'.translate = entity.translate) := by
  obtain ⟨tree, htree, hentity⟩ := Entity.ofDefinition_eq_ok h
  have hroot : entity.translate.schema.root = tree.spec := Entity.schema_root hentity
  have hdefinable : tree.Definable := by
    obtain ⟨primary, -, hdecode⟩ := htree
    exact Node.definable_of_decodeAt hdecode
  refine ⟨tree, htree, ?_, ?_⟩
  · intro path
    rw [hroot, Node.spec_at?]
    cases tree.at? path with
    | none => exact .none
    | some node => exact .some node.presence_spec
  · intro path node layers hpath hnode
    refine ⟨Entity.describes_document (Node.definable_relayerAt path layers hdefinable), ?_⟩
    intro other hother
    obtain ⟨shape, rfl, rfl⟩ := Entity.ofNode_eq_ok hentity
    obtain ⟨shape', hshape'⟩ := Node.updateAt_object shape hpath (Node.relayered layers)
    have hentity' : Entity.ofNode name (Node.relayerAt path layers (.object shape)) =
        .ok ⟨name, Field.ofShape shape'⟩ := by
      rw [Node.relayerAt, hshape']
      rfl
    refine ⟨⟨name, Field.ofShape shape'⟩, ?_, ?_, ?_⟩
    · rw [Entity.ofDefinition_of_describes hother, hentity']
    · rw [hroot, ← Node.spec_relayerAt]
      exact Entity.schema_root hentity'
    · intro hperm hdefaults
      have hfield := Node.ofNode_relayerAt hnode hperm hdefaults
      rw [Node.relayerAt, hshape'] at hfield
      have hfields : Field.ofShape shape' = Field.ofShape shape := by injection hfield
      rw [hfields]

/-! ## Layers swapped inside an array -/

/-- an array under a modifier, with layers around its element -/
def shelfTree (layers : List Modifier) : Node :=
  .object [("rows", .modified .optional (.array (Node.under layers (.leaf .boolean))))]

/-- the entity of such a tree, given the modifiers around the element -/
def shelfEntity (element : Modifiers) : Entity :=
  ⟨"shelves", [("rows", .array { optional := true } (.leaf element .boolean))]⟩

/-- false and null are defaults; swapping the outer one with a layer that is no default keeps the whole translation -/
theorem shelf_layers_swapped :
    Entity.ofDefinition "shelves" (shelfTree [.default (.bool false), .nullable, .default .null]).document =
        .ok (shelfEntity { nullable := true, default := some (.bool false) }) ∧
      ∃ entity', Entity.ofDefinition "shelves" (shelfTree [.nullable, .default (.bool false), .default .null]).document =
          .ok entity' ∧
        entity'.translate = (shelfEntity { nullable := true, default := some (.bool false) }).translate := by
  have h : Entity.ofDefinition "shelves" (shelfTree [.default (.bool false), .nullable, .default .null]).document =
      .ok (shelfEntity { nullable := true, default := some (.bool false) }) := rfl
  obtain ⟨tree, ⟨primary, hprimary, hdecode⟩, -, hlayers⟩ := layers_decide_presence h
  obtain rfl : _ = primary := Option.some.inj hprimary
  obtain rfl : shelfTree [.default (.bool false), .nullable, .default .null] = tree := Except.ok.inj hdecode
  obtain ⟨hdescribes, hother⟩ := hlayers [.field 0, .element] _ [.nullable, .default (.bool false), .default .null]
    (List.cons_ne_nil _ _) rfl
  obtain ⟨entity', hentity', -, hkept⟩ := hother _ hdescribes
  exact ⟨h, entity', hentity', hkept (.swap _ _ _) rfl⟩

end DocumentModels
