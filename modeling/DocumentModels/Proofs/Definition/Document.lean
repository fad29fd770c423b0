/-
Documents of nodes: what is written is read back, and what is read can be written.

- `Node.Definable`: literals are scalars, and kinds without counterpart are none of the known kinds.
- `decodeAt_document`: the canonical document of a definable node is read as that node, by induction on the node; its checks
  by `stringRules_checks` and `numberRules_checks`.
- `Node.Distinct`, `distinct_document_iff`: the document gives no name twice just when the node gives none twice.
- `MadeOf`, `decodeAt_ok`, `readInduction`: a node that is read is made of what is read from its parts.
- `definable_of_decodeAt`: it is definable.
- `decode_document`: reading undoes writing.
-/
import Mathlib.Tactic
import DocumentModels.Definition.Document
import DocumentModels.Proofs.Definition.Names
import DocumentModels.Proofs.Definition.Parts

namespace DocumentModels

namespace NodeKind

theorem mem_all (kind : NodeKind) : kind ∈ all := by
  cases kind <;> decide

theorem ofName?_name (kind : NodeKind) : ofName? kind.name = some kind := by
  cases kind <;> rfl

theorem ofName?_eq_none {tag : String} : ofName? tag = none ↔ ∀ kind : NodeKind, kind.name ≠ tag := by
  simp [ofName?, List.find?_eq_none, mem_all]

end NodeKind

/-- whether a document can state the leaf: a literal is a scalar, and an unmodeled kind is none of the known ones -/
def Leaf.Definable : Leaf → Prop
  | .literal value => value.asArray? = none ∧ value.asObject? = none
  | .unmodeled typeName => ∀ kind : NodeKind, kind.name ≠ typeName
  | _ => True

namespace Node

mutual

/-- **Whether a document can state the node**: all its leaves are such that one can. -/
def Definable : Node → Prop
  | .modified _ inner => inner.Definable
  | .leaf l => l.Definable
  | .array element => element.Definable
  | .object shape => ShapeDefinable shape
  | .union options => OptionsDefinable options

/-- the same for every field of a shape -/
def ShapeDefinable : List (String × Node) → Prop
  | [] => True
  | (_, node) :: rest => node.Definable ∧ ShapeDefinable rest

def OptionsDefinable : List Node → Prop
  | [] => True
  | node :: rest => node.Definable ∧ OptionsDefinable rest

end

theorem shapeDefinable_iff (shape : List (String × Node)) :
    ShapeDefinable shape ↔ ∀ node ∈ shape.map Prod.snd, node.Definable := by
  induction shape with
  | nil => simp [ShapeDefinable]
  | cons field shape ih => rw [ShapeDefinable, ih, List.map_cons, List.forall_mem_cons]

theorem optionsDefinable_iff (options : List Node) : OptionsDefinable options ↔ ∀ node ∈ options, node.Definable := by
  induction options with
  | nil => simp [OptionsDefinable]
  | cons node options ih => rw [OptionsDefinable, ih, List.forall_mem_cons]

/-! ## Reading what is written -/

/-- an object that begins with the `type` of a known kind is read as a node of that kind -/
theorem decodeAt_tagged (path : String) (kind : NodeKind) (members : Members) :
    decodeAt path (tagged kind.name members) = match kind with
      | .optional => (decodeInner path members).map (.modified .optional)
      | .nullable => (decodeInner path members).map (.modified .nullable)
      | .default =>
        match members.lookup "defaultValue" with
        | none => failAt path .noDefaultValue
        | some value => (decodeInner path members).map (.modified (.default value))
      | .string => (located path (stringRules members)).map fun rules => .leaf (.string rules)
      | .number => (located path (numberRules members)).map fun rules => .leaf (.number rules)
      | .boolean => .ok (.leaf .boolean)
      | .date => .ok (.leaf .date)
      | .enum => (located path (enumMembers members)).map fun entries => .leaf (.enum entries)
      | .literal => (located path (literalValue members)).map fun value => .leaf (.literal value)
      | .array => (decodeElement path members).map .array
      | .object => (decodeShape path members).map .object
      | .union => (decodeOptions path members).map .union := by
  rw [tagged, decodeAt, List.lookup_cons_self, Option.bind_some, Json.asString?]
  simp only [NodeKind.ofName?_name]
  cases kind <;> rfl

-- each rule is there or not, and each of these combinations is read back by evaluation
theorem stringRules_checks (rules : StringRules) : stringRules (checksMember (stringChecks rules)) = .ok rules := by
  rcases rules with ⟨_ | min, _ | max, _ | pattern, _ | _⟩ <;> rfl

theorem numberRules_checks (rules : NumberRules) : numberRules (checksMember (numberChecks rules)) = .ok rules := by
  rcases rules with ⟨_ | min, _ | max, _ | _⟩ <;> rfl

theorem enumMembers_entries (members : List String) :
    enumMembers [("entries", .array (members.map .string))] = .ok members := by
  show (members.map Json.string).mapM enumMember = .ok members
  induction members with
  | nil => rfl
  | cons member members ih =>
    rw [List.map_cons, List.mapM_cons, ih]
    rfl

theorem literalValue_value {value : Json} (h : (Leaf.literal value).Definable) :
    literalValue [("value", value)] = .ok value := by
  cases value with
  | array items => cases h.1
  | object members => cases h.2
  | _ => rfl

theorem decodeAt_leafDocument (path : String) {l : Leaf} (h : l.Definable) :
    decodeAt path (leafDocument l) = .ok (.leaf l) := by
  cases l with
  | string rules =>
    rw [leafDocument, decodeAt_tagged]
    simp only [stringRules_checks]
    rfl
  | number rules =>
    rw [leafDocument, decodeAt_tagged]
    simp only [numberRules_checks]
    rfl
  | boolean | date => rw [leafDocument, decodeAt_tagged]
  | enum members =>
    rw [leafDocument, decodeAt_tagged]
    simp only [enumMembers_entries]
    rfl
  | literal value =>
    rw [leafDocument, decodeAt_tagged]
    simp only [literalValue_value h]
    rfl
  | unmodeled typeName =>
    rw [leafDocument, tagged, decodeAt, List.lookup_cons_self, Option.bind_some, Json.asString?]
    simp only [NodeKind.ofName?_eq_none.2 h]

mutual

/-- **The canonical document of a definable node is read as that node**, wherever it stands. -/
theorem decodeAt_document : ∀ (node : Node) (path : String), node.Definable → decodeAt path node.document = .ok node
  | .leaf l, path, h => decodeAt_leafDocument path h
  | .modified modifier inner, path, h => by
    have hinner := decodeAt_document inner path h
    cases modifier <;> rw [document, decodeAt_tagged] <;> simp [decodeInner, hinner, Except.map]
  | .array element, path, h => by
    rw [document, decodeAt_tagged]
    simp [decodeElement, decodeAt_document element _ h, Except.map]
  | .object shape, path, h => by
    rw [document, decodeAt_tagged]
    simp [decodeShape, decodeFields_document shape path h, Except.map]
  | .union options, path, h => by
    rw [document, decodeAt_tagged]
    simp [decodeOptions, decodeItems_document options path 0 h, Except.map]

theorem decodeFields_document : ∀ (shape : List (String × Node)) (path : String), ShapeDefinable shape →
    decodeFields path (shapeDocument shape) = .ok shape
  | [], _, _ => rfl
  | (name, node) :: rest, path, h => by
    rw [shapeDocument, decodeFields, decodeAt_document node _ h.1, decodeFields_document rest path h.2]
    rfl

theorem decodeItems_document : ∀ (options : List Node) (path : String) (index : Nat), OptionsDefinable options →
    decodeItems path index (optionDocuments options) = .ok options
  | [], _, _, _ => rfl
  | node :: rest, path, index, h => by
    rw [optionDocuments, decodeItems, decodeAt_document node _ h.1, decodeItems_document rest path _ h.2]
    rfl

end

/-! ## Names in documents -/

mutual

/-- whether a node gives no name twice: in a shape, or in an object of a default value -/
def Distinct : Node → Prop
  | .modified (.default value) inner => value.Distinct ∧ inner.Distinct
  | .modified _ inner => inner.Distinct
  | .leaf _ => True
  | .array element => element.Distinct
  | .object shape => (shape.map Prod.fst).Nodup ∧ ShapeDistinct shape
  | .union options => OptionsDistinct options

def ShapeDistinct : List (String × Node) → Prop
  | [] => True
  | (_, node) :: rest => node.Distinct ∧ ShapeDistinct rest

def OptionsDistinct : List Node → Prop
  | [] => True
  | node :: rest => node.Distinct ∧ OptionsDistinct rest

end

theorem distinct_leafDocument {l : Leaf} (h : l.Definable) : (leafDocument l).Distinct := by
  cases l with
  | string rules =>
    rcases rules with ⟨_ | min, _ | max, _ | pattern, _ | _⟩ <;>
      simp [leafDocument, tagged, checksMember, stringChecks, numberCheck, Json.Distinct, Json.DistinctMembers,
        Json.DistinctItems]
  | number rules =>
    rcases rules with ⟨_ | min, _ | max, _ | _⟩ <;>
      simp [leafDocument, tagged, checksMember, numberChecks, numberCheck, Json.Distinct, Json.DistinctMembers,
        Json.DistinctItems]
  | enum members =>
    simp [leafDocument, tagged, Json.Distinct, Json.DistinctMembers, Json.distinctItems_iff]
  | literal value =>
    cases value with
    | array items => cases h.1
    | object members => cases h.2
    | _ => simp [leafDocument, tagged, Json.Distinct, Json.DistinctMembers]
  | _ => simp [leafDocument, tagged, Json.Distinct, Json.DistinctMembers]

theorem names_shapeDocument (shape : List (String × Node)) :
    (shapeDocument shape).map Prod.fst = shape.map Prod.fst := by
  induction shape with
  | nil => rfl
  | cons field shape ih => rw [shapeDocument, List.map_cons, List.map_cons, ih]

mutual

/-- **The document of a node gives no name twice just when the node gives none twice.** -/
theorem distinct_document_iff : ∀ node : Node, node.Definable → (node.document.Distinct ↔ node.Distinct)
  | .leaf l, h => iff_of_true (distinct_leafDocument h) trivial
  | .modified modifier inner, h => by
    have hinner := distinct_document_iff inner h
    cases modifier <;> simp [document, tagged, Json.Distinct, Json.DistinctMembers, Distinct, hinner]
  | .array element, h => by
    simp [document, tagged, Json.Distinct, Json.DistinctMembers, Distinct, distinct_document_iff element h]
  | .object shape, h => by
    simp [document, tagged, Json.Distinct, Json.DistinctMembers, Distinct, distinct_shapeDocument_iff shape h,
      names_shapeDocument]
  | .union options, h => by
    simp [document, tagged, Json.Distinct, Json.DistinctMembers, Distinct, distinct_optionDocuments_iff options h]

theorem distinct_shapeDocument_iff : ∀ shape : List (String × Node), ShapeDefinable shape →
    (Json.DistinctMembers (shapeDocument shape) ↔ ShapeDistinct shape)
  | [], _ => Iff.rfl
  | (_, node) :: rest, h => and_congr (distinct_document_iff node h.1) (distinct_shapeDocument_iff rest h.2)

theorem distinct_optionDocuments_iff : ∀ options : List Node, OptionsDefinable options →
    (Json.DistinctItems (optionDocuments options) ↔ OptionsDistinct options)
  | [], _ => Iff.rfl
  | node :: rest, h => and_congr (distinct_document_iff node h.1) (distinct_optionDocuments_iff rest h.2)

end

/-! ## What is read -/

/-- the nodes that a node is made of when it is read, one for each of its parts -/
inductive MadeOf : List Node → Node → Prop
  | leaf {l : Leaf} : l.Definable → MadeOf [] (.leaf l)
  | modified (modifier : Modifier) (inner : Node) : MadeOf [inner] (.modified modifier inner)
  | array (element : Node) : MadeOf [element] (.array element)
  | object (shape : List (String × Node)) : MadeOf (shape.map Prod.snd) (.object shape)
  | union (options : List Node) : MadeOf options (.union options)

theorem decodeParts_length {path : String} {parts : List (String × Json)} {nodes : List Node}
    (h : decodeParts path parts = .ok nodes) : nodes.length = parts.length := by
  induction parts generalizing nodes with
  | nil =>
    cases h
    rfl
  | cons part parts ih =>
    obtain ⟨node, rest, -, hrest, rfl⟩ := mapM_cons_ok h
    rw [List.length_cons, List.length_cons, ih hrest]

theorem decodeParts_member {path step name : String} {members : Members} {fault : NodeFault} {node : Node}
    (h : (members.lookup name).elim (failAt path fault) (decodeAt (path ++ step)) = .ok node) :
    decodeParts path ((members.lookup name).toList.map fun value => (step, value)) = .ok [node] := by
  cases hmember : members.lookup name with
  | none =>
    rw [hmember] at h
    cases h
  | some value =>
    have hnode : decodeAt (path ++ step) value = .ok node := by
      rw [hmember] at h
      exact h
    rw [Option.toList_some, List.map_singleton, decodeParts_cons, hnode]
    rfl

theorem decodeParts_shape {path : String} {members : Members} {shape : List (String × Node)}
    (h : decodeShape path members = .ok shape) :
    decodeParts path ((shapeOf members).map fun field => ("." ++ field.1, field.2)) = .ok (shape.map Prod.snd) := by
  rw [decodeShape_eq] at h
  rw [shapeOf]
  cases hshape : members.lookup "shape" with
  | none =>
    rw [hshape] at h
    cases h
    rfl
  | some value =>
    rw [hshape] at h
    cases value with
    | object fields =>
      simp only [decodeFields_eq] at h
      obtain ⟨nodes, hnodes, rfl⟩ := map_eq_ok h
      have hlength := decodeParts_length hnodes
      rw [List.map_snd_zip (by simp [hlength])]
      exact hnodes
    | _ => cases h

theorem decodeParts_options {path : String} {members : Members} {options : List Node}
    (h : decodeOptions path members = .ok options) :
    decodeParts path ((optionsOf members).zipIdx.map fun option => (".options[" ++ toString option.2 ++ "]", option.1))
      = .ok options := by
  rw [decodeOptions_eq] at h
  rw [optionsOf]
  cases hoptions : members.lookup "options" with
  | none =>
    rw [hoptions] at h
    cases h
  | some value =>
    rw [hoptions] at h
    cases value with
    | array items =>
      simp only [decodeItems_eq] at h
      exact h
    | _ => cases h

theorem definable_literalValue {members : Members} {path : String} {value : Json}
    (h : located path (literalValue members) = .ok value) : (Leaf.literal value).Definable := by
  rw [literalValue] at h
  cases hvalue : members.lookup "value" with
  | none => simp [hvalue, located, Except.mapError] at h
  | some found =>
    rw [hvalue] at h
    cases found with
    | array items => cases h
    | object members => cases h
    | _ =>
      cases h
      exact ⟨rfl, rfl⟩

/-- **A node that is read is made of what is read from its parts.** -/
theorem decodeAt_ok {path : String} {value : Json} {node : Node} (h : decodeAt path value = .ok node) :
    ∃ nodes, decodeParts path (parts value) = .ok nodes ∧ MadeOf nodes node := by
  cases value with
  | object members =>
    rw [decodeAt] at h
    rw [parts, kind?]
    cases htag : (members.lookup "type").bind Json.asString? with
    | none =>
      rw [htag] at h
      cases h
    | some tag =>
      simp only [htag] at h
      rw [Option.bind_some]
      cases hkind : NodeKind.ofName? tag with
      | none =>
        simp only [hkind] at h
        cases h
        exact ⟨[], rfl, .leaf (NodeKind.ofName?_eq_none.1 hkind)⟩
      | some kind =>
        simp only [hkind] at h
        cases kind with
        | boolean | date =>
          cases h
          exact ⟨[], rfl, .leaf trivial⟩
        | string | number | enum =>
          obtain ⟨rules, -, rfl⟩ := map_eq_ok h
          exact ⟨[], rfl, .leaf trivial⟩
        | literal =>
          obtain ⟨value, hvalue, rfl⟩ := map_eq_ok h
          exact ⟨[], rfl, .leaf (definable_literalValue hvalue)⟩
        | optional | nullable =>
          obtain ⟨inner, hinner, rfl⟩ := map_eq_ok h
          rw [decodeInner_eq] at hinner
          exact ⟨[inner], decodeParts_member hinner, .modified _ inner⟩
        | default =>
          cases hdefault : members.lookup "defaultValue" with
          | none =>
            rw [hdefault] at h
            cases h
          | some default =>
            simp only [hdefault] at h
            obtain ⟨inner, hinner, rfl⟩ := map_eq_ok h
            rw [decodeInner_eq] at hinner
            exact ⟨[inner], decodeParts_member hinner, .modified _ inner⟩
        | array =>
          obtain ⟨element, helement, rfl⟩ := map_eq_ok h
          rw [decodeElement_eq] at helement
          exact ⟨[element], decodeParts_member helement, .array element⟩
        | object =>
          obtain ⟨shape, hshape, rfl⟩ := map_eq_ok h
          exact ⟨_, decodeParts_shape hshape, .object shape⟩
        | union =>
          obtain ⟨options, hoptions, rfl⟩ := map_eq_ok h
          exact ⟨options, decodeParts_options hoptions, .union options⟩
  | _ => cases h

theorem forall_decodeParts {P : Node → Prop} {path : String} {parts : List (String × Json)} {nodes : List Node}
    (hparts : ∀ part ∈ parts, ∀ path node, decodeAt path part.2 = .ok node → P node)
    (h : decodeParts path parts = .ok nodes) : ∀ node ∈ nodes, P node := by
  induction parts generalizing nodes with
  | nil =>
    cases h
    simp
  | cons part parts ih =>
    obtain ⟨node, rest, hnode, hrest, rfl⟩ := mapM_cons_ok h
    obtain ⟨hpart, hparts⟩ := List.forall_mem_cons.1 hparts
    exact List.forall_mem_cons.2 ⟨hpart _ node hnode, ih hparts hrest⟩

/-- what holds of a node whenever it holds of all that the node is made of holds of every node that is read -/
theorem readInduction {P : Node → Prop} (made : ∀ nodes node, MadeOf nodes node → (∀ part ∈ nodes, P part) → P node)
    (value : Json) (path : String) (node : Node) (h : decodeAt path value = .ok node) : P node := by
  induction value using partsInduction generalizing path node with
  | node value ih =>
    obtain ⟨nodes, hnodes, hmade⟩ := decodeAt_ok h
    exact made nodes node hmade (forall_decodeParts ih hnodes)

/-- **What is read can be written.** -/
theorem definable_of_decodeAt {path : String} {value : Json} {node : Node} (h : decodeAt path value = .ok node) :
    node.Definable := by
  refine readInduction ?_ value path node h
  intro nodes node hmade hnodes
  cases hmade with
  | leaf hleaf => exact hleaf
  | modified modifier inner => exact hnodes inner List.mem_cons_self
  | array element => exact hnodes element List.mem_cons_self
  | object shape => exact (shapeDefinable_iff shape).2 hnodes
  | union => exact (optionsDefinable_iff nodes).2 hnodes

/-! ## The round trip -/

/-- **Reading undoes writing.** The canonical document of a definable node is read as exactly that node, and it gives no
name twice just when the node gives none twice. -/
theorem decode_document {node : Node} (h : node.Definable) :
    decode node.document = .ok node ∧ (node.document.Distinct ↔ node.Distinct) :=
  ⟨decodeAt_document node "$" h, distinct_document_iff node h⟩

/-- a node with stacked modifiers, a default of null and one of false, rules, and all kinds of parts -/
def noteNode : Node :=
  .object [
    ("price", .modified .nullable (.modified (.default .null) (.modified (.default (.bool false)) (.leaf (.number
      { min := some (.int 0), integer := true }))))),
    ("tags", .array (.modified .optional (.leaf (.string
      { minLength := some 1, maxLength := some 9, pattern := some "^a", email := true })))),
    ("kind", .union [.leaf (.enum ["b", "a"]), .leaf (.literal (.bool false)), .leaf (.unmodeled "tuple")]),
    ("due", .leaf .date)]

/-- it is written with its checks in their fixed order, and read back layer by layer -/
theorem noteNode_read :
    noteNode.Definable ∧
      noteNode.document = .object [("type", .string "object"), ("shape", .object [
        ("price", .object [("type", .string "nullable"), ("innerType", .object [("type", .string "default"),
          ("defaultValue", .null), ("innerType", .object [("type", .string "default"), ("defaultValue", .bool false),
            ("innerType", .object [("type", .string "number"), ("checks", .array [
              .object [("kind", .string "min"), ("value", .number (.int 0))], .object [("kind", .string "int")]])])])])]),
        ("tags", .object [("type", .string "array"), ("element", .object [("type", .string "optional"),
          ("innerType", .object [("type", .string "string"), ("checks", .array [
            .object [("kind", .string "min"), ("value", .number (.int 1))],
            .object [("kind", .string "max"), ("value", .number (.int 9))],
            .object [("kind", .string "regex"), ("regex", .string "^a")], .object [("kind", .string "email")]])])])]),
        ("kind", .object [("type", .string "union"), ("options", .array [
          .object [("type", .string "enum"), ("entries", .array [.string "b", .string "a"])],
          .object [("type", .string "literal"), ("value", .bool false)], .object [("type", .string "tuple")]])]),
        ("due", .object [("type", .string "date")])])] ∧
      decode noteNode.document = .ok noteNode := by
  have htuple : ∀ kind : NodeKind, kind.name ≠ "tuple" := by
    intro kind
    cases kind <;> decide
  have hdefinable : noteNode.Definable :=
    ⟨trivial, trivial, ⟨trivial, ⟨rfl, rfl⟩, htuple, trivial⟩, trivial, trivial⟩
  exact ⟨hdefinable, rfl, (decode_document hdefinable).1⟩

end Node

end DocumentModels
