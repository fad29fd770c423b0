/-
The nodes directly inside a node of a definition.

Reading finds them by going through the members of the node. Here they are a list, and reading a node is split into what
is read of the node itself and the reading of that list.
- `parts`: the nodes inside a node, in file order, each with what its path adds.
- `search_eq`: a search through members is a lookup; so `decodeInner_eq`, `decodeElement_eq`, `decodeShape_eq`,
  `decodeOptions_eq`.
- `fault?_decodeAt`: a node fails by its own first fault, else by the first fault of its parts.
- `sizeOf_part_lt`, `partsInduction`: parts are smaller than their node.
-/
import Mathlib.Tactic
import DocumentModels.Proofs.Definition.Faults
import DocumentModels.Proofs.Named

namespace DocumentModels

namespace Node

/-! ## Parts -/

def kind? (members : Members) : Option NodeKind := ((members.lookup "type").bind Json.asString?).bind NodeKind.ofName?

def shapeOf (members : Members) : Members := ((members.lookup "shape").bind Json.asObject?).getD []

def optionsOf (members : Members) : List Json := ((members.lookup "options").bind Json.asArray?).getD []

/-- **The nodes directly inside a node**, in file order, each with what its path adds to that of the node. -/
def parts : Json → List (String × Json)
  | .object members =>
    match kind? members with
    | some .optional | some .nullable | some .default =>
      (members.lookup "innerType").toList.map fun inner => ("", inner)
    | some .array => (members.lookup "element").toList.map fun element => (".element", element)
    | some .object => (shapeOf members).map fun field => ("." ++ field.1, field.2)
    | some .union => (optionsOf members).zipIdx.map fun option => (".options[" ++ toString option.2 ++ "]", option.1)
    | _ => []
  | _ => []

theorem sizeOf_lookup_lt {members : Members} {name : String} {value : Json} (h : members.lookup name = some value) :
    sizeOf value < sizeOf members := by
  have hmem := List.sizeOf_lt_of_mem (mem_of_lookup h)
  simp only [Prod.mk.sizeOf_spec] at hmem
  omega

theorem sizeOf_shapeOf_lt {members : Members} {field : String × Json} (h : field ∈ shapeOf members) :
    sizeOf field.2 < sizeOf members := by
  obtain ⟨name, value⟩ := field
  cases hshape : members.lookup "shape" with
  | none => simp [shapeOf, hshape] at h
  | some shape =>
    have hlookup := sizeOf_lookup_lt hshape
    cases shape with
    | object fields =>
      have hfields : shapeOf members = fields := by simp [shapeOf, hshape, Json.asObject?]
      have hmem := List.sizeOf_lt_of_mem (hfields ▸ h)
      simp only [Prod.mk.sizeOf_spec, Json.object.sizeOf_spec] at hmem hlookup ⊢
      omega
    | _ => simp [shapeOf, hshape, Json.asObject?] at h

theorem sizeOf_optionsOf_lt {members : Members} {option : Json} (h : option ∈ optionsOf members) :
    sizeOf option < sizeOf members := by
  cases hoptions : members.lookup "options" with
  | none => simp [optionsOf, hoptions] at h
  | some options =>
    have hlookup := sizeOf_lookup_lt hoptions
    cases options with
    | array items =>
      have hitems : optionsOf members = items := by simp [optionsOf, hoptions, Json.asArray?]
      have hmem := List.sizeOf_lt_of_mem (hitems ▸ h)
      simp only [Json.array.sizeOf_spec] at hlookup
      omega
    | _ => simp [optionsOf, hoptions, Json.asArray?] at h

theorem sizeOf_part_lt {value : Json} {part : String × Json} (h : part ∈ parts value) :
    sizeOf part.2 < sizeOf value := by
  cases value with
  | object members =>
    have hmember : ∀ step name, part ∈ (members.lookup name).toList.map (fun value => (step, value)) →
        sizeOf part.2 < sizeOf members := by
      intro step name hpart
      obtain ⟨inner, hinner, rfl⟩ := List.mem_map.1 hpart
      exact sizeOf_lookup_lt (Option.mem_toList.1 hinner)
    have hpart : sizeOf part.2 < sizeOf members := by
      rw [parts] at h
      split at h
      · exact hmember _ _ h
      · exact hmember _ _ h
      · exact hmember _ _ h
      · exact hmember _ _ h
      · obtain ⟨field, hfield, rfl⟩ := List.mem_map.1 h
        have hsize := sizeOf_shapeOf_lt hfield
        exact hsize
      · obtain ⟨option, hoption, rfl⟩ := List.mem_map.1 h
        exact sizeOf_optionsOf_lt (List.fst_mem_of_mem_zipIdx hoption)
      · cases h
    simp only [Json.object.sizeOf_spec]
    omega
  | _ => cases h

/-- what holds of a value whenever it holds of its parts holds of every value -/
theorem partsInduction {P : Json → Prop} (node : ∀ value, (∀ part ∈ parts value, P part.2) → P value) (value : Json) :
    P value := by
  induction hsize : sizeOf value using Nat.strong_induction_on generalizing value with
  | _ n ih =>
    subst hsize
    exact node value fun part hpart => ih _ (sizeOf_part_lt hpart) part.2 rfl

/-! ## Reading by parts -/

def decodeParts (path : String) (parts : List (String × Json)) : Except DefinitionError (List Node) :=
  parts.mapM fun part => decodeAt (path ++ part.1) part.2

theorem decodeParts_cons (path : String) (part : String × Json) (rest : List (String × Json)) :
    decodeParts path (part :: rest) = do
      let node ← decodeAt (path ++ part.1) part.2
      let nodes ← decodeParts path rest
      return node :: nodes := List.mapM_cons

theorem search_eq {α : Type} {name : String} {absent : α} {found : Json → α} {search : Members → α}
    (hnil : search [] = absent)
    (hcons : ∀ other value rest,
      search ((other, value) :: rest) = if other = name then found value else search rest) (members : Members) :
    search members = (members.lookup name).elim absent found := by
  induction members with
  | nil => exact hnil
  | cons member members ih =>
    obtain ⟨other, value⟩ := member
    rw [hcons, List.lookup_cons, ih]
    by_cases h : other = name
    · simp [h]
    · simp [h, beq_false_of_ne (Ne.symm h)]

theorem decodeInner_eq (path : String) (members : Members) :
    decodeInner path members
      = (members.lookup "innerType").elim (failAt path .noInnerType) (decodeAt (path ++ "")) := by
  rw [String.append_empty]
  apply search_eq
  · rw [decodeInner]
  · intro other value rest
    rw [decodeInner]

theorem decodeElement_eq (path : String) (members : Members) :
    decodeElement path members
      = (members.lookup "element").elim (failAt path .noElement) (decodeAt (path ++ ".element")) := by
  apply search_eq
  · rw [decodeElement]
  · intro other value rest
    rw [decodeElement]

theorem decodeFields_eq (path : String) (fields : Members) :
    decodeFields path fields = (decodeParts path (fields.map fun field => ("." ++ field.1, field.2))).map
      ((fields.map Prod.fst).zip ·) := by
  induction fields with
  | nil => rfl
  | cons field fields ih =>
    obtain ⟨name, value⟩ := field
    rw [decodeFields, ih]
    simp only [List.map_cons, decodeParts_cons, ← String.append_assoc]
    cases decodeAt (path ++ "." ++ name) value with
    | error e => rfl
    | ok node => cases decodeParts path (fields.map fun field => ("." ++ field.1, field.2)) <;> rfl

theorem decodeShape_eq (path : String) (members : Members) :
    decodeShape path members = (members.lookup "shape").elim (.ok []) fun
      | .object fields => decodeFields path fields
      | _ => failAt path .shapeNotObject := by
  apply search_eq
  · rw [decodeShape]
  · intro other value rest
    cases value <;> simp [decodeShape]

theorem decodeItems_eq (path : String) (index : Nat) (items : List Json) :
    decodeItems path index items = decodeParts path ((items.zipIdx index).map fun option =>
      (".options[" ++ toString option.2 ++ "]", option.1)) := by
  induction items generalizing index with
  | nil => rfl
  | cons value items ih =>
    rw [decodeItems, ih, List.zipIdx_cons, List.map_cons, decodeParts_cons, ← String.append_assoc,
      ← String.append_assoc]

theorem decodeOptions_eq (path : String) (members : Members) :
    decodeOptions path members = (members.lookup "options").elim (failAt path .noOptions) fun
      | .array items => decodeItems path 0 items
      | _ => failAt path .noOptions := by
  apply search_eq
  · rw [decodeOptions]
  · intro other value rest
    cases value <;> simp [decodeOptions]

/-! ## How a node fails -/

theorem fault?_located {α : Type} (path : String) (result : Except NodeFault α) :
    fault? (located path result) = (fault? result).map (.invalidNode path) := by
  cases result <;> rfl

/-- what a node fails by: its own first fault, else the first fault of the given parts -/
def firstFault (path : String) (own : List NodeFault) (parts : List (String × Json)) : Option DefinitionError :=
  (own.head?.map (.invalidNode path)).or (fault? (decodeParts path parts))

theorem fault?_leaf {α β : Type} {path : String} {result : Except NodeFault α} {own : List NodeFault} (f : α → β)
    (h : fault? result = own.head?) : fault? ((located path result).map f) = firstFault path own [] := by
  rw [fault?_map, fault?_located, h]
  exact (Option.or_none).symm

theorem fault?_member (path step name : String) (members : Members) (fault : NodeFault) :
    fault? ((members.lookup name).elim (failAt path fault) (decodeAt (path ++ step)))
      = firstFault path (missing members name fault) ((members.lookup name).toList.map fun value => (step, value)) := by
  rw [missing]
  cases members.lookup name with
  | none => rfl
  | some value =>
    show fault? (decodeAt (path ++ step) value) = fault? (decodeParts path [(step, value)])
    rw [decodeParts_cons]
    cases decodeAt (path ++ step) value <;> rfl

theorem fault?_decodeInner (path : String) (members : Members) :
    fault? (decodeInner path members) = firstFault path (missing members "innerType" .noInnerType)
      ((members.lookup "innerType").toList.map fun inner => ("", inner)) := by
  rw [decodeInner_eq]
  exact fault?_member path "" "innerType" members .noInnerType

theorem fault?_decodeShape (path : String) (members : Members) :
    fault? (decodeShape path members) = firstFault path (objectFaults members)
      ((shapeOf members).map fun field => ("." ++ field.1, field.2)) := by
  rw [decodeShape_eq, objectFaults, shapeOf]
  cases members.lookup "shape" with
  | none => rfl
  | some value =>
    cases value with
    | object fields =>
      show fault? (decodeFields path fields) = _
      rw [decodeFields_eq, fault?_map]
      rfl
    | _ => rfl

theorem fault?_decodeOptions (path : String) (members : Members) :
    fault? (decodeOptions path members) = firstFault path (unionFaults members)
      ((optionsOf members).zipIdx.map fun option => (".options[" ++ toString option.2 ++ "]", option.1)) := by
  rw [decodeOptions_eq, unionFaults, optionsOf]
  cases members.lookup "options" with
  | none => rfl
  | some value =>
    cases value with
    | array items =>
      simp only [decodeItems_eq]
      rfl
    | _ => rfl

/-- **A node fails by its own first fault, else by the first fault of its parts.** -/
theorem fault?_decodeAt (path : String) (value : Json) :
    fault? (decodeAt path value) = firstFault path (ownFaults value) (parts value) := by
  cases value with
  | object members =>
    rw [decodeAt, ownFaults, parts, kind?]
    cases members.lookup "type" with
    | none => rfl
    | some type =>
      cases type with
      | string tag =>
        simp only [Option.bind_some, Json.asString?]
        cases NodeKind.ofName? tag with
        | none => rfl
        | some kind =>
          cases kind with
          | boolean | date => rfl
          | string => exact fault?_leaf _ (fault?_checks .string members fault?_addStringCheck {})
          | number => exact fault?_leaf _ (fault?_checks .number members fault?_addNumberCheck {})
          | enum => exact fault?_leaf _ (fault?_enumMembers members)
          | literal => exact fault?_leaf _ (fault?_literalValue members)
          | optional | nullable =>
            simp only [fault?_map]
            exact fault?_decodeInner path members
          | default =>
            cases hdefault : members.lookup "defaultValue" with
            | none =>
              simp only [missing, hdefault]
              rfl
            | some default =>
              simp only [fault?_map]
              rw [missing, hdefault]
              exact fault?_decodeInner path members
          | array =>
            simp only [fault?_map, decodeElement_eq]
            exact fault?_member path ".element" "element" members .noElement
          | object =>
            simp only [fault?_map]
            exact fault?_decodeShape path members
          | union =>
            simp only [fault?_map]
            exact fault?_decodeOptions path members
      | _ => rfl
  | _ => rfl

end Node

end DocumentModels
