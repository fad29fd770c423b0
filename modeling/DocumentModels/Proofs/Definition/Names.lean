/-
Names of fields are distinct in a definition.

An object of a definition document gives each name once, and every field comes from one member of a shape.
- `Spec.NamesDistinct`, `Schema.NamesDistinct`: at every object of a position, of a schema.
- `namesDistinct_decodeAt`: the position of a node that is read from a document, by induction on the document.
- `namesDistinct_ofDefinition`: the schema of a definition.
-/
import Mathlib.Tactic
import DocumentModels.Schema.Translation
import DocumentModels.Proofs.Json.Members

namespace DocumentModels

namespace Spec

mutual

/-- at every object of a position, the names of the fields are distinct -/
def NamesDistinct : Spec → Prop
  | .leaf _ _ => True
  | .array _ element => element.NamesDistinct
  | .object _ fields => (fields.map Prod.fst).Nodup ∧ FieldNamesDistinct fields

def FieldNamesDistinct : List (String × Spec) → Prop
  | [] => True
  | (_, spec) :: rest => spec.NamesDistinct ∧ FieldNamesDistinct rest

end

end Spec

/-- at every object of a schema, the names of the fields are distinct -/
def Schema.NamesDistinct (schema : Schema) : Prop :=
  schema.fieldNames.Nodup ∧ Spec.FieldNamesDistinct schema.fields

/-- what is made of a result is made of a success -/
theorem map_eq_ok {ε α β : Type} {result : Except ε α} {f : α → β} {b : β} (h : result.map f = .ok b) :
    ∃ a, result = .ok a ∧ f a = b := by
  cases result with
  | error e => cases h
  | ok a => exact ⟨a, rfl, Except.ok.inj h⟩

namespace Node

mutual

/-- **A node that is read from a document declares a position with distinct names.** -/
theorem namesDistinct_decodeAt : ∀ (value : Json) (path : String) (node : Node) (outer : Modifiers), value.Distinct →
    decodeAt path value = .ok node → (Field.within outer node).spec.NamesDistinct
  | .object members, path, node, outer, hvalue, h => by
    rw [decodeAt] at h
    cases htag : (members.lookup "type").bind Json.asString? with
    | none =>
      rw [htag] at h
      cases h
    | some tag =>
      simp only [htag] at h
      cases hkind : NodeKind.ofName? tag with
      | none =>
        simp only [hkind] at h
        cases h
        exact trivial
      | some kind =>
        simp only [hkind] at h
        cases kind with
        | optional =>
          obtain ⟨inner, hinner, rfl⟩ := map_eq_ok h
          rw [Field.within]
          exact namesDistinct_decodeInner members path inner _ hvalue.2 hinner
        | nullable =>
          obtain ⟨inner, hinner, rfl⟩ := map_eq_ok h
          rw [Field.within]
          exact namesDistinct_decodeInner members path inner _ hvalue.2 hinner
        | default =>
          cases hdefault : members.lookup "defaultValue" with
          | none =>
            simp only [hdefault] at h
            cases h
          | some default =>
            simp only [hdefault] at h
            obtain ⟨inner, hinner, rfl⟩ := map_eq_ok h
            rw [Field.within]
            exact namesDistinct_decodeInner members path inner _ hvalue.2 hinner
        | array =>
          obtain ⟨element, helement, rfl⟩ := map_eq_ok h
          rw [Field.within, Field.spec, Spec.NamesDistinct]
          exact namesDistinct_decodeElement members path element hvalue.2 helement
        | object =>
          obtain ⟨shape, hshape, rfl⟩ := map_eq_ok h
          rw [Field.within, Field.spec, Spec.NamesDistinct]
          exact namesDistinct_decodeShape members path shape hvalue.2 hshape
        | union =>
          obtain ⟨options, -, rfl⟩ := map_eq_ok h
          exact trivial
        | boolean | date =>
          cases h
          exact trivial
        | string | number | enum | literal =>
          obtain ⟨rules, -, rfl⟩ := map_eq_ok h
          exact trivial
  | .null, _, _, _, _, h | .bool _, _, _, _, _, h | .number _, _, _, _, _, h | .string _, _, _, _, _, h
  | .array _, _, _, _, _, h => by
    rw [decodeAt] at h
    · cases h
    · simp

theorem namesDistinct_decodeInner : ∀ (members : List (String × Json)) (path : String) (node : Node) (outer : Modifiers),
    Json.DistinctMembers members → decodeInner path members = .ok node → (Field.within outer node).spec.NamesDistinct
  | [], _, _, _, _, h => by cases h
  | (name, value) :: rest, path, node, outer, hmembers, h => by
    rw [decodeInner] at h
    split_ifs at h
    · exact namesDistinct_decodeAt value path node outer hmembers.1 h
    · exact namesDistinct_decodeInner rest path node outer hmembers.2 h

theorem namesDistinct_decodeElement : ∀ (members : List (String × Json)) (path : String) (node : Node),
    Json.DistinctMembers members → decodeElement path members = .ok node → (Field.within {} node).spec.NamesDistinct
  | [], _, _, _, h => by cases h
  | (name, value) :: rest, path, node, hmembers, h => by
    rw [decodeElement] at h
    split_ifs at h
    · exact namesDistinct_decodeAt value _ node {} hmembers.1 h
    · exact namesDistinct_decodeElement rest path node hmembers.2 h

theorem namesDistinct_decodeShape : ∀ (members : List (String × Json)) (path : String) (shape : List (String × Node)),
    Json.DistinctMembers members → decodeShape path members = .ok shape →
      ((Field.specs (Field.ofShape shape)).map Prod.fst).Nodup ∧ Spec.FieldNamesDistinct (Field.specs (Field.ofShape shape))
  | [], _, _, _, h => by
    cases h
    exact ⟨List.nodup_nil, trivial⟩
  | (name, value) :: rest, path, shape, hmembers, h => by
    by_cases hname : name = "shape"
    · cases value with
      | object fields =>
        rw [decodeShape, if_pos hname] at h
        obtain ⟨hnames, hfields⟩ := namesDistinct_decodeFields fields path shape hmembers.1.2 h
        rw [hnames]
        exact ⟨hmembers.1.1, hfields⟩
      | _ => simp [decodeShape, hname, failAt] at h
    · have hrest : decodeShape path ((name, value) :: rest) = decodeShape path rest := by
        cases value <;> rw [decodeShape, if_neg hname] <;> simp
      rw [hrest] at h
      exact namesDistinct_decodeShape rest path shape hmembers.2 h

theorem namesDistinct_decodeFields : ∀ (fields : List (String × Json)) (path : String) (shape : List (String × Node)),
    Json.DistinctMembers fields → decodeFields path fields = .ok shape →
      (Field.specs (Field.ofShape shape)).map Prod.fst = fields.map Prod.fst ∧
        Spec.FieldNamesDistinct (Field.specs (Field.ofShape shape))
  | [], _, _, _, h => by
    cases h
    exact ⟨rfl, trivial⟩
  | (name, value) :: rest, path, shape, hfields, h => by
    rw [decodeFields] at h
    cases hnode : decodeAt (path ++ "." ++ name) value with
    | error e =>
      rw [hnode] at h
      cases h
    | ok node =>
      cases hrest : decodeFields path rest with
      | error e =>
        rw [hnode, hrest] at h
        cases h
      | ok nodes =>
        rw [hnode, hrest] at h
        cases h
        obtain ⟨hnames, hdistinct⟩ := namesDistinct_decodeFields rest path nodes hfields.2 hrest
        rw [Field.ofShape, Field.specs, List.map_cons, List.map_cons, hnames]
        exact ⟨rfl, namesDistinct_decodeAt value _ node {} hfields.1 hnode, hdistinct⟩

end

end Node

namespace Entity

theorem distinct_of_primary {definition primary : Json} (h : definition.Distinct)
    (hprimary : primary? definition = some primary) : primary.Distinct := by
  unfold primary? at hprimary
  split_ifs at hprimary with hnode
  · cases hprimary
    exact h
  · obtain ⟨member, hmember, hfound⟩ := List.exists_of_findSome?_eq_some hprimary
    split_ifs at hfound
    cases hfound
    cases definition with
    | object members => exact (Json.distinctMembers_iff members).1 h.2 member hmember
    | _ => cases hmember

/-- **The fields of a definition have distinct names, at every depth.** -/
theorem namesDistinct_ofDefinition {name : String} {definition : Json} {entity : Entity} (h : definition.Distinct)
    (hentity : ofDefinition name definition = .ok entity) : entity.schema.NamesDistinct := by
  unfold ofDefinition at hentity
  cases hprimary : primary? definition with
  | none =>
    rw [hprimary] at hentity
    cases hentity
  | some primary =>
    simp only [hprimary] at hentity
    cases hnode : Node.decode primary with
    | error e =>
      rw [hnode] at hentity
      cases hentity
    | ok node =>
      rw [hnode] at hentity
      have hdistinct := Node.namesDistinct_decodeAt primary "$" node {} (distinct_of_primary h hprimary) hnode
      cases node with
      | object shape =>
        cases hentity
        rw [Field.within, Field.spec, Spec.NamesDistinct] at hdistinct
        exact hdistinct
      | _ => cases hentity

end Entity

end DocumentModels
