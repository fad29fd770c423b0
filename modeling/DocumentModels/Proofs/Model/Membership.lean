/-
Enums and literals: the values that a document may give for them.

A field of an enum or a literal lists its values. But a field without modifiers has to be given, and null and the empty string
of a string field are taken for nothing before the list is looked at, whether it has them or not.
- `Node.part?`, `spec_part?`: the node at a path of keys; declaring commutes with going there, by induction on the keys.
- `leafBreaches_listing`: beside the list of values there is but the type, and that is the type of all values in the list.
- `ownFaults_listing`: so a value is accepted, or breaks one rule.
- `listed_accepted_iff`: what a registered model accepts in such a field of any object of its definition.
- `listed_refused`: an enum that lists the empty string and a literal of null.
-/
import Mathlib.Tactic
import DocumentModels.Proofs.Schema.Positions
import DocumentModels.Proofs.Emit.Presence

namespace DocumentModels

/-! ## Nodes at a path of keys -/

namespace Node

/-- the node that declares the position at a path of keys; where a name stands twice in an object, the last one does -/
def part? : List Key → Node → Option Node
  | [], node => some node
  | key :: rest, node =>
    match key, node.core with
    | .property name, .object shape => (shape.reverse.lookup name).bind (part? rest)
    | .items, .array element => part? rest element
    | _, _ => none

theorem fieldOf?_map_spec (shape : List (String × Node)) (name : String) :
    fieldOf? (shape.map fun field => (field.1, field.2.spec)) name = (shape.reverse.lookup name).map spec := by
  rw [fieldOf?, ← List.map_reverse]
  induction shape.reverse with
  | nil => rfl
  | cons field rest ih =>
    obtain ⟨first, node⟩ := field
    by_cases hname : name = first
    · simp [hname]
    · simp [List.lookup_cons, beq_false_of_ne hname, ih]

/-- **Declaring commutes with going to a part.** -/
theorem spec_part? (keys : List Key) (node : Node) : node.spec.part? keys = (node.part? keys).map spec := by
  induction keys generalizing node with
  | nil => rfl
  | cons key rest ih =>
    cases hcore : node.core with
    | modified modifier inner => exact absurd hcore (core_ne_modified node modifier inner)
    | leaf l =>
      obtain ⟨rules, type, hspec⟩ := leaf_of_spec l node.modifiers.rules
      rw [spec_leaf hcore, hspec]
      cases key <;> simp [part?, Spec.part?, hcore]
    | union options =>
      rw [spec_union hcore]
      cases key <;> simp [part?, Spec.part?, hcore]
    | array element =>
      rw [spec_array hcore]
      cases key with
      | property name => simp [part?, Spec.part?, hcore]
      | items => simp [part?, Spec.part?, hcore, ih]
    | object shape =>
      rw [spec_object hcore]
      cases key with
      | property name =>
        simp only [part?, Spec.part?, hcore, fieldOf?_map_spec]
        cases shape.reverse.lookup name with
        | none => rfl
        | some field => exact ih field
      | items => simp [part?, Spec.part?, hcore]

end Node

/-! ## One field -/

namespace Leaf

/-- the values that a leaf lists, if it is an enum or a literal -/
def listed? : Leaf → Option (List Json)
  | .enum members => some (members.map .string)
  | .literal value => some [value]
  | _ => none

theorem literalType_of_same {value other : Json} (h : value.same other = true) : literalType value = literalType other := by
  cases value <;> cases other <;> first | rfl | simp [Json.same] at h

end Leaf

namespace Rules

/-- the rules of a field that has to be given one of the listed values -/
def listing (values : List Json) : Rules := { required := true, enumValues := some values }

variable {values : List Json} {type : BaseType}

theorem leafBreaches_eq (hdate : type ≠ .date) (patterns : PatternTable) (value : Json) :
    (listing values).leafBreaches patterns type value =
      if type = .mixed ∨ Leaf.literalType value = type then if value.isIn values then [] else [.notAdmitted value]
      else [.wrongType type.tag value.kindName] := by
  cases type with
  | date => exact absurd rfl hdate
  | mixed => simp [leafBreaches, enumBreaches, listing]
  | string | number | boolean =>
    cases value <;>
      simp [leafBreaches, stringBreaches, numberBreaches, enumBreaches, listing, Leaf.literalType]

/-- **A value is listed and breaks nothing, or is not listed and breaks one rule.** -/
theorem leafBreaches_listing (hdate : type ≠ .date) (hvalues : ∀ value ∈ values, Leaf.literalType value = type)
    (patterns : PatternTable) (value : Json) :
    value.isIn values = true ∧ (listing values).leafBreaches patterns type value = [] ∨
      value.isIn values = false ∧ ∃ breach, (listing values).leafBreaches patterns type value = [breach] := by
  rw [leafBreaches_eq hdate]
  cases hlisted : value.isIn values with
  | true =>
    obtain ⟨member, hmember, hsame⟩ := List.any_eq_true.1 hlisted
    have htype : Leaf.literalType value = type := (Leaf.literalType_of_same hsame).symm.trans (hvalues member hmember)
    exact Or.inl ⟨rfl, by rw [if_pos (Or.inr htype)]; rfl⟩
  | false =>
    refine Or.inr ⟨rfl, ?_⟩
    rw [if_neg Bool.false_ne_true]
    split_ifs
    · exact ⟨_, rfl⟩
    · exact ⟨_, rfl⟩

end Rules

namespace Leaf

open Spec

/-- an enum or a literal without modifiers declares its list and the type of the values in it -/
theorem spec_of_listed {leaf : Leaf} {values : List Json} (h : leaf.listed? = some values) :
    ∃ type, (Node.leaf leaf).spec = .leaf (.listing values) type ∧ type ≠ .date ∧
      ∀ value ∈ values, literalType value = type := by
  cases leaf with
  | enum members =>
    obtain rfl := Option.some.inj h
    exact ⟨.string, rfl, by decide, by simp [literalType]⟩
  | literal value =>
    obtain rfl := Option.some.inj h
    refine ⟨literalType value, rfl, ?_, by simp⟩
    cases value <;> simp [literalType]
  | _ => cases h

/-- a value of a field that has to be given counts, unless it is null or the empty string of a string field -/
theorem given_listing (values : List Json) (type : BaseType) (value : Json) :
    (value = .null ∨ value = .string "" ∧ type = .string) ∧ (Spec.leaf (.listing values) type).given (some value) = .lacking ∨
      ¬(value = .null ∨ value = .string "" ∧ type = .string) ∧
        (Spec.leaf (.listing values) type).given (some value) = .value value := by
  cases value with
  | null => simp [given, rules, Rules.listing]
  | string s =>
    by_cases hempty : s = ""
    · cases type <;> simp [given, rules, isString, Rules.listing, hempty]
    · simp [given, hempty]
  | _ => simp [given]

/-- **A value is accepted, or breaks one rule at the path of its field.** It is accepted if it is in the list and neither null
nor the empty string. -/
theorem ownFaults_listing {leaf : Leaf} {values : List Json} (h : leaf.listed? = some values) (path : String) (value : Json) :
    (value.isIn values = true ∧ value ≠ .null ∧ value ≠ .string "") ∧ (Node.leaf leaf).spec.ownFaults path (some value) = [] ∨
      ¬(value.isIn values = true ∧ value ≠ .null ∧ value ≠ .string "") ∧
        ∃ breach, (Node.leaf leaf).spec.ownFaults path (some value) = [⟨path, breach⟩] := by
  obtain ⟨type, hspec, hdate, hvalues⟩ := spec_of_listed h
  rw [hspec, ownFaults, faults]
  rcases given_listing values type value with ⟨hlacking, hgiven⟩ | ⟨hlacking, hgiven⟩
  · rw [hgiven]
    refine Or.inr ⟨?_, .missing, rfl⟩
    rintro ⟨-, hnull, hempty⟩
    exact hlacking.elim hnull fun hstring => hempty hstring.1
  · rw [hgiven]
    simp only [violations]
    rcases Rules.leafBreaches_listing hdate hvalues (Spec.leaf (.listing values) type).table value with
      ⟨hlisted, hbreaches⟩ | ⟨hlisted, breach, hbreaches⟩
    · refine Or.inl ⟨⟨hlisted, fun hnull => hlacking (Or.inl hnull), ?_⟩, by rw [hbreaches, List.map_nil]⟩
      -- an empty string in the list makes the field a string
      rintro rfl
      obtain ⟨member, hmember, hsame⟩ := List.any_eq_true.1 hlisted
      exact hlacking (Or.inr ⟨rfl, (hvalues member hmember).symm.trans (literalType_of_same hsame)⟩)
    · refine Or.inr ⟨fun hadmitted => ?_, breach, by rw [hbreaches]; rfl⟩
      rw [hlisted] at hadmitted
      exact Bool.false_ne_true hadmitted.1

end Leaf

namespace Collection

open Spec

/-! ## Registered models -/

/-- **What a model accepts in the fields of enums and literals,** in every state and in every object of its definition: the
outermost one, and those inside at any depth, under any modifiers. Some document comes to such an object with any members. For
a field without modifiers whose kind is an enum or a literal, wherever a document gives a value for it:
- nothing is reported of the field if and only if the value is listed and is neither null nor the empty string;
- otherwise one error is reported, at the path of the field. -/
theorem listed_accepted_iff {name : String} {definition : Json} {entity : Entity}
    (hdefinition : Entity.ofDefinition name definition = .ok entity) {registry next : Registry} {collection : String}
    {indexes : List Index} {model : Collection}
    (h : registry.register collection entity.schema indexes = .ok (next, model)) (inputs : List Input) :
    ∃ tree, Entity.Describes definition tree ∧
      ∀ keys object shape, tree.part? keys = some object → object.core = .object shape →
        (∀ members, ∃ document place,
          Reaches entity.schema.root "" document keys object.spec place (.object members)) ∧
        ∀ field leaf values, (field, Node.leaf leaf) ∈ shape → leaf.listed? = some values →
          ∀ document place members, Reaches entity.schema.root "" document keys object.spec place (.object members) →
            ∀ value, members.lookup field = some value →
              (¬(model.insertAll inputs).RejectsFor document (Node.leaf leaf).spec (fieldPath place field) (some value) ↔
                value.isIn values = true ∧ value ≠ .null ∧ value ≠ .string "") ∧
              ((model.insertAll inputs).RejectsFor document (Node.leaf leaf).spec (fieldPath place field) (some value) →
                ∃ breach, (Node.leaf leaf).spec.ownFaults (fieldPath place field) (some value)
                  = [⟨fieldPath place field, breach⟩]) := by
  obtain ⟨tree, htree, hentity⟩ := Entity.ofDefinition_eq_ok hdefinition
  have hroot : entity.schema.root = tree.spec := Entity.schema_root hentity
  refine ⟨tree, htree, ?_⟩
  intro keys object shape hobject hshape
  refine ⟨?_, ?_⟩
  · intro members
    apply Reaches.exists_document
    rw [hroot, Node.spec_part?, hobject, Option.map_some]
  · intro field leaf values hfield hlisted document place members hreach value hvalue
    rw [Node.spec_object hshape] at hreach
    have hdeclared := List.mem_map_of_mem (f := fun field : String × Node => (field.1, field.2.spec)) hfield
    have hrejects := rejectsFor_within h inputs (fun _ htop => htop) hreach hdeclared hvalue
    dsimp only at hrejects
    rw [hrejects]
    rcases Leaf.ownFaults_listing hlisted (fieldPath place field) value with ⟨hadmitted, hfaults⟩ | ⟨hadmitted, breach, hfaults⟩
    · rw [hfaults]
      simpa using hadmitted
    · rw [hfaults]
      exact ⟨iff_of_false (by simp) hadmitted, fun _ => ⟨breach, rfl⟩⟩

/-! ## Trips and marks -/

/-- trips with a leg that may be left out; its mode is one of two, and it has no stops -/
def tripDefinition : Json :=
  .object [("type", .string "object"), ("shape", .object [("leg", .object [("type", .string "optional"),
    ("innerType", .object [("type", .string "object"), ("shape", .object [
      ("mode", .object [("type", .string "enum"), ("entries", .array [.string "rail", .string "road"])]),
      ("stops", .object [("type", .string "literal"), ("value", .number (.int 0))])])])])])]

def legShape : List (String × Node) :=
  [("mode", .leaf (.enum ["rail", "road"])), ("stops", .leaf (.literal (.number (.int 0))))]

def tripTree : Node := .object [("leg", .modified .optional (.object legShape))]

def tripEntity : Entity :=
  ⟨"trips", [("leg", .object { optional := true }
    [("mode", .leaf {} (.enum ["rail", "road"])), ("stops", .leaf {} (.literal (.number (.int 0))))])]⟩

def tripModel : Collection := fresh (Emit.modelName "trips") "trips" tripEntity.schema [] false []

def stoppingLeg : Members := [("mode", .string "rail"), ("stops", .number (.int 1))]

/-- inside the leg, nothing is reported of the mode, and the trip is rejected for the stop -/
theorem stop_refused :
    Entity.ofDefinition "trips" tripDefinition = .ok tripEntity ∧
      Registry.register { timestamps := false } "trips" tripEntity.schema []
        = .ok ({ timestamps := false, models := [tripModel] }, tripModel) ∧
      ¬tripModel.RejectsFor (.object [("leg", .object stoppingLeg)]) (Node.leaf (.enum ["rail", "road"])).spec "leg.mode"
        (some (.string "rail")) ∧
      tripModel.RejectsFor (.object [("leg", .object stoppingLeg)]) (Node.leaf (.literal (.number (.int 0)))).spec "leg.stops"
        (some (.number (.int 1))) := by
  have hdefinition : Entity.ofDefinition "trips" tripDefinition = .ok tripEntity := rfl
  have hregister : Registry.register { timestamps := false } "trips" tripEntity.schema []
      = .ok ({ timestamps := false, models := [tripModel] }, tripModel) := rfl
  refine ⟨hdefinition, hregister, ?_⟩
  obtain ⟨tree, ⟨primary, hprimary, hdecode⟩, hobjects⟩ := listed_accepted_iff hdefinition hregister []
  obtain rfl : tripDefinition = primary := Option.some.inj hprimary
  obtain rfl : tripTree = tree := Except.ok.inj hdecode
  obtain ⟨-, hfields⟩ := hobjects [.property "leg"] (.modified .optional (.object legShape)) legShape rfl rfl
  have hreach : Reaches tripEntity.schema.root "" (.object [("leg", .object stoppingLeg)]) [.property "leg"]
      (Node.modified .optional (.object legShape)).spec "leg" (.object stoppingLeg) :=
    .field rfl rfl .here
  obtain ⟨hmode, -⟩ := hfields "mode" (.enum ["rail", "road"]) _ (by simp [legShape]) rfl _ _ _ hreach _ rfl
  obtain ⟨hstops, -⟩ := hfields "stops" (.literal (.number (.int 0))) _ (by simp [legShape]) rfl _ _ _ hreach _ rfl
  refine ⟨hmode.2 ⟨by decide, by simp, by simp⟩, ?_⟩
  by_contra haccepted
  exact absurd (hstops.1 haccepted).1 (by decide)

/-- marks with a grade that may be empty, and an end that is null -/
def markDefinition : Json :=
  .object [("type", .string "object"), ("shape", .object [
    ("grade", .object [("type", .string "enum"), ("entries", .array [.string "", .string "A"])]),
    ("end", .object [("type", .string "literal"), ("value", .null)])])]

def markEntity : Entity :=
  ⟨"marks", [("grade", .leaf {} (.enum ["", "A"])), ("end", .leaf {} (.literal .null))]⟩

def markModel : Collection := fresh (Emit.modelName "marks") "marks" markEntity.schema [] false []

/-- Both values are listed, and a document that gives just these is rejected for lacking both fields. -/
theorem listed_refused :
    Entity.ofDefinition "marks" markDefinition = .ok markEntity ∧
      Registry.register { timestamps := false } "marks" markEntity.schema []
        = .ok ({ timestamps := false, models := [markModel] }, markModel) ∧
      (Leaf.enum ["", "A"]).listed? = some [.string "", .string "A"] ∧ Json.isIn (.string "") [.string "", .string "A"] = true ∧
      (Leaf.literal .null).listed? = some [.null] ∧ Json.isIn .null [.null] = true ∧
      markModel.rejections (.object [("grade", .string ""), ("end", .null)]) = [⟨"grade", .missing⟩, ⟨"end", .missing⟩] :=
  ⟨rfl, rfl, rfl, by decide, rfl, by decide, rfl⟩

end Collection

end DocumentModels
