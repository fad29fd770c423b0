/-
Validation is sound and complete, and what an accepted document is stored as.

- `Spec.Stores`, `Spec.FieldStores`, `Spec.ElementStores`, `Spec.FieldsStore`: what is kept of a value. An object keeps the
  declared members that are given or have a default, each once and in the order of declaration; a leaf is kept as it is,
  an array item by item.
- `Spec.names_normalizeFields`: which members a traversal leaves.
- `Spec.stores_normalize`: a conforming value is stored as `Stores` says, by induction on the position.
- `accepts_iff_conforms`: a registered model accepts a document just when it conforms, and stores it so.
-/
import Mathlib.Tactic
import DocumentModels.Proofs.Model.Conformance
import DocumentModels.Proofs.Model.Run

namespace DocumentModels

namespace Spec

/-! ## What is kept -/

mutual

/-- what is kept of a value at a position -/
inductive Stores : Spec → Json → Json → Prop
  | leaf {rules : Rules} {type : BaseType} {value : Json} : Stores (.leaf rules type) value value
  | array {rules : Rules} {element : Spec} {items stored : List Json} :
    stored.length = items.length →
    (∀ (index : Nat) (item kept : Json), items[index]? = some item → stored[index]? = some kept →
      ElementStores element item kept) →
      Stores (.array rules element) (.array items) (.array stored)
  | object {rules : Rules} {fields : List (String × Spec)} {members stored : Members} :
    FieldsStore fields members stored → Stores (.object rules fields) (.object members) (.object stored)

/-- what is kept of an item at the element of an array -/
inductive ElementStores : Spec → Json → Json → Prop
  | null {element : Spec} : ElementStores element .null .null
  | value {element : Spec} {item kept : Json} : item ≠ .null → Stores element item kept → ElementStores element item kept

/-- what is kept for a field, given the member or its absence -/
inductive FieldStores : Spec → Option Json → Json → Prop
  | default {spec : Spec} {value : Json} : spec.rules.default = some value → FieldStores spec none value
  | null {spec : Spec} : FieldStores spec (some .null) .null
  | value {spec : Spec} {value kept : Json} : value ≠ .null → Stores spec value kept → FieldStores spec (some value) kept

/-- what is kept of members, given the fields of their object -/
inductive FieldsStore : List (String × Spec) → Members → Members → Prop
  | intro {fields : List (String × Spec)} {members stored : Members} :
    stored.names.Nodup → stored.names.Sublist (fields.map Prod.fst) →
    (∀ name, name ∈ stored.names ↔
      ∃ field ∈ fields, field.1 = name ∧ ((members.lookup name).isSome = true ∨ field.2.rules.default.isSome = true)) →
    (∀ kept ∈ stored, MemberStores fields members kept) → FieldsStore fields members stored

/-- a member that is kept of members, by one of the fields of its name -/
inductive MemberStores : List (String × Spec) → Members → String × Json → Prop
  | intro {fields : List (String × Spec)} {members : Members} {name : String} {spec : Spec} {value : Json} :
    (name, spec) ∈ fields → FieldStores spec (members.lookup name) value → MemberStores fields members (name, value)

end

/-! ## What validation keeps -/

theorem names_entry {name : String} {spec : Spec} {member : Option Json} (h : FieldConforms spec member) :
    (entry name spec member).names = if member.isSome || spec.rules.default.isSome then [name] else [] := by
  rw [fieldConforms_iff] at h
  cases member with
  | none =>
    have hgiven : spec.given none = .absent := by
      cases hrequired : spec.rules.required <;> simp_all [given]
    rw [entry, hgiven]
    cases spec.rules.default <;> rfl
  | some value =>
    rw [entry]
    cases hgiven : spec.given (some value) with
    | lacking => rw [hgiven] at h; exact h.elim
    | absent => cases given_eq_absent hgiven
    | null => rfl
    | value other => rfl

/-- **The members that a traversal leaves, in the order of declaration.** -/
theorem names_normalizeFields {fields : List (String × Spec)} {members : Members} (h : FieldsConform fields members) :
    (normalizeFields fields members).names
      = (fields.filter fun field => (members.lookup field.1).isSome || field.2.rules.default.isSome).map Prod.fst := by
  rw [normalizeFields_eq]
  induction fields with
  | nil => rfl
  | cons field fields ih =>
    have hrest : FieldsConform fields members := fun other hother => h other (List.mem_cons_of_mem _ hother)
    have hfirst : (entry field.1 field.2 (members.lookup field.1)).names = _ := names_entry (h field List.mem_cons_self)
    rw [List.flatMap_cons, Members.names, List.map_append, List.filter_cons]
    rw [Members.names] at ih hfirst
    rw [ih hrest, hfirst]
    split_ifs <;> rfl

mutual

/-- **A conforming value is stored as its position says.** -/
theorem stores_normalize : ∀ (spec : Spec) (value : Json), Conforms spec value → Stores spec value (normalize spec value)
  | .leaf rules type, value, _ => by
    rw [normalize_leaf]
    exact .leaf
  | .array rules element, value, h => by
    cases h with
    | @array _ _ items hitems =>
      rw [normalize]
      refine .array (List.length_map ..) ?_
      intro index item kept hitem hkept
      rw [List.getElem?_map, hitem, Option.map_some, Option.some.injEq] at hkept
      subst hkept
      have hconforms := hitems item (List.mem_of_getElem? hitem)
      cases item with
      | null => exact .null
      | _ =>
        refine .value (by simp) (stores_normalize element _ ?_)
        cases hconforms with
        | value hconforms => exact hconforms
  | .object rules fields, value, h => by
    cases h with
    | @object _ _ members hfields =>
      have hnames := names_normalizeFields hfields
      have hnil : (Members.names []).Nodup := List.nodup_nil
      rw [normalize]
      refine .object (.intro (Members.nodup_overlay hnil _) ?_ ?_ ?_)
      · refine (Members.names_overlay_sublist [] _).trans ?_
        show (normalizeFields fields members).names.Sublist _
        rw [hnames]
        exact (List.filter_sublist).map _
      · intro name
        rw [Members.mem_names_overlay, hnames, List.mem_map]
        simp only [List.mem_filter, Bool.or_eq_true]
        constructor
        · rintro (hname | ⟨field, ⟨hfield, hkept⟩, rfl⟩)
          · cases hname
          · exact ⟨field, hfield, rfl, hkept⟩
        · rintro ⟨field, hfield, rfl, hkept⟩
          exact Or.inr ⟨field, ⟨hfield, hkept⟩, rfl⟩
      · intro kept hkept
        rcases Members.mem_overlay hkept with hkept | hkept
        · cases hkept
        · exact memberStores_of_mem fields members hfields kept hkept

theorem memberStores_of_mem : ∀ (fields : List (String × Spec)) (members : Members), FieldsConform fields members →
    ∀ kept ∈ normalizeFields fields members, MemberStores fields members kept
  | [], _, _, _, hkept => by
    rw [normalizeFields] at hkept
    cases hkept
  | (name, spec) :: rest, members, h, kept, hkept => by
    rw [normalizeFields_cons, List.mem_append] at hkept
    rcases hkept with hkept | hkept
    · have hfield : FieldConforms spec (members.lookup name) := h _ List.mem_cons_self
      rw [fieldConforms_iff] at hfield
      rw [entry] at hkept
      cases hgiven : spec.given (members.lookup name) with
      | lacking =>
        rw [hgiven] at hfield
        exact hfield.elim
      | absent =>
        rw [hgiven] at hkept
        obtain ⟨value, hvalue, rfl⟩ := Option.map_eq_some_iff.1 (Option.mem_toList.1 hkept)
        refine .intro List.mem_cons_self ?_
        rw [given_eq_absent hgiven]
        exact .default hvalue
      | null =>
        rw [hgiven] at hkept
        rw [List.mem_singleton.1 hkept]
        refine .intro List.mem_cons_self ?_
        rw [given_eq_null hgiven]
        exact .null
      | value value =>
        rw [hgiven] at hkept hfield
        rw [List.mem_singleton.1 hkept]
        refine .intro List.mem_cons_self ?_
        rw [given_value hgiven]
        exact .value (given_value_ne_null hgiven) (stores_normalize spec value hfield)
    · have hrest := memberStores_of_mem rest members (fun other hother => h other (List.mem_cons_of_mem _ hother)) kept hkept
      cases hrest with
      | intro hmem hstores => exact .intro (List.mem_cons_of_mem _ hmem) hstores

end

end Spec

/-! ## Registered models -/

namespace Collection

/-- **Validation is sound and complete.** In every later state, a registered model whose schema is a translation accepts a
document just when it is an object whose members fit the declared fields, and stores it as these say. -/
theorem accepts_iff_conforms {registry registry' : Registry} {name : String} {entity : Entity} {indexes : List Index}
    {model : Collection} (h : registry.register name entity.schema indexes = .ok (registry', model))
    (inputs : List Input) (document : Json) :
    ((∃ stored, (model.insertAll inputs).validate document = .ok stored) ↔
      ∃ members, document = .object members ∧ Spec.FieldsConform entity.schema.fields members) ∧
    ∀ stored, (model.insertAll inputs).validate document = .ok stored →
      ∃ members, document = .object members ∧ Spec.FieldsStore entity.schema.fields members stored := by
  obtain ⟨hpatterns, hvalidate⟩ := validate_of_register h
  have hconforms : ∀ members, Spec.fieldViolations model.patterns "" entity.schema.fields members = [] ↔
      Spec.FieldsConform entity.schema.fields members := fun members =>
    Spec.fieldViolations_eq_nil_iff entity.schema.fields "" "" members (Field.checked_specs entity.fields)
      (PatternTable.ofSchema_holds hpatterns)
  simp only [hvalidate, Schema.validate_ok, hconforms]
  constructor
  · constructor
    · rintro ⟨stored, members, rfl, hmembers, -⟩
      exact ⟨members, rfl, hmembers⟩
    · rintro ⟨members, rfl, hmembers⟩
      exact ⟨_, members, rfl, hmembers, rfl⟩
  · rintro stored ⟨members, rfl, hmembers, rfl⟩
    refine ⟨members, rfl, ?_⟩
    -- the document is the value of an object without rules of its own
    have hobject : Spec.Conforms (.object { required := true } entity.schema.fields) (.object members) :=
      .object hmembers (Rules.allow_parts (by simp) (by simp) rfl)
    have hstores := Spec.stores_normalize _ _ hobject
    rw [Spec.normalize] at hstores
    cases hstores with
    | object hstores => exact hstores

/-! ## A document with an item of null -/

/-- an entity with a bounded title and a list of grades -/
def reviewEntity : Entity :=
  ⟨"reviews", [("title", .leaf {} (.string { minLength := some 1 })),
    ("grades", .array { optional := true } (.leaf {} (.enum ["good", "poor"]))),
    ("state", .leaf { default := some (.string "draft") } (.string {}))]⟩

def reviewModel : Collection := fresh (Emit.modelName "reviews") "reviews" reviewEntity.schema [] false []

/-- the item of null conforms, the undeclared member is dropped and the default is filled in -/
theorem review_conforms :
    Registry.register { timestamps := false } "reviews" reviewEntity.schema []
        = .ok ({ timestamps := false, models := [reviewModel] }, reviewModel) ∧
      (∃ members, Json.object [("grades", .array [.null, .string "poor"]), ("note", .null), ("title", .string "T")]
          = .object members ∧ Spec.FieldsConform reviewEntity.schema.fields members) ∧
      ∃ members, Json.object [("grades", .array [.null, .string "poor"]), ("note", .null), ("title", .string "T")]
          = .object members ∧ Spec.FieldsStore reviewEntity.schema.fields members
            [("title", .string "T"), ("grades", .array [.null, .string "poor"]), ("state", .string "draft")] := by
  have hregister : Registry.register { timestamps := false } "reviews" reviewEntity.schema []
      = .ok ({ timestamps := false, models := [reviewModel] }, reviewModel) := rfl
  obtain ⟨haccepts, hstores⟩ := accepts_iff_conforms hregister []
    (.object [("grades", .array [.null, .string "poor"]), ("note", .null), ("title", .string "T")])
  have hvalid : (reviewModel.insertAll []).validate
      (.object [("grades", .array [.null, .string "poor"]), ("note", .null), ("title", .string "T")])
        = .ok [("title", .string "T"), ("grades", .array [.null, .string "poor"]), ("state", .string "draft")] := rfl
  exact ⟨hregister, haccepts.1 ⟨_, hvalid⟩, hstores _ hvalid⟩

end Collection

end DocumentModels
