/-
Normalization is idempotent: what is stored is accepted again and stored as it is.

The defaults of a schema are stored as they stand, so each of them has to be null, or to be accepted and kept as it is.
- `Spec.DefaultsHold`: a property of every default of a field, at any depth.
- `Spec.keeps_kept`: what one field keeps is kept again.
- `Spec.renormalizes`, `Spec.fields_keep`: a stored value conforms and is its own stored form, by induction on the position.
- `Spec.normalizeFields_fixed`: the members of an object.
- `validate_idempotent`: the model of a definition, with the names of its fields distinct because the definition's are.
-/
import Mathlib.Tactic
import DocumentModels.Proofs.Definition.Names
import DocumentModels.Proofs.Model.Conformance
import DocumentModels.Proofs.Model.Run

namespace DocumentModels

namespace Spec

/-! ## Defaults -/

mutual

/-- in the parts of a position, every default of a field is null or has a property -/
def DefaultsHold (P : Spec → Json → Prop) : Spec → Prop
  | .leaf _ _ => True
  | .array _ element => DefaultsHold P element
  | .object _ fields => FieldDefaultsHold P fields

/-- every default of the fields and of their parts is null or has a property -/
def FieldDefaultsHold (P : Spec → Json → Prop) : List (String × Spec) → Prop
  | [] => True
  | (_, spec) :: rest =>
    (∀ value ∈ spec.rules.default, value = .null ∨ P spec value) ∧ DefaultsHold P spec ∧ FieldDefaultsHold P rest

end

/-- a value breaks no rule of a position and is stored as it is -/
def Settled (patterns : PatternTable) (spec : Spec) (value : Json) : Prop :=
  spec.violations patterns "" value = [] ∧ spec.normalize value = value

/-- a value conforms to a position and is stored as it is -/
def Fixed (spec : Spec) (value : Json) : Prop := Conforms spec value ∧ spec.normalize value = value

mutual

theorem defaultsFixed : ∀ (spec : Spec) (place : String) {patterns : PatternTable}, spec.Checked →
    (∀ item ∈ spec.patterns place, patterns.Holds item.2) → DefaultsHold (Settled patterns) spec → DefaultsHold Fixed spec
  | .leaf _ _, _, _, _, _, _ => trivial
  | .array _ element, place, _, hchecked, hpatterns, h =>
    defaultsFixed element (place ++ ".$") hchecked.2 (fun item hitem => hpatterns item (List.mem_append_right _ hitem)) h
  | .object _ fields, place, _, hchecked, hpatterns, h =>
    fieldDefaultsFixed fields place hchecked.2 (fun item hitem => hpatterns item (List.mem_append_right _ hitem)) h

theorem fieldDefaultsFixed : ∀ (fields : List (String × Spec)) (place : String) {patterns : PatternTable},
    FieldsChecked fields → (∀ item ∈ fieldPatterns place fields, patterns.Holds item.2) →
      FieldDefaultsHold (Settled patterns) fields → FieldDefaultsHold Fixed fields
  | [], _, _, _, _, _ => trivial
  | (name, spec) :: rest, place, patterns, hchecked, hpatterns, h => by
    rw [fieldPatterns] at hpatterns
    have hspec : ∀ item ∈ Spec.patterns (fieldPath place name) spec, patterns.Holds item.2 :=
      fun item hitem => hpatterns item (List.mem_append_left _ hitem)
    have hrest := fieldDefaultsFixed rest place hchecked.2
      (fun item hitem => hpatterns item (List.mem_append_right _ hitem)) h.2.2
    refine ⟨?_, defaultsFixed spec _ hchecked.1 hspec h.2.1, hrest⟩
    intro value hvalue
    rcases h.1 value hvalue with hnull | ⟨hviolations, hfixed⟩
    · exact Or.inl hnull
    · exact Or.inr ⟨(violations_eq_nil_iff spec _ "" value hchecked.1 hspec).1 hviolations, hfixed⟩

end

/-! ## One field -/

theorem normalize_eq_null {spec : Spec} {value : Json} (h : spec.normalize value = .null) : value = .null := by
  cases spec with
  | leaf rules type => rwa [normalize_leaf] at h
  | array rules element => cases value <;> simp_all [normalize]
  | object rules fields => cases value <;> simp_all [normalize]

theorem normalize_of_isString {spec : Spec} (h : spec.isString = true) (value : Json) : spec.normalize value = value := by
  cases spec with
  | leaf rules type => exact normalize_leaf rules type value
  | _ => cases h

/-- a stored form that conforms and is its own stored form -/
def Renormalizes (spec : Spec) : Prop := ∀ value, Conforms spec value → Fixed spec (spec.normalize value)

theorem keeps_default {spec : Spec} (hrequired : spec.rules.required = false) {value : Json}
    (h : value = .null ∨ Fixed spec value) :
    FieldConforms spec (some value) ∧ spec.kept (some value) = some value := by
  by_cases hnull : value = .null
  · subst hnull
    exact ⟨.null hrequired, by rw [kept, given_null hrequired]⟩
  · obtain ⟨hconforms, hfixed⟩ := h.resolve_left hnull
    have hempty : ¬ (value = .string "" ∧ spec.rules.required = true ∧ spec.isString = true) := by
      rintro ⟨-, h, -⟩
      rw [hrequired] at h
      cases h
    refine ⟨.value hnull hempty hconforms, ?_⟩
    rw [kept, given_some hnull hempty]
    exact congrArg some hfixed

/-- **What a field keeps is kept again.** -/
theorem keeps_kept {spec : Spec} (hdefault : ∀ value ∈ spec.rules.default, value = .null ∨ Fixed spec value)
    (hspec : spec.Renormalizes) {member : Option Json} (h : FieldConforms spec member) :
    FieldConforms spec (spec.kept member) ∧ spec.kept (spec.kept member) = spec.kept member := by
  cases h with
  | absent hrequired =>
    have hgiven : spec.given none = .absent := by simp [given, hrequired]
    have hkept : spec.kept none = spec.rules.default := by rw [kept, hgiven]
    cases hrule : spec.rules.default with
    | none =>
      rw [hkept, hrule]
      exact ⟨.absent hrequired, hkept.trans hrule⟩
    | some value =>
      rw [hkept, hrule]
      exact keeps_default hrequired (hdefault value hrule)
  | null hrequired =>
    have hkept : spec.kept (some .null) = some .null := by rw [kept, given_null hrequired]
    rw [hkept]
    exact ⟨.null hrequired, hkept⟩
  | @value _ value hnull hempty hvalue =>
    have hkept : spec.kept (some value) = some (spec.normalize value) := by rw [kept, given_some hnull hempty]
    have hnull' : spec.normalize value ≠ .null := fun h => hnull (normalize_eq_null h)
    have hempty' : ¬ (spec.normalize value = .string "" ∧ spec.rules.required = true ∧ spec.isString = true) := by
      rintro ⟨hvalue, hrequired, hstring⟩
      rw [normalize_of_isString hstring] at hvalue
      exact hempty ⟨hvalue, hrequired, hstring⟩
    obtain ⟨hconforms, hfixed⟩ := hspec value hvalue
    rw [hkept]
    refine ⟨.value hnull' hempty' hconforms, ?_⟩
    rw [kept, given_some hnull' hempty']
    exact congrArg some hfixed

theorem keeps_item {element : Spec} (helement : element.Renormalizes) {item : Json} (h : ElementConforms element item) :
    ElementConforms element (element.keptItem item) ∧
      element.keptItem (element.keptItem item) = element.keptItem item := by
  cases hnull : item.isNull with
  | true =>
    have hkept : element.keptItem item = .null := by rw [keptItem, if_pos hnull]
    rw [hkept]
    exact ⟨.null, rfl⟩
  | false =>
    have hkept : element.keptItem item = element.normalize item := by rw [keptItem, hnull]; rfl
    cases h with
    | null => cases hnull
    | value h =>
      obtain ⟨hconforms, hfixed⟩ := helement item h
      have hnull' : (element.normalize item).isNull = false := by
        cases hstored : element.normalize item with
        | null => rw [normalize_eq_null hstored] at hnull; cases hnull
        | _ => rfl
      rw [hkept]
      refine ⟨.value hconforms, ?_⟩
      rw [keptItem, hnull']
      exact hfixed

def FieldsKeep (fields : List (String × Spec)) : Prop :=
  ∀ field ∈ fields, ∀ member, FieldConforms field.2 member →
    FieldConforms field.2 (field.2.kept member) ∧ field.2.kept (field.2.kept member) = field.2.kept member

theorem normalizeFields_fixed {fields : List (String × Spec)} (hnames : (fields.map Prod.fst).Nodup)
    (hkeep : FieldsKeep fields) {members : Members} (h : FieldsConform fields members) :
    FieldsConform fields (normalizeFields fields members) ∧
      normalizeFields fields (normalizeFields fields members) = normalizeFields fields members := by
  have hlookup : ∀ field ∈ fields,
      (normalizeFields fields members).lookup field.1 = field.2.kept (members.lookup field.1) :=
    fun field hfield => lookup_normalizeFields hnames members hfield
  constructor
  · intro field hfield
    rw [hlookup field hfield]
    exact (hkeep field hfield _ (h field hfield)).1
  · rw [normalizeFields_eq, normalizeFields_eq fields members]
    apply List.flatMap_congr
    intro field hfield
    rw [← normalizeFields_eq, hlookup field hfield, entry_eq_kept, entry_eq_kept,
      (hkeep field hfield _ (h field hfield)).2]

/-- with distinct names, an object is stored as what its fields keep, one after the other -/
theorem overlay_normalizeFields {fields : List (String × Spec)} (hnames : (fields.map Prod.fst).Nodup)
    (members : Members) : Members.overlay [] (normalizeFields fields members) = normalizeFields fields members :=
  Members.overlay_of_nodup (nodup_normalizeFields hnames members)

/-! ## Positions -/

mutual

/-- **A stored form conforms and is its own stored form.** -/
theorem renormalizes : ∀ spec : Spec, spec.Checked → spec.NamesDistinct → DefaultsHold Fixed spec → spec.Renormalizes
  | .leaf rules type, _, _, _, value, h => by
    rw [normalize_leaf]
    exact ⟨h, normalize_leaf rules type value⟩
  | .array rules element, hchecked, hnames, hdefaults, value, h => by
    have helement := renormalizes element hchecked.2 hnames hdefaults
    cases h with
    | @array _ _ items hitems =>
      rw [normalize_array]
      refine ⟨.array ?_ (Rules.allow_parts (by simp) (by simp) hchecked.1), ?_⟩
      · intro stored hstored
        obtain ⟨item, hitem, rfl⟩ := List.mem_map.1 hstored
        exact (keeps_item helement (hitems item hitem)).1
      · rw [normalize_array, List.map_map]
        congr 1
        apply List.map_congr_left
        intro item hitem
        exact (keeps_item helement (hitems item hitem)).2
  | .object rules fields, hchecked, hnames, hdefaults, value, h => by
    have hkeep := fields_keep fields hchecked.2 hnames.2 hdefaults
    cases h with
    | @object _ _ members hmembers =>
      obtain ⟨hconforms, hfixed⟩ := normalizeFields_fixed hnames.1 hkeep hmembers
      rw [normalize, overlay_normalizeFields hnames.1]
      refine ⟨.object hconforms (Rules.allow_parts (by simp) (by simp) hchecked.1), ?_⟩
      rw [normalize, overlay_normalizeFields hnames.1, hfixed]

theorem fields_keep : ∀ fields : List (String × Spec), FieldsChecked fields → FieldNamesDistinct fields →
    FieldDefaultsHold Fixed fields → FieldsKeep fields
  | [], _, _, _, _, hfield => by cases hfield
  | (name, spec) :: rest, hchecked, hnames, hdefaults, field, hfield => by
    rcases List.mem_cons.1 hfield with rfl | hfield
    · intro member h
      exact keeps_kept hdefaults.1 (renormalizes spec hchecked.1 hnames.1 hdefaults.2.1) h
    · exact fields_keep rest hchecked.2 hnames.2 hdefaults.2.2 field hfield

end

end Spec

/-! ## Registered models -/

namespace Collection

theorem stored_fixed {entity : Entity} {patterns : PatternTable}
    (hpatterns : PatternTable.ofSchema entity.schema = .ok patterns) (hnames : entity.schema.NamesDistinct)
    (hdefaults : Spec.FieldDefaultsHold (Spec.Settled patterns) entity.schema.fields)
    {document : Json} {stored : Members} (h : entity.schema.validate patterns document = .ok stored) :
    Spec.FieldsConform entity.schema.fields stored ∧
      Members.overlay [] (Spec.normalizeFields entity.schema.fields stored) = stored := by
  have hholds := PatternTable.ofSchema_holds hpatterns
  have hchecked : Spec.FieldsChecked entity.schema.fields := Field.checked_specs entity.fields
  have hkeep := Spec.fields_keep _ hchecked hnames.2 (Spec.fieldDefaultsFixed _ _ hchecked hholds hdefaults)
  obtain ⟨members, rfl, hviolations, rfl⟩ := Schema.validate_ok.1 h
  rw [Spec.fieldViolations_eq_nil_iff _ _ _ _ hchecked hholds] at hviolations
  obtain ⟨hconforms, hfixed⟩ := Spec.normalizeFields_fixed hnames.1 hkeep hviolations
  rw [Spec.overlay_normalizeFields hnames.1, Spec.overlay_normalizeFields hnames.1]
  exact ⟨hconforms, hfixed⟩

/-- **Normalization is idempotent.** In every later state, the registered model of a definition accepts what it has stored
for a document, and stores the same members in the same order, if each default is null or settled. -/
theorem validate_idempotent {definition : Json} (hdefinition : definition.Distinct) {name label : String}
    {entity : Entity} (hentity : Entity.ofDefinition name definition = .ok entity) {registry registry' : Registry}
    {indexes : List Index} {model : Collection}
    (hregister : registry.register label entity.schema indexes = .ok (registry', model))
    (hdefaults : Spec.FieldDefaultsHold (Spec.Settled model.patterns) entity.schema.fields) (inputs : List Input)
    {document : Json} {stored : Members} (h : (model.insertAll inputs).validate document = .ok stored) :
    (model.insertAll inputs).validate (.object stored) = .ok stored := by
  obtain ⟨hpatterns, hvalidate⟩ := validate_of_register hregister
  have hnames := Entity.namesDistinct_ofDefinition hdefinition hentity
  rw [hvalidate] at h ⊢
  obtain ⟨hconforms, hfixed⟩ := stored_fixed hpatterns hnames hdefaults h
  refine Schema.validate_ok.2 ⟨stored, rfl, ?_, hfixed.symm⟩
  exact (Spec.fieldViolations_eq_nil_iff _ _ _ _ (Field.checked_specs entity.fields)
    (PatternTable.ofSchema_holds hpatterns)).2 hconforms

/-! ## Defaults inside the items of an array -/

/-- a definition with a default in an object that is the element of an array -/
def memoDefinition : Json :=
  .object [("type", .string "object"), ("shape", .object [
    ("title", .object [("type", .string "string")]),
    ("parts", .object [("type", .string "array"), ("element", .object [("type", .string "object"), ("shape", .object [
      ("kind", .object [("type", .string "default"), ("defaultValue", .string "plain"),
        ("innerType", .object [("type", .string "string")])])])])])])]

def memoEntity : Entity :=
  ⟨"memos", [("title", .leaf {} (.string {})),
    ("parts", .array {} (.object {} [("kind", .leaf { default := some (.string "plain") } (.string {}))]))]⟩

def memoModel : Collection := fresh (Emit.modelName "memos") "memos" memoEntity.schema [] false []

/-- a default that is filled in and a null item are stored as they are the second time -/
theorem memo_settles :
    memoDefinition.Distinct ∧ Entity.ofDefinition "memos" memoDefinition = .ok memoEntity ∧
      Registry.register { timestamps := false } "memos" memoEntity.schema []
        = .ok ({ timestamps := false, models := [memoModel] }, memoModel) ∧
      Spec.FieldDefaultsHold (Spec.Settled memoModel.patterns) memoEntity.schema.fields ∧
      (memoModel.insertAll []).validate (.object [("parts", .array [.null, .object []]), ("title", .string "T")])
        = .ok [("title", .string "T"), ("parts", .array [.null, .object [("kind", .string "plain")]])] ∧
      (memoModel.insertAll []).validate
          (.object [("title", .string "T"), ("parts", .array [.null, .object [("kind", .string "plain")]])])
        = .ok [("title", .string "T"), ("parts", .array [.null, .object [("kind", .string "plain")]])] := by
  have hdefinition : memoDefinition.Distinct := by
    simp [memoDefinition, Json.Distinct, Json.DistinctMembers]
  have hentity : Entity.ofDefinition "memos" memoDefinition = .ok memoEntity := rfl
  have hregister : Registry.register { timestamps := false } "memos" memoEntity.schema []
      = .ok ({ timestamps := false, models := [memoModel] }, memoModel) := rfl
  have hdefaults : Spec.FieldDefaultsHold (Spec.Settled memoModel.patterns) memoEntity.schema.fields := by
    have hplain : Spec.Settled memoModel.patterns (.leaf { required := false, default := some (.string "plain") } .string)
        (.string "plain") := ⟨rfl, rfl⟩
    simpa [memoEntity, Entity.schema, Field.specs, Field.spec, Leaf.spec, Modifiers.rules, Modifiers.required, Spec.rules,
      Spec.FieldDefaultsHold, Spec.DefaultsHold] using hplain
  have hvalid : (memoModel.insertAll []).validate (.object [("parts", .array [.null, .object []]), ("title", .string "T")])
      = .ok [("title", .string "T"), ("parts", .array [.null, .object [("kind", .string "plain")]])] := rfl
  exact ⟨hdefinition, hentity, hregister, hdefaults, hvalid,
    validate_idempotent hdefinition hentity hregister hdefaults [] hvalid⟩

end Collection

end DocumentModels
