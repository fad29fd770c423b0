/-
What validation stores.

- `fieldViolations_eq`, `normalizeFields_eq`: both go through the declared fields one by one, and a field depends on its
  own member alone.
- `lookup_normalizeFields`: with distinct names, a name finds what its field keeps.
- `validate_ok`: when a document is accepted, and what is stored for it.
- `lookup_of_undeclared`: nothing is stored under a name that no field has.
- `distinct_normalize`, `distinct_of_validate`: what is stored has distinct names, if document and defaults have.
-/
import Mathlib.Tactic
import DocumentModels.Model.Validation
import DocumentModels.Proofs.Json.Members

namespace DocumentModels

namespace Spec

/-! ## One field -/

def faults (patterns : PatternTable) (path : String) (spec : Spec) (member : Option Json) : List Violation :=
  match spec.given member with
  | .lacking => [⟨path, .missing⟩]
  | .absent => []
  | .null => []
  | .value value => violations patterns path spec value

def entry (name : String) (spec : Spec) (member : Option Json) : Members :=
  match spec.given member with
  | .lacking => []
  | .absent => (spec.rules.default.map fun value => (name, value)).toList
  | .null => [(name, .null)]
  | .value value => [(name, normalize spec value)]

theorem fieldViolations_cons (patterns : PatternTable) (parent name : String) (spec : Spec)
    (rest : List (String × Spec)) (members : Members) :
    fieldViolations patterns parent ((name, spec) :: rest) members
      = faults patterns (fieldPath parent name) spec (members.lookup name) ++ fieldViolations patterns parent rest members := by
  rw [fieldViolations]
  rfl

theorem normalizeFields_cons (name : String) (spec : Spec) (rest : List (String × Spec)) (members : Members) :
    normalizeFields ((name, spec) :: rest) members
      = entry name spec (members.lookup name) ++ normalizeFields rest members := by
  rw [normalizeFields]
  rfl

theorem fieldViolations_eq (patterns : PatternTable) (parent : String) (fields : List (String × Spec)) (members : Members) :
    fieldViolations patterns parent fields members
      = fields.flatMap fun field => faults patterns (fieldPath parent field.1) field.2 (members.lookup field.1) := by
  induction fields with
  | nil => rw [fieldViolations, List.flatMap_nil]
  | cons field fields ih =>
    obtain ⟨name, spec⟩ := field
    rw [fieldViolations_cons, List.flatMap_cons, ih]

theorem normalizeFields_eq (fields : List (String × Spec)) (members : Members) :
    normalizeFields fields members = fields.flatMap fun field => entry field.1 field.2 (members.lookup field.1) := by
  induction fields with
  | nil => rw [normalizeFields, List.flatMap_nil]
  | cons field fields ih =>
    obtain ⟨name, spec⟩ := field
    rw [normalizeFields_cons, List.flatMap_cons, ih]

theorem entry_name {name : String} {spec : Spec} {member : Option Json} {stored : String × Json}
    (h : stored ∈ entry name spec member) : stored.1 = name := by
  unfold entry at h
  split at h
  · cases h
  · obtain ⟨value, -, rfl⟩ := Option.map_eq_some_iff.1 (Option.mem_toList.1 h)
    rfl
  · rw [List.mem_singleton.1 h]
  · rw [List.mem_singleton.1 h]

theorem normalize_leaf (rules : Rules) (type : BaseType) (value : Json) :
    (Spec.leaf rules type).normalize value = value := by
  rw [normalize]
  · simp
  · simp

theorem given_null {spec : Spec} (h : spec.rules.required = false) : spec.given (some .null) = .null := by
  simp [given, h]

theorem given_some {spec : Spec} {value : Json} (hnull : value ≠ .null)
    (hempty : ¬ (value = .string "" ∧ spec.rules.required = true ∧ spec.isString = true)) :
    spec.given (some value) = .value value := by
  cases value with
  | null => exact absurd rfl hnull
  | string s =>
    rw [given, if_neg]
    rintro ⟨hs, hrest⟩
    exact hempty ⟨by rw [String.isEmpty_iff.1 hs], hrest⟩
  | _ => rfl

theorem given_value {spec : Spec} {member : Option Json} {value : Json} (h : spec.given member = .value value) :
    member = some value := by
  unfold given at h
  split at h
  · split_ifs at h
  · split_ifs at h
  · split_ifs at h
    cases h
    rfl
  · cases h
    rfl

theorem given_eq_absent {spec : Spec} {member : Option Json} (h : spec.given member = .absent) : member = none := by
  unfold given at h
  split at h
  · rfl
  · split_ifs at h
  · split_ifs at h
  · cases h

theorem given_eq_null {spec : Spec} {member : Option Json} (h : spec.given member = .null) : member = some .null := by
  unfold given at h
  split at h
  · split_ifs at h
  · rfl
  · split_ifs at h
  · cases h

theorem given_value_ne_null {spec : Spec} {member : Option Json} {value : Json} (h : spec.given member = .value value) :
    value ≠ .null := by
  rintro rfl
  rw [given_value h] at h
  simp only [given] at h
  split_ifs at h

theorem given_of_required {spec : Spec} (h : spec.rules.required = true) (member : Option Json) :
    spec.given member = .lacking ∨
      ∃ value, spec.given member = .value value ∧ member = some value ∧ value.isNull = false := by
  cases member with
  | none => simp [given, h]
  | some value =>
    cases value with
    | null => simp [given, h]
    | string s =>
      by_cases hempty : s.isEmpty = true ∧ spec.rules.required = true ∧ spec.isString = true
      · exact Or.inl (by rw [given, if_pos hempty])
      · exact Or.inr ⟨.string s, by rw [given, if_neg hempty], rfl, rfl⟩
    | _ => exact Or.inr ⟨_, rfl, rfl, rfl⟩

/-- what a field keeps of a member, or of its absence -/
def kept (spec : Spec) (member : Option Json) : Option Json :=
  match spec.given member with
  | .lacking => none
  | .absent => spec.rules.default
  | .null => some .null
  | .value value => some (normalize spec value)

/-- what an array keeps of an item -/
def keptItem (element : Spec) (item : Json) : Json := if item.isNull then .null else normalize element item

theorem normalize_array (rules : Rules) (element : Spec) (items : List Json) :
    (Spec.array rules element).normalize (.array items) = .array (items.map element.keptItem) := by
  rw [normalize]
  rfl

theorem entry_eq_kept (name : String) (spec : Spec) (member : Option Json) :
    entry name spec member = ((spec.kept member).map fun value => (name, value)).toList := by
  unfold entry kept
  cases spec.given member <;> rfl

/-- with distinct names, a name finds what its field keeps -/
theorem lookup_normalizeFields {fields : List (String × Spec)} (hnames : (fields.map Prod.fst).Nodup) (members : Members)
    {field : String × Spec} (h : field ∈ fields) :
    (normalizeFields fields members).lookup field.1 = field.2.kept (members.lookup field.1) := by
  rw [normalizeFields_eq]
  induction fields with
  | nil => cases h
  | cons first rest ih =>
    rw [List.map_cons, List.nodup_cons] at hnames
    rw [List.flatMap_cons, List.lookup_append]
    have hentry : ∀ name, (entry first.1 first.2 (members.lookup first.1)).lookup name
        = if name = first.1 then first.2.kept (members.lookup first.1) else none := by
      intro name
      rw [entry_eq_kept]
      cases first.2.kept (members.lookup first.1) with
      | none => simp
      | some value => by_cases hname : name = first.1 <;> simp [hname, List.lookup_cons, beq_false_of_ne]
    rw [hentry]
    rcases List.mem_cons.1 h with rfl | h
    · rw [if_pos rfl]
      have hrest : (rest.flatMap fun other => entry other.1 other.2 (members.lookup other.1)).lookup field.1 = none := by
        rw [List.lookup_eq_none_iff]
        intro stored hstored
        obtain ⟨other, hother, hstored⟩ := List.mem_flatMap.1 hstored
        rw [entry_name hstored, bne_iff_ne]
        intro hname
        exact hnames.1 (hname ▸ List.mem_map_of_mem hother)
      rw [hrest, Option.or_none]
    · have hne : field.1 ≠ first.1 := by
        intro hname
        exact hnames.1 (hname ▸ List.mem_map_of_mem h)
      rw [if_neg hne, Option.none_or, ih hnames.2 h]

theorem nodup_normalizeFields {fields : List (String × Spec)} (hnames : (fields.map Prod.fst).Nodup) (members : Members) :
    (normalizeFields fields members).names.Nodup := by
  have hsublist : (normalizeFields fields members).names.Sublist (fields.map Prod.fst) := by
    rw [normalizeFields_eq]
    clear hnames
    induction fields with
    | nil => exact List.Sublist.refl _
    | cons field fields ih =>
      rw [List.flatMap_cons, Members.names, List.map_append, List.map_cons, entry_eq_kept]
      cases field.2.kept (members.lookup field.1) with
      | none => exact ih.cons _
      | some value => exact ih.cons_cons _
  exact hnames.sublist hsublist

/-! ## Distinct names -/

mutual

/-- in the defaults of a position and of its parts, the names of every object are distinct -/
def DefaultsDistinct : Spec → Prop
  | .leaf rules _ => ∀ value ∈ rules.default, value.Distinct
  | .array rules element => (∀ value ∈ rules.default, value.Distinct) ∧ element.DefaultsDistinct
  | .object rules fields => (∀ value ∈ rules.default, value.Distinct) ∧ FieldDefaultsDistinct fields

/-- in the defaults of fields, the names of every object are distinct -/
def FieldDefaultsDistinct : List (String × Spec) → Prop
  | [] => True
  | (_, spec) :: rest => spec.DefaultsDistinct ∧ FieldDefaultsDistinct rest

end

theorem DefaultsDistinct.default {spec : Spec} (h : spec.DefaultsDistinct) :
    ∀ value ∈ spec.rules.default, value.Distinct := by
  cases spec with
  | leaf rules type => exact h
  | array rules element => exact h.1
  | object rules fields => exact h.1

theorem distinct_of_lookup {members : Members} (h : Json.DistinctMembers members) {name : String} {value : Json}
    (hfind : members.lookup name = some value) : value.Distinct :=
  (Json.distinctMembers_iff members).1 h _ (mem_of_lookup hfind)

mutual

theorem distinct_normalize : ∀ (spec : Spec) (value : Json), spec.DefaultsDistinct → value.Distinct →
    (spec.normalize value).Distinct
  | .leaf _ _, value, _, hvalue => by
    rw [normalize_leaf]
    exact hvalue
  | .array rules element, value, hspec, hvalue => by
    cases value with
    | array items =>
      rw [normalize, Json.Distinct, Json.distinctItems_iff]
      intro stored hstored
      obtain ⟨item, hitem, rfl⟩ := List.mem_map.1 hstored
      split_ifs
      · trivial
      · exact distinct_normalize element item hspec.2 ((Json.distinctItems_iff items).1 hvalue item hitem)
    | _ => simpa [normalize] using hvalue
  | .object rules fields, value, hspec, hvalue => by
    cases value with
    | object members =>
      rw [normalize]
      exact Json.distinct_overlay (distinct_normalizeFields fields members hspec.2 hvalue.2)
    | _ => simpa [normalize] using hvalue

theorem distinct_normalizeFields : ∀ (fields : List (String × Spec)) (members : Members), FieldDefaultsDistinct fields →
    Json.DistinctMembers members → ∀ member ∈ normalizeFields fields members, member.2.Distinct
  | [], _, _, _, _, hmember => by
    rw [normalizeFields] at hmember
    cases hmember
  | (name, spec) :: fields, members, hfields, hmembers, member, hmember => by
    rw [normalizeFields, List.mem_append] at hmember
    rcases hmember with hmember | hmember
    · cases hgiven : spec.given (members.lookup name) with
      | lacking =>
        rw [hgiven] at hmember
        cases hmember
      | absent =>
        rw [hgiven] at hmember
        obtain ⟨value, hvalue, rfl⟩ := Option.map_eq_some_iff.1 (Option.mem_toList.1 hmember)
        exact hfields.1.default value hvalue
      | null =>
        rw [hgiven] at hmember
        rw [List.mem_singleton.1 hmember]
        trivial
      | value value =>
        rw [hgiven] at hmember
        rw [List.mem_singleton.1 hmember]
        exact distinct_normalize spec value hfields.1 (distinct_of_lookup hmembers (given_value hgiven))
    · exact distinct_normalizeFields fields members hfields.2 hmembers member hmember

end

end Spec

namespace Schema

/-- **When a document is accepted, and what is stored for it.** -/
theorem validate_ok {schema : Schema} {patterns : PatternTable} {document : Json} {stored : Members} :
    schema.validate patterns document = .ok stored ↔
      ∃ members, document = .object members ∧ Spec.fieldViolations patterns "" schema.fields members = [] ∧
        stored = Members.overlay [] (Spec.normalizeFields schema.fields members) := by
  unfold validate
  cases document with
  | object members =>
    rw [violations, normalize]
    cases hviolations : Spec.fieldViolations patterns "" schema.fields members with
    | nil =>
      constructor
      · intro h
        cases h
        exact ⟨members, rfl, hviolations, rfl⟩
      · rintro ⟨members', hmembers, -, rfl⟩
        cases hmembers
        rfl
    | cons violation violations =>
      constructor
      · intro h
        cases h
      · rintro ⟨members', hmembers, hnone, -⟩
        cases hmembers
        rw [hviolations] at hnone
        cases hnone
  | _ =>
    constructor
    · intro h
      cases h
    · rintro ⟨members, hmembers, -⟩
      cases hmembers

theorem lookup_of_undeclared {schema : Schema} {patterns : PatternTable} {document : Json} {stored : Members}
    {name : String} (hname : ∀ field ∈ schema.fields, field.1 ≠ name)
    (h : schema.validate patterns document = .ok stored) : stored.lookup name = none := by
  obtain ⟨members, -, -, rfl⟩ := validate_ok.1 h
  rw [List.lookup_eq_none_iff]
  intro member hmember
  rcases Members.mem_overlay hmember with hmember | hmember
  · cases hmember
  · rw [Spec.normalizeFields_eq, List.mem_flatMap] at hmember
    obtain ⟨field, hfield, hstored⟩ := hmember
    rw [Spec.entry_name hstored, bne_iff_ne]
    exact (hname field hfield).symm

theorem distinct_of_validate {schema : Schema} (hdefaults : Spec.FieldDefaultsDistinct schema.fields)
    {patterns : PatternTable} {document : Json} (hdocument : document.Distinct) {stored : Members}
    (h : schema.validate patterns document = .ok stored) : (Json.object stored).Distinct := by
  obtain ⟨members, rfl, -, rfl⟩ := validate_ok.1 h
  exact Json.distinct_overlay (Spec.distinct_normalizeFields schema.fields members hdefaults hdocument.2)

end Schema

end DocumentModels
