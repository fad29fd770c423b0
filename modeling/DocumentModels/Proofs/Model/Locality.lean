/-
Locality: what a part of a document breaks is its own affair.

All patterns of a model stand in one table, and all violations of a document end up in one list. Here every position gets
a table of its own patterns, and every field and item a list of its own; these are what the model reports.
- `violations_congr`: of a table, a position reads its own patterns only, by induction on the position.
- `Spec.ownViolations`, `Spec.ownFaults`, `Spec.ownItemFaults`: what a value, a member, an item breaks, made of nothing but
  the specification, the path and the value.
- `ownViolations_object`, `ownViolations_array`: field after field in the order of the schema, item after item by index.
- `Spec.Differ`: two values that differ in one part, at any depth.
- `Differ.ownViolations_eq`: one step out of a part puts the same violations around those of the part, so a whole way out does.
- `violations_by_part`: all of this for the registered models.
-/
import Mathlib.Tactic
import DocumentModels.Proofs.Model.Agreement
import DocumentModels.Proofs.Model.OnePass
import DocumentModels.Proofs.Model.Registration

namespace DocumentModels

/-! ## The patterns of a position -/

/-- the patterns of a position and of its parts, compiled -/
def Spec.table (spec : Spec) : PatternTable :=
  (spec.patterns "").filterMap fun item => (Pattern.parse? item.2).map fun expr => (item.2, expr)

namespace PatternTable

/-- the table has every pattern of a position and of its parts, compiled from its text -/
def Covers (table : PatternTable) (spec : Spec) : Prop :=
  ∀ text, spec.Declares text → table.lookup text = Pattern.parse? text

theorem lookup_compiled {items : List (String × String)} {place text : String} (h : (place, text) ∈ items) :
    (items.filterMap fun item => (Pattern.parse? item.2).map fun expr => (item.2, expr)).lookup text
      = Pattern.parse? text := by
  induction items with
  | nil => simp at h
  | cons item items ih =>
    have hrest : (place, text) ∈ items ∨ item.2 = text := by
      rcases List.mem_cons.1 h with rfl | h
      · exact Or.inr rfl
      · exact Or.inl h
    cases hparse : Pattern.parse? item.2 with
    | none =>
      rw [List.filterMap_cons, hparse]
      rcases hrest with h | rfl
      · exact ih h
      · -- the text does not compile, wherever it stands
        rw [hparse, Option.map_none, List.lookup_eq_none_iff]
        intro entry hentry
        obtain ⟨other, -, hother⟩ := List.mem_filterMap.1 hentry
        obtain ⟨expr, hexpr, rfl⟩ := Option.map_eq_some_iff.1 hother
        simp only [bne_iff_ne, ne_eq]
        intro htext
        simp [← htext, hparse] at hexpr
    | some expr =>
      rw [List.filterMap_cons, hparse, Option.map_some, List.lookup_cons]
      by_cases htext : text = item.2
      · simp [htext, hparse]
      · rw [beq_false_of_ne htext]
        exact ih (hrest.resolve_right (Ne.symm htext))

theorem covers_table (spec : Spec) : spec.table.Covers spec := by
  intro text htext
  obtain ⟨place, hplace⟩ := (Spec.mem_patterns text spec "").2 htext
  exact lookup_compiled hplace

theorem covers_field {schema : Schema} {table : PatternTable} (h : ofSchema schema = .ok table)
    {field : String × Spec} (hfield : field ∈ schema.fields) : table.Covers field.2 := by
  intro text htext
  obtain ⟨place, hplace⟩ := (Spec.mem_fieldPatterns text schema.fields "").2 ⟨field, hfield, htext⟩
  obtain ⟨expr, hparse, hlookup⟩ := ofSchema_holds h _ hplace
  rw [hlookup, hparse]

variable {table : PatternTable} {rules : Rules}

theorem Covers.element {element : Spec} (h : table.Covers (.array rules element)) : table.Covers element := by
  intro text htext
  exact h text (Spec.declares_array.2 (Or.inr htext))

theorem Covers.field {fields : List (String × Spec)} (h : table.Covers (.object rules fields)) {field : String × Spec}
    (hfield : field ∈ fields) : table.Covers field.2 := by
  intro text htext
  exact h text (Spec.declares_object.2 (Or.inr ⟨field, hfield, htext⟩))

end PatternTable

namespace Spec

variable {left right : PatternTable}

theorem leafBreaches_congr {rules : Rules} (h : ∀ text, rules.pattern = some text → left.lookup text = right.lookup text)
    (type : BaseType) (value : Json) : rules.leafBreaches left type value = rules.leafBreaches right type value := by
  have hstring : ∀ s, rules.stringBreaches left s = rules.stringBreaches right s := by
    intro s
    cases hpattern : rules.pattern with
    | none => simp [Rules.stringBreaches, hpattern]
    | some text => simp [Rules.stringBreaches, hpattern, Option.filter, h text hpattern]
  unfold Rules.leafBreaches
  simp only [hstring]

theorem faults_congr {spec : Spec} {path : String}
    (h : ∀ value, spec.violations left path value = spec.violations right path value) (member : Option Json) :
    spec.faults left path member = spec.faults right path member := by
  unfold faults
  cases spec.given member with
  | value value => exact h value
  | _ => rfl

mutual

/-- **Of a table, a position reads its own patterns only.** -/
theorem violations_congr : ∀ (spec : Spec) (path : String) (value : Json),
    (∀ text, spec.Declares text → left.lookup text = right.lookup text) →
      spec.violations left path value = spec.violations right path value
  | .leaf rules type, path, value, h => by
    rw [violations, violations, leafBreaches_congr fun text htext => h text (declares_leaf.2 htext)]
  | .array rules element, path, value, h => by
    cases value with
    | array items =>
      have helement := fun path value => violations_congr element path value
        fun text htext => h text (declares_array.2 (Or.inr htext))
      simp only [violations, helement]
    | _ => rfl
  | .object rules fields, path, value, h => by
    cases value with
    | object members =>
      have hfields := fieldViolations_congr fields path members
        fun text hfield => h text (declares_object.2 (Or.inr hfield))
      rw [violations, violations, hfields]
    | _ => rfl

theorem fieldViolations_congr : ∀ (fields : List (String × Spec)) (parent : String) (members : Members),
    (∀ text, (∃ field ∈ fields, field.2.Declares text) → left.lookup text = right.lookup text) →
      fieldViolations left parent fields members = fieldViolations right parent fields members
  | [], _, _, _ => rfl
  | (name, spec) :: rest, parent, members, h => by
    have hspec := fun value => violations_congr spec (fieldPath parent name) value
      fun text htext => h text ⟨_, List.mem_cons_self, htext⟩
    have hrest := fieldViolations_congr rest parent members
      fun text ⟨field, hfield, htext⟩ => h text ⟨field, List.mem_cons_of_mem _ hfield, htext⟩
    rw [fieldViolations_cons, fieldViolations_cons, faults_congr hspec, hrest]

end

/-! ## What a part breaks by itself -/

/-- what a value breaks at a path, by the patterns of its position -/
def ownViolations (path : String) (spec : Spec) (value : Json) : List Violation := spec.violations spec.table path value

/-- what a member, or its absence, breaks as a field at a path -/
def ownFaults (path : String) (spec : Spec) (member : Option Json) : List Violation := spec.faults spec.table path member

def ownItemFaults (path : String) (element : Spec) (item : Json) : List Violation :=
  if item.isNull then [] else element.ownViolations path item

variable {table : PatternTable}

theorem violations_eq_own {spec : Spec} (h : table.Covers spec) (path : String) (value : Json) :
    spec.violations table path value = spec.ownViolations path value := by
  apply violations_congr
  intro text htext
  rw [h text htext, PatternTable.covers_table spec text htext]

theorem faults_eq_own {spec : Spec} (h : table.Covers spec) (path : String) (member : Option Json) :
    spec.faults table path member = spec.ownFaults path member :=
  faults_congr (violations_eq_own h path) member

/-- a value that counts breaks as a field what it breaks by itself -/
theorem ownFaults_value {spec : Spec} {member : Option Json} {value : Json} (h : spec.given member = .value value)
    (path : String) : spec.ownFaults path member = spec.ownViolations path value := by
  rw [ownFaults, faults, h, ownViolations]

/-- the absence of a member is a fault just where the member is required -/
theorem ownFaults_absent (spec : Spec) (place : String) : spec.ownFaults place none ≠ [] ↔ spec.rules.required = true := by
  cases h : spec.rules.required <;> simp [ownFaults, faults, given, h]

/-- and so is null -/
theorem ownFaults_null (spec : Spec) (place : String) :
    spec.ownFaults place (some .null) ≠ [] ↔ spec.rules.required = true := by
  cases h : spec.rules.required <;> simp [ownFaults, faults, given, h]

/-- **The violations of an object are those of its fields, in order.** -/
theorem ownViolations_object (path : String) (rules : Rules) (fields : List (String × Spec)) (members : Members) :
    (object rules fields).ownViolations path (.object members)
      = fields.flatMap fun field => field.2.ownFaults (fieldPath path field.1) (members.lookup field.1) := by
  rw [ownViolations, violations, fieldViolations_eq]
  apply List.flatMap_congr
  intro field hfield
  exact faults_eq_own ((PatternTable.covers_table _).field hfield) _ _

/-- **The violations of an array are those of its items, in order.** -/
theorem ownViolations_array (path : String) (rules : Rules) (element : Spec) (items : List Json) :
    (array rules element).ownViolations path (.array items)
      = items.zipIdx.flatMap fun item => element.ownItemFaults (itemPath path item.2) item.1 := by
  rw [ownViolations, violations, List.flatMap_def]
  simp only [violations_eq_own (PatternTable.covers_table (array rules element)).element]
  rfl

/-! ## Values that differ in one part -/

/-- **Two values at a path differ in one part.** The part is a field, an item, or lies further inside of one; everything
that is declared around it is the same on both sides. The two lists are what the part breaks by itself on either side. -/
inductive Differ : Spec → String → Json → Json → List Violation → List Violation → Prop
  | field {rules : Rules} {before after : List (String × Spec)} {name : String} {spec : Spec} {path : String}
    {a b : Members} :
    (∀ other ∈ before ++ after, a.lookup other.1 = b.lookup other.1) →
      Differ (.object rules (before ++ (name, spec) :: after)) path (.object a) (.object b)
        (spec.ownFaults (fieldPath path name) (a.lookup name)) (spec.ownFaults (fieldPath path name) (b.lookup name))
  | item {rules : Rules} {element : Spec} {path : String} {before after : List Json} {a b : Json} :
    Differ (.array rules element) path (.array (before ++ a :: after)) (.array (before ++ b :: after))
      (element.ownItemFaults (itemPath path before.length) a) (element.ownItemFaults (itemPath path before.length) b)
  | inField {rules : Rules} {before after : List (String × Spec)} {name : String} {spec : Spec} {path : String}
    {a b : Members} {x y : Json} {left right : List Violation} :
    (∀ other ∈ before ++ after, a.lookup other.1 = b.lookup other.1) → a.lookup name = some x → b.lookup name = some y →
      Differ spec (fieldPath path name) x y left right →
        Differ (.object rules (before ++ (name, spec) :: after)) path (.object a) (.object b) left right
  | inItem {rules : Rules} {element : Spec} {path : String} {before after : List Json} {x y : Json}
    {left right : List Violation} :
    Differ element (itemPath path before.length) x y left right →
      Differ (.array rules element) path (.array (before ++ x :: after)) (.array (before ++ y :: after)) left right

/-- fields around one whose members are the same on both sides break the same rules around those of that one -/
theorem ownViolations_around {before after : List (String × Spec)} {a b : Members}
    (h : ∀ other ∈ before ++ after, a.lookup other.1 = b.lookup other.1) (rules : Rules) (name : String) (spec : Spec)
    (path : String) :
    ∃ first last, ∀ members ∈ [a, b], (object rules (before ++ (name, spec) :: after)).ownViolations path (.object members)
      = first ++ spec.ownFaults (fieldPath path name) (members.lookup name) ++ last := by
  have hside : ∀ fields, fields ⊆ before ++ after → ∀ members ∈ [a, b],
      (fields.flatMap fun field => field.2.ownFaults (fieldPath path field.1) (members.lookup field.1))
        = fields.flatMap fun field => field.2.ownFaults (fieldPath path field.1) (a.lookup field.1) := by
    intro fields hfields members hmembers
    apply List.flatMap_congr
    intro field hfield
    have hsame := h field (hfields hfield)
    rcases List.mem_pair.1 hmembers with rfl | rfl
    · rfl
    · rw [hsame]
  refine ⟨before.flatMap fun field => field.2.ownFaults (fieldPath path field.1) (a.lookup field.1),
    after.flatMap fun field => field.2.ownFaults (fieldPath path field.1) (a.lookup field.1), ?_⟩
  intro members hmembers
  rw [ownViolations_object, List.flatMap_append, List.flatMap_cons, ← List.append_assoc,
    hside before (List.subset_append_left _ _) members hmembers, hside after (List.subset_append_right _ _) members hmembers]

/-- items around one break the same rules, whatever that one is -/
theorem ownViolations_between (rules : Rules) (element : Spec) (path : String) (before after : List Json) :
    ∃ first last, ∀ item, (array rules element).ownViolations path (.array (before ++ item :: after))
      = first ++ element.ownItemFaults (itemPath path before.length) item ++ last := by
  refine ⟨before.zipIdx.flatMap fun item => element.ownItemFaults (itemPath path item.2) item.1,
    (after.zipIdx (before.length + 1)).flatMap fun item => element.ownItemFaults (itemPath path item.2) item.1, ?_⟩
  intro item
  rw [ownViolations_array, List.zipIdx_append, List.zipIdx_cons, List.flatMap_append, List.flatMap_cons,
    ← List.append_assoc, Nat.zero_add]

namespace Differ

variable {spec : Spec} {path : String} {a b : Json} {left right : List Violation}

theorem given (h : Differ spec path a b left right) (field : Spec) :
    field.given (some a) = .value a ∧ field.given (some b) = .value b := by
  cases h <;> exact ⟨rfl, rfl⟩

theorem isNull (h : Differ spec path a b left right) : a.isNull = false ∧ b.isNull = false := by
  cases h <;> exact ⟨rfl, rfl⟩

theorem of_object {rules : Rules} {fields : List (String × Spec)} (hspec : spec = .object rules fields)
    (h : Differ spec path a b left right) : (∃ members, a = .object members) ∧ ∃ members, b = .object members := by
  cases h with
  | field => exact ⟨⟨_, rfl⟩, _, rfl⟩
  | inField => exact ⟨⟨_, rfl⟩, _, rfl⟩
  | _ => simp at hspec

/-- **What is broken elsewhere stays as it is, in its place.** -/
theorem ownViolations_eq (h : Differ spec path a b left right) :
    ∃ before after, spec.ownViolations path a = before ++ left ++ after ∧
      spec.ownViolations path b = before ++ right ++ after := by
  induction h with
  | @field rules before after name spec path a b hothers =>
    obtain ⟨first, last, haround⟩ := ownViolations_around hothers rules name spec path
    exact ⟨first, last, haround a (by simp), haround b (by simp)⟩
  | @item rules element path before after a b =>
    obtain ⟨first, last, hbetween⟩ := ownViolations_between rules element path before after
    exact ⟨first, last, hbetween a, hbetween b⟩
  | @inField rules before after name spec path a b x y left right hothers hx hy hinner ih =>
    obtain ⟨first, last, haround⟩ := ownViolations_around hothers rules name spec path
    obtain ⟨inner, outer, hleft, hright⟩ := ih
    refine ⟨first ++ inner, outer ++ last, ?_, ?_⟩
    · rw [haround a (by simp), hx, ownFaults_value (hinner.given spec).1, hleft]
      simp
    · rw [haround b (by simp), hy, ownFaults_value (hinner.given spec).2, hright]
      simp
  | @inItem rules element path before after x y left right hinner ih =>
    obtain ⟨first, last, hbetween⟩ := ownViolations_between rules element path before after
    obtain ⟨inner, outer, hleft, hright⟩ := ih
    refine ⟨first ++ inner, outer ++ last, ?_, ?_⟩
    · rw [hbetween, ownItemFaults, hinner.isNull.1, hleft]
      simp
    · rw [hbetween, ownItemFaults, hinner.isNull.2, hright]
      simp

end Differ

end Spec

/-! ## Documents -/

namespace Collection

open Spec

/-- all that is broken in a document, in the order in which it is reported -/
def rejections (model : Collection) (document : Json) : List Violation :=
  match model.validate document with
  | .ok _ => []
  | .error violations => violations

theorem rejections_eq {model : Collection} {schema : Schema} {patterns : PatternTable} {document : Json}
    (h : model.validate document = schema.validate patterns document) :
    model.rejections document = schema.violations patterns document := by
  rw [rejections, h, Schema.validate]
  cases schema.violations patterns document <;> rfl

theorem rejections_eq_nil_iff {model : Collection} {document : Json} :
    model.rejections document = [] ↔ ∃ stored, model.validate document = .ok stored := by
  rw [rejections_eq rfl, validate, Schema.validate]
  cases model.schema.violations model.patterns document <;> simp

/-- in every state of a registered model, what is reported of an object document is one list for each field -/
theorem rejections_object {registry next : Registry} {entity : String} {schema : Schema} {indexes : List Index}
    {model : Collection} (h : registry.register entity schema indexes = .ok (next, model)) (inputs : List Input)
    (members : Members) :
    (model.insertAll inputs).rejections (.object members)
      = schema.fields.flatMap fun field => field.2.ownFaults field.1 (members.lookup field.1) := by
  obtain ⟨hpatterns, hvalidate⟩ := validate_of_register h
  rw [rejections_eq (hvalidate inputs _), Schema.violations, fieldViolations_eq]
  apply List.flatMap_congr
  intro field hfield
  exact faults_eq_own (PatternTable.covers_field hpatterns hfield) _ _

/-- **Everything that is broken is reported, each part by itself.** In every state of a registered model:
- what is reported of an object document is one list for each field in the order of the schema, and the list of a field is
  made of its specification, its name and its member;
- the pass over the document adds just that to whatever has been found before;
- so a document is accepted if and only if no field breaks anything by itself;
- a member that counts breaks what its value breaks; an object inside breaks in turn one list for each of its fields in
  order, and an array one for each of its items by index, null left out;
- where two documents differ in one part, at any depth, what is reported around that part is the same. -/
theorem violations_by_part {registry next : Registry} {entity : String} {schema : Schema} {indexes : List Index}
    {model : Collection} (h : registry.register entity schema indexes = .ok (next, model)) (inputs : List Input) :
    (∀ members, (model.insertAll inputs).rejections (.object members)
      = schema.fields.flatMap fun field => field.2.ownFaults field.1 (members.lookup field.1)) ∧
    (∀ members found, ((schema.check model.patterns (.object members)).run found).2
      = found ++ (model.insertAll inputs).rejections (.object members)) ∧
    (∀ members, (∃ stored, (model.insertAll inputs).validate (.object members) = .ok stored) ↔
      ∀ field ∈ schema.fields, field.2.ownFaults field.1 (members.lookup field.1) = []) ∧
    (∀ (spec : Spec) path member value, spec.given member = .value value →
      spec.ownFaults path member = spec.ownViolations path value) ∧
    (∀ rules fields path members, (object rules fields).ownViolations path (.object members)
      = fields.flatMap fun field => field.2.ownFaults (fieldPath path field.1) (members.lookup field.1)) ∧
    (∀ rules element path items, (array rules element).ownViolations path (.array items)
      = items.zipIdx.flatMap fun item =>
          if item.1.isNull then [] else element.ownViolations (itemPath path item.2) item.1) ∧
    ∀ a b left right, Differ schema.root "" a b left right →
      ∃ before after, (model.insertAll inputs).rejections a = before ++ left ++ after ∧
        (model.insertAll inputs).rejections b = before ++ right ++ after := by
  have hfields := rejections_object h inputs
  have hroot : ∀ members, (model.insertAll inputs).rejections (.object members)
      = schema.root.ownViolations "" (.object members) := by
    intro members
    rw [Schema.root, ownViolations_object, hfields]
    rfl
  refine ⟨hfields, ?_, ?_, ?_, ?_, ?_, ?_⟩
  · intro members found
    rw [Schema.run_check, rejections_eq ((validate_of_register h).2 inputs _)]
  · intro members
    rw [← rejections_eq_nil_iff, hfields, List.flatMap_eq_nil_iff]
  · exact fun spec path member value hvalue => ownFaults_value hvalue path
  · exact fun rules fields path members => ownViolations_object path rules fields members
  · exact fun rules element path items => ownViolations_array path rules element items
  · intro a b left right hdiffer
    obtain ⟨⟨x, rfl⟩, y, rfl⟩ := hdiffer.of_object rfl
    rw [hroot, hroot]
    exact hdiffer.ownViolations_eq

/-! ## A repaired chapter -/

/-- a title is missing, and so are the heading of one chapter and the pages of another -/
def brokenVolume : Members :=
  [("chapters", .array [.object [("pages", .number (.int 3))], .object [("heading", .string "B")]])]

/-- the same with the heading in its place -/
def repairedVolume : Members :=
  [("chapters", .array [.object [("heading", .string "A"), ("pages", .number (.int 3))], .object [("heading", .string "B")]])]

/-- the repaired heading is no longer reported, and the rest is, as before -/
theorem heading_repaired :
    Registry.register { timestamps := false } "volumes" volumeSchema []
        = .ok ({ timestamps := false, models := [volumeModel] }, volumeModel) ∧
      ∃ before after, volumeModel.rejections (.object brokenVolume) = before ++ [⟨"chapters.0.heading", .missing⟩] ++ after ∧
        volumeModel.rejections (.object repairedVolume) = before ++ [] ++ after := by
  have hregister : Registry.register { timestamps := false } "volumes" volumeSchema []
      = .ok ({ timestamps := false, models := [volumeModel] }, volumeModel) := rfl
  refine ⟨hregister, ?_⟩
  obtain ⟨-, -, -, -, -, -, hdiffer⟩ := violations_by_part hregister []
  apply hdiffer (.object brokenVolume) (.object repairedVolume)
  -- from the chapters to the first of them, and to its heading
  have hothers : ∀ other ∈ [("title", Spec.leaf { required := true } .string)] ++ [],
      brokenVolume.lookup other.1 = repairedVolume.lookup other.1 := by
    simp [brokenVolume, repairedVolume, List.lookup_cons]
  refine .inField hothers rfl rfl (@Differ.inItem _ _ _ [] _ _ _ _ _ ?_)
  refine @Differ.field _ [] _ "heading" _ _ _ _ ?_
  simp [List.lookup_cons]

end Collection

end DocumentModels
