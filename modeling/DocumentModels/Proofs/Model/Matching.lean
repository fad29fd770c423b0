/-
Declared patterns are compiled, and strings are matched against them.

One walk over a schema compiles its patterns into a table, and another goes through schema and document side by side and
looks patterns up by their text. A text that is not in the table would let every string pass.
- `lookup_of_declares`: the table of a schema has the pattern of every position, compiled from its text.
- `Field.string_of_pattern`: in a schema that comes from an entity, patterns stand at strings only.
- `Spec.Checks`: validation of a document comes to a value, at a position of the schema.
- `Checks.isInfix`: what is broken there is reported in one stretch, by induction on the way.
- `mismatch_mem_iff`: a string is reported not to match just when it does not, if its pattern is in the table.
- `patterns_matched`: all of this for the registered models, in every later state.
-/
import Mathlib.Tactic
import DocumentModels.Proofs.Model.Locality
import DocumentModels.Proofs.Schema.Findings

namespace DocumentModels

/-! ## The table -/

/-- **The pattern of every position is in the table of its schema,** compiled from its text. -/
theorem PatternTable.lookup_of_declares {schema : Schema} {table : PatternTable} (h : ofSchema schema = .ok table)
    {text : String} (htext : schema.root.Declares text) :
    ∃ expr, Pattern.parse? text = some expr ∧ table.lookup text = some expr := by
  rw [Schema.root, Spec.declares_object] at htext
  rcases htext with hroot | hfields
  · cases hroot
  · obtain ⟨place, hplace⟩ := (Spec.mem_fieldPatterns text schema.fields "").2 hfields
    exact ofSchema_holds h _ hplace

/-- the schema of an entity has patterns at strings only -/
theorem Field.string_of_pattern {steps : List Step} {field : Field} {part : Spec} {text : String}
    (hpart : field.spec.at? steps = some part) (htext : part.rules.pattern = some text) :
    ∃ rules, part = .leaf rules .string := by
  induction steps generalizing field with
  | nil =>
    cases hpart
    cases field with
    | leaf modifiers l =>
      rw [spec] at htext ⊢
      cases l with
      | string rules => exact ⟨_, rfl⟩
      | _ => cases htext
    | _ => simp [spec, Spec.rules, Modifiers.rules] at htext
  | cons step steps ih =>
    cases field with
    | leaf modifiers l =>
      obtain ⟨rules, type, hleaf⟩ := Node.leaf_of_spec l modifiers.rules
      rw [spec, hleaf] at hpart
      cases step <;> cases hpart
    | union modifiers options => cases step <;> simp [spec, Spec.at?] at hpart
    | array modifiers element =>
      cases step with
      | field index => simp [spec, Spec.at?] at hpart
      | element =>
        rw [spec, Spec.at?] at hpart
        exact ih hpart
    | object modifiers fields =>
      cases step with
      | element => simp [spec, Spec.at?] at hpart
      | field index =>
        rw [spec, specs_eq, Spec.at?, List.getElem?_map] at hpart
        obtain ⟨_, hnamed, hrest⟩ := Option.bind_eq_some_iff.1 hpart
        obtain ⟨named, -, rfl⟩ := Option.map_eq_some_iff.1 hnamed
        exact ih hrest

/-! ## Values that are checked -/

namespace Spec

/-- **Validation of a value at a path comes to a value inside,** along steps of the specification: to what counts as the
member of a field, or to an item that is not null. -/
inductive Checks : Spec → String → Json → List Step → Spec → String → Json → Prop
  | here {spec : Spec} {path : String} {value : Json} : Checks spec path value [] spec path value
  | field {rules : Rules} {fields : List (String × Spec)} {path place : String} {members : Members} {index : ℕ}
    {named : String × Spec} {value inner : Json} {steps : List Step} {part : Spec} :
    fields[index]? = some named → named.2.given (members.lookup named.1) = .value value →
      Checks named.2 (fieldPath path named.1) value steps part place inner →
        Checks (.object rules fields) path (.object members) (.field index :: steps) part place inner
  | item {rules : Rules} {element : Spec} {path place : String} {items : List Json} {index : ℕ} {value inner : Json}
    {steps : List Step} {part : Spec} :
    items[index]? = some value → value.isNull = false →
      Checks element (itemPath path index) value steps part place inner →
        Checks (.array rules element) path (.array items) (.element :: steps) part place inner

namespace Checks

variable {spec part : Spec} {path place : String} {value inner : Json} {steps : List Step}

/-- **What a value that is checked breaks is reported in one stretch.** -/
theorem isInfix (table : PatternTable) (h : Checks spec path value steps part place inner) :
    part.violations table place inner <:+: spec.violations table path value := by
  induction h with
  | here => exact List.infix_rfl
  | @field rules fields path place members index named value inner steps part hnamed hgiven hrest ih =>
    have hfaults : named.2.faults table (fieldPath path named.1) (members.lookup named.1)
        = named.2.violations table (fieldPath path named.1) value := by
      rw [faults, hgiven]
    have hmember : named.2.faults table (fieldPath path named.1) (members.lookup named.1)
        ∈ fields.map fun field => field.2.faults table (fieldPath path field.1) (members.lookup field.1) :=
      List.mem_map_of_mem (List.mem_of_getElem? hnamed)
    rw [violations, fieldViolations_eq, List.flatMap_def]
    rw [hfaults] at hmember
    exact ih.trans (List.infix_of_mem_flatten hmember)
  | @item rules element path place items index value inner steps part hitem hnull hrest ih =>
    have hmem : (value, index) ∈ items.zipIdx := List.mem_zipIdx_iff_getElem?.2 hitem
    have hlist := List.mem_map_of_mem (f := fun item : Json × ℕ =>
      if item.1.isNull then [] else violations table (itemPath path item.2) element item.1) hmem
    simp only [hnull, Bool.false_eq_true, if_false] at hlist
    rw [violations]
    exact ih.trans (List.infix_of_mem_flatten hlist)

end Checks

/-- **A string is matched against the pattern of its position,** if the pattern is in the table. -/
theorem mismatch_mem_iff {table : PatternTable} {rules : Rules} {text : String} {expr : Pattern.Syntax}
    (htext : rules.pattern = some text) (htable : table.lookup text = some expr) (place s : String) :
    ⟨place, .mismatch text⟩ ∈ (leaf rules .string).violations table place (.string s) ↔ expr.isMatch s = false := by
  have hother : Breach.mismatch text ∉ rules.enumBreaches (.string s) := by
    unfold Rules.enumBreaches
    cases rules.enumValues with
    | none => simp
    | some values => cases h : (Json.string s).isIn values <;> simp [h]
  simp only [violations, Rules.leafBreaches, Rules.stringBreaches, htext, List.mem_map, List.mem_append, Option.mem_toList,
    Option.map_eq_some_iff, Violation.mk.injEq, true_and, exists_eq_right]
  simp [hother, htable, Option.filter]

end Spec

/-! ## Registered models -/

namespace Collection

/-- **No pattern goes unmatched.** In the schema of a registered model, take any position with a pattern, at any depth:
- the text of the pattern compiles, and in every later state the table of the model has under this text what it compiles to;
- every string that is checked against the position is matched against that: it is reported not to match, at its path, just
  when it does not, and this is part of what is reported of the document;
- if the schema comes from an entity, the position takes strings, so nothing else passes by its pattern. -/
theorem patterns_matched {registry next : Registry} {entity : String} {schema : Schema} {indexes : List Index}
    {model : Collection} (h : registry.register entity schema indexes = .ok (next, model)) {steps : List Step} {part : Spec}
    {text : String} (hpart : schema.root.at? steps = some part) (htext : part.rules.pattern = some text) :
    (∃ expr, Pattern.parse? text = some expr ∧ ∀ inputs : List Input,
      (model.insertAll inputs).patterns.lookup text = some expr ∧
      ∀ rules document place s, part = .leaf rules .string →
        schema.root.Checks "" document steps part place (.string s) →
          (⟨place, .mismatch text⟩ ∈ part.violations (model.insertAll inputs).patterns place (.string s) ↔
            expr.isMatch s = false) ∧
          part.violations (model.insertAll inputs).patterns place (.string s)
            <:+: (model.insertAll inputs).rejections document) ∧
    ∀ source : Entity, schema = source.translate.schema → ∃ rules, part = .leaf rules .string := by
  obtain ⟨hpatterns, hvalidate⟩ := validate_of_register h
  obtain ⟨expr, hparse, hlookup⟩ := PatternTable.lookup_of_declares hpatterns ⟨steps, part, hpart, htext⟩
  refine ⟨⟨expr, hparse, ?_⟩, ?_⟩
  · intro inputs
    have htable : (model.insertAll inputs).patterns = model.patterns := (insertAll_config model inputs).2.2.2
    rw [htable]
    refine ⟨hlookup, ?_⟩
    rintro rules document place s rfl hchecks
    refine ⟨Spec.mismatch_mem_iff htext hlookup place s, ?_⟩
    rw [rejections_eq (hvalidate inputs document)]
    -- the way to a string starts with a field
    have hdocument : ∃ members, document = .object members := by
      cases hchecks with
      | field => exact ⟨_, rfl⟩
    obtain ⟨members, rfl⟩ := hdocument
    exact hchecks.isInfix model.patterns
  · rintro source rfl
    have hroot : source.root.spec.at? steps = some part := hpart
    exact Field.string_of_pattern hroot htext

/-! ## A pattern inside the objects of an array -/

/-- parts with a code each, and a code of the whole with the same pattern -/
def kitEntity : Entity :=
  ⟨"kits", [("code", .leaf { optional := true } (.string { pattern := some "^[A-Z]+$" })),
    ("parts", .array {} (.object {} [("code", .leaf {} (.string { pattern := some "^[A-Z]+$" }))]))]⟩

/-- the second part has a code that does not match -/
def looseKit : Json :=
  .object [("parts", .array [.object [("code", .string "AB")], .object [("code", .string "b1")]])]

/-- the code of a part is matched, after any run -/
theorem kit_matched :
    ∃ next model, Registry.register {} "kits" kitEntity.translate.schema [] = .ok (next, model) ∧
      ∀ inputs, ⟨"parts.1.code", .mismatch "^[A-Z]+$"⟩ ∈ (model.insertAll inputs).rejections looseKit := by
  have hcompile : ∀ item ∈ Spec.fieldPatterns "" kitEntity.translate.schema.fields, Pattern.parse? item.2 ≠ none := by
    have hparse : Pattern.parse? "^[A-Z]+$" ≠ none := by decide +kernel
    simpa [kitEntity, Entity.translate, Entity.schema, Field.specs, Field.spec, Leaf.spec, Spec.fieldPatterns, Spec.patterns,
      Modifiers.rules] using hparse
  have hregistrable : ∃ next model, Registry.register {} "kits" kitEntity.translate.schema [] = .ok (next, model) := by
    refine Registry.registrable_iff.2 ⟨by simp [Registry.names], ?_, by simp⟩
    rw [Schema.patternFails_iff]
    rintro ⟨item, hitem, hfails⟩
    exact hcompile item hitem hfails
  obtain ⟨next, model, hregister⟩ := hregistrable
  refine ⟨next, model, hregister, ?_⟩
  intro inputs
  have hpart : kitEntity.translate.schema.root.at? [.field 1, .element, .field 0]
      = some (.leaf { required := true, pattern := some "^[A-Z]+$" } .string) := rfl
  obtain ⟨⟨expr, hparse, hstates⟩, -⟩ := patterns_matched hregister hpart rfl
  obtain ⟨-, hmatched⟩ := hstates inputs
  have hchecks : kitEntity.translate.schema.root.Checks "" looseKit [.field 1, .element, .field 0]
      (.leaf { required := true, pattern := some "^[A-Z]+$" } .string) "parts.1.code" (.string "b1") :=
    .field rfl rfl (@Spec.Checks.item _ _ _ _ _ 1 _ _ _ _ rfl rfl (.field rfl rfl .here))
  obtain ⟨hiff, hreported⟩ := hmatched _ looseKit "parts.1.code" "b1" rfl hchecks
  have hfails : (Pattern.parse? "^[A-Z]+$").map (·.isMatch "b1") = some false := by decide +kernel
  rw [hparse, Option.map_some, Option.some.injEq] at hfails
  exact hreported.subset (hiff.2 hfails)

end Collection

end DocumentModels
