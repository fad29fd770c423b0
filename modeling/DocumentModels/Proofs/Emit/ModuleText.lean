/-
Emission loses nothing: a module's text tells the fields of its schema.

- `Spec.written`: what a module shows of a position. A pattern counts as its regular expression, and of an array's
  element it is not shown what fills a missing value.
- `Spec.Readable`: what translation guarantees (`Field.readable_spec`), with closed patterns.
- `typeText_cut`, `elementText_cut`, `fieldLines_cut`: the parts of a schema are cut off the front of a text, by
  induction on the schema. The first characters tell kinds apart, except for an element with options and an element that
  is an object: both may begin with a brace and a line feed (`elementOptions_ne_braces`).
- `fieldText_congr`: nothing but `written` is shown.
- `moduleText_tells_fields`: the two together.
-/
import Mathlib.Tactic
import DocumentModels.Model.Collection
import DocumentModels.Proofs.Emit.Options
import DocumentModels.Schema.Translation

namespace DocumentModels

open Emit

/-! ## What is shown of a position -/

namespace Spec

def withRules (rules : Rules) : Spec → Spec
  | .leaf _ type => .leaf rules type
  | .array _ element => .array rules element
  | .object _ fields => .object rules fields

/-- the position without what is said of a missing value -/
def unmodified (spec : Spec) : Spec := spec.withRules spec.rules.unmodified

@[simp] theorem unmodified_leaf (rules : Rules) (type : BaseType) :
    (Spec.leaf rules type).unmodified = .leaf rules.unmodified type := rfl

@[simp] theorem unmodified_array (rules : Rules) (element : Spec) :
    (Spec.array rules element).unmodified = .array rules.unmodified element := rfl

@[simp] theorem unmodified_object (rules : Rules) (fields : List (String × Spec)) :
    (Spec.object rules fields).unmodified = .object rules.unmodified fields := rfl

mutual

/-- a position as a module shows it -/
def written : Spec → Spec
  | .leaf rules type => .leaf rules.written type
  | .array rules element => .array rules.written element.written.unmodified
  | .object rules fields => .object rules.written (writtenFields fields)

def writtenFields : List (String × Spec) → List (String × Spec)
  | [] => []
  | (name, spec) :: rest => (name, spec.written) :: writtenFields rest

end

theorem rules_written (spec : Spec) : spec.written.rules = spec.rules.written := by
  cases spec <;> simp [written, rules]

theorem eq_of_withRules {a b : Spec} (hrules : a.rules = b.rules)
    (h : ∀ rules, a.withRules rules = b.withRules rules) : a = b := by
  have hself : ∀ spec : Spec, spec.withRules spec.rules = spec := by
    intro spec
    cases spec <;> rfl
  rw [← hself a, ← hself b, ← hrules, h]

mutual

/-- patterns are closed, and arrays and objects have no rules on values -/
def Readable : Spec → Prop
  | .leaf rules _ => PatternClosed rules
  | .array rules element => isBare rules = true ∧ element.Readable
  | .object rules fields => isBare rules = true ∧ ReadableFields fields

def ReadableFields : List (String × Spec) → Prop
  | [] => True
  | (_, spec) :: rest => spec.Readable ∧ ReadableFields rest

end

theorem isBare_iff {rules : Rules} : isBare rules = true ↔ present (constraintTable rules) = [] := by
  rw [isBare, constraintOptions_eq, List.isEmpty_iff, List.map_eq_nil_iff]

/-- where no rule on values is declared, nothing but what is said of a missing value tells rules apart -/
theorem written_of_isBare {a b : Rules} (ha : isBare a = true) (hb : isBare b = true) :
    a.written.unmodified = b.written.unmodified :=
  unmodified_of_constraints ((isBare_iff.1 ha).trans (isBare_iff.1 hb).symm)

theorem patternClosed_of_readable {spec : Spec} (h : spec.Readable) : PatternClosed spec.rules := by
  have hbare : ∀ {rules : Rules}, isBare rules = true → PatternClosed rules := by
    intro rules hrules pattern hpattern
    have hmem : ("match", Argument.regex (regexLiteral pattern)) ∈ present (constraintTable rules) := by
      rw [mem_present]
      simp [constraintTable, Option.mem_def.1 hpattern]
    rw [isBare_iff.1 hrules] at hmem
    cases hmem
  cases spec with
  | leaf rules type => exact h
  | array rules element => exact hbare h.1
  | object rules fields => exact hbare h.1

end Spec

namespace Leaf

theorem spec_eq_leaf (rules : Rules) (l : Leaf) : ∃ ruled type, l.spec rules = .leaf ruled type := by
  cases l <;> exact ⟨_, _, rfl⟩

end Leaf

namespace Field

theorem isBare_modifiers (modifiers : Modifiers) : isBare modifiers.rules = true := rfl

mutual

/-- translation declares readable positions, if the patterns are closed -/
theorem readable_spec : ∀ (field : Field) (path : String),
    (∀ item ∈ field.spec.patterns path, endsLoose item.2.toList = false) → field.spec.Readable
  | .leaf modifiers l, path, h => by
    obtain ⟨ruled, type, hspec⟩ := l.spec_eq_leaf modifiers.rules
    rw [spec, hspec, Spec.patterns] at h
    rw [spec, hspec, Spec.Readable]
    intro pattern hpattern
    apply h (path, pattern)
    rw [Option.mem_def.1 hpattern]
    exact List.mem_singleton.2 rfl
  | .array modifiers element, path, h => by
    rw [spec, Spec.patterns] at h
    rw [spec, Spec.Readable]
    exact ⟨isBare_modifiers modifiers, readable_spec element _ fun item hitem => h item (List.mem_append_right _ hitem)⟩
  | .object modifiers fields, path, h => by
    rw [spec, Spec.patterns] at h
    rw [spec, Spec.Readable]
    exact ⟨isBare_modifiers modifiers, readable_specs fields _ fun item hitem => h item (List.mem_append_right _ hitem)⟩
  | .union modifiers options, path, h => by
    rw [spec, Spec.Readable]
    intro pattern hpattern
    cases hpattern

theorem readable_specs : ∀ (fields : List (String × Field)) (parent : String),
    (∀ item ∈ Spec.fieldPatterns parent (specs fields), endsLoose item.2.toList = false) →
      Spec.ReadableFields (specs fields)
  | [], _, _ => trivial
  | (name, field) :: rest, parent, h => by
    rw [specs, Spec.fieldPatterns] at h
    rw [specs, Spec.ReadableFields]
    exact ⟨readable_spec field _ fun item hitem => h item (List.mem_append_left _ hitem),
      readable_specs rest parent fun item hitem => h item (List.mem_append_right _ hitem)⟩

end

end Field

namespace Emit

/-! ## Types -/

/-- the type of a field whose key stands at a depth -/
def typeText (depth : Nat) : Spec → String
  | .leaf _ type => type.expression
  | .array _ element => "[" ++ elementText (depth + 1) element ++ "]"
  | .object _ fields => braces (depth + 2) (fieldLines (depth + 2) fields)

def fieldChoices (rules : Rules) : List Choice := present (constraintTable rules) ++ present (modifierTable rules)

theorem fieldText_eq (depth : Nat) (spec : Spec) :
    fieldText depth spec
      = optionsText depth (("type: " ++ typeText depth spec) :: (fieldChoices spec.rules).map optionText) := by
  cases spec <;>
    simp [fieldText, typeText, fieldOptions, fieldChoices, constraintOptions_eq, modifierOptions_eq, Spec.rules]

theorem elementOptions_eq (depth : Nat) (rules : Rules) (type : String) :
    elementOptions depth rules type
      = optionsText depth (("type: " ++ type) :: (present (constraintTable rules)).map optionText) := by
  rw [elementOptions, constraintOptions_eq]

theorem expression_first (type : BaseType) :
    ∃ c rest, type.expression.toList = c :: rest ∧ c ≠ '[' ∧ c ≠ '\x7b' := by
  cases type <;> exact ⟨_, _, rfl, by decide, by decide⟩

theorem expression_heads {type other : BaseType}
    (h : type.expression.toList.head? = other.expression.toList.head?) : type = other := by
  revert h
  cases type <;> cases other <;> decide

theorem expression_cut {type other : BaseType} {r s : List Char}
    (h : type.expression.toList ++ r = other.expression.toList ++ s) : type = other ∧ r = s := by
  obtain ⟨c, t, hc, -⟩ := expression_first type
  obtain ⟨d, u, hd, -⟩ := expression_first other
  have hheads : type.expression.toList.head? = other.expression.toList.head? := by
    rw [hc, hd, List.cons_append, List.cons_append] at h
    rw [hc, hd, List.head?_cons, List.head?_cons, (List.cons.inj h).1]
  obtain rfl := expression_heads hheads
  exact ⟨rfl, List.append_cancel_left h⟩

/-- the bracket or brace that a position's type begins with -/
def opening? : Spec → Option Char
  | .leaf _ _ => none
  | .array _ _ => some '['
  | .object _ _ => some '\x7b'

/-- a character, if it is a bracket or a brace -/
def opening (c : Char) : Option Char := if c = '[' ∨ c = '\x7b' then some c else none

theorem typeText_first (depth : Nat) (spec : Spec) :
    ∃ c rest, (typeText depth spec).toList = c :: rest ∧ opening c = opening? spec := by
  cases spec with
  | leaf rules type =>
    obtain ⟨c, rest, hc, hbracket, hbrace⟩ := expression_first type
    exact ⟨c, rest, hc, by simp [opening, opening?, hbracket, hbrace]⟩
  | array rules element => exact ⟨'[', _, by simp [typeText]; rfl, rfl⟩
  | object rules fields => exact ⟨'\x7b', _, by simp [typeText, braces]; rfl, rfl⟩

/-- types whose texts begin alike begin with the same bracket or brace -/
theorem opening_of_typeText {depth : Nat} {a b : Spec} {r s : List Char}
    (h : (typeText depth a).toList ++ r = (typeText depth b).toList ++ s) : opening? a = opening? b := by
  obtain ⟨c, t, hc, ha⟩ := typeText_first depth a
  obtain ⟨d, u, hd, hb⟩ := typeText_first depth b
  rw [hc, hd] at h
  rw [← ha, ← hb, (List.cons.inj h).1]

theorem optionsText_first (depth : Nat) (first : String) (options : List Choice) :
    ∃ rest, (optionsText depth (first :: options.map optionText)).toList = '\x7b' :: rest := by
  obtain ⟨spansLines, htext⟩ := toList_optionsText depth first options
  rw [htext]
  cases spansLines <;> exact ⟨_, rfl⟩

theorem toList_braces (depth : Nat) (lines : String) :
    (braces (depth + 1) lines).toList = '\x7b' :: '\n' :: lines.toList ++ ((indent depth).toList ++ ['\x7d']) := by
  simp [braces]

theorem toList_fieldLines (depth : Nat) (name : String) (spec : Spec) (rest : List (String × Spec)) :
    (fieldLines depth ((name, spec) :: rest)).toList
      = (indent depth).toList ++ ((objectKey name).toList ++ ':' :: ' ' :: (fieldText depth spec).toList
        ++ ',' :: '\n' :: (fieldLines depth rest).toList) := by
  simp [fieldLines]

/-- a field's line does not begin like the end of its block -/
theorem fieldLines_ne_closing (depth : Nat) (name : String) (spec : Spec) (rest : List (String × Spec))
    (r s : List Char) :
    (fieldLines (depth + 1) ((name, spec) :: rest)).toList ++ r ≠ (indent depth).toList ++ '\x7d' :: s := by
  intro h
  rw [toList_fieldLines, indent_succ] at h
  simp at h

theorem elementOptions_ne_braces (depth : Nat) (rules : Rules) (type : BaseType) (fields : List (String × Spec))
    (r s : List Char) :
    (elementOptions depth rules type.expression).toList ++ r
      ≠ (braces (depth + 1) (fieldLines (depth + 1) fields)).toList ++ s := by
  intro h
  obtain ⟨spansLines, htext⟩ := toList_optionsText depth ("type: " ++ type.expression) (present (constraintTable rules))
  rw [elementOptions_eq, htext, toList_braces] at h
  cases spansLines with
  | false => simp [layout] at h
  | true =>
    obtain ⟨c, rest, hfirst, -, hbrace⟩ := expression_first type
    simp only [layout, if_true, String.toList_append, List.cons_append, List.append_assoc, List.cons.injEq, true_and] at h
    cases fields with
    | nil => simp [fieldLines, indent_succ] at h
    | cons field fields =>
      obtain ⟨name, spec⟩ := field
      -- the entry would be a field named `type`, and its declaration would begin with a brace
      have htype : "type: ".toList = (objectKey "type").toList ++ [':', ' '] := by decide
      rw [toList_fieldLines, htype] at h
      simp only [List.append_assoc, List.cons_append, List.nil_append] at h
      obtain ⟨-, hrest⟩ := objectKey_cut (List.append_cancel_left h)
      obtain ⟨tail, hopen⟩ := optionsText_first (depth + 1) ("type: " ++ typeText (depth + 1) spec) (fieldChoices spec.rules)
      rw [hfirst, fieldText_eq, hopen] at hrest
      simp only [List.cons_append, List.cons.injEq, true_and] at hrest
      exact hbrace hrest.1

theorem toList_elementText_array {depth : Nat} {rules : Rules} (element : Spec) (h : isBare rules = true) :
    (elementText depth (.array rules element)).toList = '[' :: (elementText depth element).toList ++ [']'] := by
  simp [elementText, h]

theorem leafElement_cases (depth : Nat) (rules : Rules) (type : BaseType) :
    (present (constraintTable rules) = [] ∧ elementText depth (.leaf rules type) = type.expression) ∨
      (present (constraintTable rules) ≠ [] ∧
        elementText depth (.leaf rules type) = elementOptions depth rules type.expression) := by
  by_cases h : isBare rules = true
  · exact Or.inl ⟨Spec.isBare_iff.1 h, by simp [elementText, h]⟩
  · exact Or.inr ⟨fun hnil => h (Spec.isBare_iff.2 hnil), by simp [elementText, h]⟩

theorem leafElement_first (depth : Nat) (rules : Rules) (type : BaseType) :
    ∃ c rest, (elementText depth (.leaf rules type)).toList = c :: rest ∧ c ≠ '[' := by
  rcases leafElement_cases depth rules type with ⟨-, htext⟩ | ⟨-, htext⟩
  · obtain ⟨c, rest, hc, hbracket, -⟩ := expression_first type
    exact ⟨c, rest, by rw [htext, hc], hbracket⟩
  · obtain ⟨rest, hrest⟩ := optionsText_first depth ("type: " ++ type.expression) (present (constraintTable rules))
    exact ⟨'\x7b', rest, by rw [htext, elementOptions_eq, hrest], by decide⟩

theorem leafElement_ne_array (depth : Nat) (rules ruled : Rules) (type : BaseType) (element : Spec)
    (hbare : isBare ruled = true) (r s : List Char) :
    (elementText depth (.leaf rules type)).toList ++ r ≠ (elementText depth (.array ruled element)).toList ++ s := by
  obtain ⟨c, rest, hc, hbracket⟩ := leafElement_first depth rules type
  intro h
  rw [hc, toList_elementText_array element hbare] at h
  exact hbracket (List.cons.inj h).1

theorem leafElement_ne_object (depth : Nat) (rules ruled : Rules) (type : BaseType) (fields : List (String × Spec))
    (r s : List Char) :
    (elementText depth (.leaf rules type)).toList ++ r ≠ (elementText depth (.object ruled fields)).toList ++ s := by
  rcases leafElement_cases depth rules type with ⟨-, htext⟩ | ⟨-, htext⟩
  · obtain ⟨c, rest, hc, -, hbrace⟩ := expression_first type
    intro h
    rw [htext, hc, elementText, toList_braces] at h
    exact hbrace (List.cons.inj h).1
  · rw [htext, elementText]
    exact elementOptions_ne_braces depth rules type fields r s

theorem arrayElement_ne_object (depth : Nat) (rules ruled : Rules) (element : Spec) (fields : List (String × Spec))
    (hbare : isBare rules = true) (r s : List Char) :
    (elementText depth (.array rules element)).toList ++ r ≠ (elementText depth (.object ruled fields)).toList ++ s := by
  intro h
  rw [toList_elementText_array element hbare, elementText, toList_braces] at h
  exact absurd (List.cons.inj h).1 (by decide)

theorem leafElement_cut {depth : Nat} {rules ruled : Rules} {type other : BaseType} (hr : PatternClosed rules)
    (hs : PatternClosed ruled) {r s : List Char}
    (h : (elementText depth (.leaf rules type)).toList ++ r = (elementText depth (.leaf ruled other)).toList ++ s) :
    type = other ∧ rules.written.unmodified = ruled.written.unmodified ∧ r = s := by
  have hclash : ∀ (t u : BaseType) (rules : Rules) (r s : List Char),
      t.expression.toList ++ r ≠ (elementOptions depth rules u.expression).toList ++ s := by
    intro t u rules r s h
    obtain ⟨c, rest, hc, -, hbrace⟩ := expression_first t
    obtain ⟨tail, htail⟩ := optionsText_first depth ("type: " ++ u.expression) (present (constraintTable rules))
    rw [hc, elementOptions_eq, htail] at h
    exact hbrace (List.cons.inj h).1
  rcases leafElement_cases depth rules type with ⟨hleft, htext⟩ | ⟨-, htext⟩
  · rcases leafElement_cases depth ruled other with ⟨hright, htext'⟩ | ⟨-, htext'⟩
    · rw [htext, htext'] at h
      obtain ⟨htype, hrs⟩ := expression_cut h
      exact ⟨htype, unmodified_of_constraints (hleft.trans hright.symm), hrs⟩
    · rw [htext, htext'] at h
      exact absurd h (hclash _ _ _ _ _)
  · rcases leafElement_cases depth ruled other with ⟨-, htext'⟩ | ⟨-, htext'⟩
    · rw [htext, htext'] at h
      exact absurd h.symm (hclash _ _ _ _ _)
    · rw [htext, htext', elementOptions_eq, elementOptions_eq] at h
      obtain ⟨htype, hchoices, hrs⟩ :=
        optionsText_cut expression_cut (readable_constraints hr) (readable_constraints hs) h
      exact ⟨htype, unmodified_of_constraints hchoices, hrs⟩

/-! ## Schemas -/

theorem fieldText_cut {depth : Nat} {a b : Spec} (ha : PatternClosed a.rules) (hb : PatternClosed b.rules)
    (htype : ∀ {r s}, (typeText depth a).toList ++ r = (typeText depth b).toList ++ s →
      (∀ rules, a.written.withRules rules = b.written.withRules rules) ∧ r = s)
    {r s : List Char} (h : (fieldText depth a).toList ++ r = (fieldText depth b).toList ++ s) :
    a.written = b.written ∧ r = s := by
  have hreadable : ∀ {rules : Rules}, PatternClosed rules → ∀ c ∈ fieldChoices rules, Readable c := by
    intro rules hrules c hc
    rcases List.mem_append.1 hc with hc | hc
    · exact readable_constraints hrules c hc
    · exact readable_modifiers rules c hc
  rw [fieldText_eq, fieldText_eq] at h
  obtain ⟨hparts, hchoices, hrs⟩ := optionsText_cut htype (hreadable ha) (hreadable hb) h
  refine ⟨Spec.eq_of_withRules ?_ hparts, hrs⟩
  rw [Spec.rules_written, Spec.rules_written, written_of_options hchoices]

mutual

theorem typeText_cut : ∀ (a b : Spec) {depth : Nat} {r s : List Char}, a.Readable → b.Readable →
    (typeText depth a).toList ++ r = (typeText depth b).toList ++ s →
      (∀ rules, a.written.withRules rules = b.written.withRules rules) ∧ r = s
  | .leaf rules type, b, depth, r, s => by
    intro ha hb h
    cases b with
    | leaf ruled other =>
      obtain ⟨rfl, hrs⟩ := expression_cut h
      exact ⟨fun _ => by simp [Spec.written, Spec.withRules], hrs⟩
    | _ => exact absurd (opening_of_typeText h) (by simp [opening?])
  | .array rules element, b, depth, r, s => by
    intro ha hb h
    cases b with
    | array ruled element' =>
      simp only [typeText, String.toList_append, List.append_assoc] at h
      obtain ⟨helement, hrest⟩ := elementText_cut element element' ha.2 hb.2 (List.append_cancel_left h)
      exact ⟨fun _ => by simp [Spec.written, Spec.withRules, helement], List.append_cancel_left hrest⟩
    | _ => exact absurd (opening_of_typeText h) (by simp [opening?])
  | .object rules fields, b, depth, r, s => by
    intro ha hb h
    cases b with
    | object ruled fields' =>
      simp only [typeText, toList_braces, List.cons_append, List.append_assoc, List.nil_append, List.cons.injEq,
        true_and] at h
      obtain ⟨hfields, hrs⟩ := fieldLines_cut fields fields' ha.2 hb.2 h
      exact ⟨fun _ => by simp [Spec.written, Spec.withRules, hfields], hrs⟩
    | _ => exact absurd (opening_of_typeText h) (by simp [opening?])

theorem elementText_cut : ∀ (a b : Spec) {depth : Nat} {r s : List Char}, a.Readable → b.Readable →
    (elementText depth a).toList ++ r = (elementText depth b).toList ++ s →
      a.written.unmodified = b.written.unmodified ∧ r = s
  | .leaf rules type, b, depth, r, s => by
    intro ha hb h
    cases b with
    | leaf ruled other =>
      obtain ⟨rfl, hrules, hrs⟩ := leafElement_cut ha hb h
      exact ⟨by simp [Spec.written, hrules], hrs⟩
    | array ruled element => exact absurd h (leafElement_ne_array _ _ _ _ _ hb.1 _ _)
    | object ruled fields => exact absurd h (leafElement_ne_object _ _ _ _ _ _ _)
  | .array rules element, b, depth, r, s => by
    intro ha hb h
    cases b with
    | leaf ruled other => exact absurd h.symm (leafElement_ne_array _ _ _ _ _ ha.1 _ _)
    | array ruled element' =>
      rw [toList_elementText_array element ha.1, toList_elementText_array element' hb.1] at h
      simp only [List.cons_append, List.append_assoc, List.cons.injEq, true_and] at h
      obtain ⟨helement, hrest⟩ := elementText_cut element element' ha.2 hb.2 h
      refine ⟨?_, (List.cons.inj hrest).2⟩
      simp [Spec.written, helement, Spec.written_of_isBare ha.1 hb.1]
    | object ruled fields => exact absurd h (arrayElement_ne_object _ _ _ _ _ ha.1 _ _)
  | .object rules fields, b, depth, r, s => by
    intro ha hb h
    cases b with
    | leaf ruled other => exact absurd h.symm (leafElement_ne_object _ _ _ _ _ _ _)
    | array ruled element => exact absurd h.symm (arrayElement_ne_object _ _ _ _ _ hb.1 _ _)
    | object ruled fields' =>
      simp only [elementText, toList_braces, List.cons_append, List.append_assoc, List.nil_append, List.cons.injEq,
        true_and] at h
      obtain ⟨hfields, hrs⟩ := fieldLines_cut fields fields' ha.2 hb.2 h
      refine ⟨?_, hrs⟩
      simp [Spec.written, hfields, Spec.written_of_isBare ha.1 hb.1]

/-- the fields of an object are cut off at the brace that closes them -/
theorem fieldLines_cut : ∀ (as bs : List (String × Spec)) {depth : Nat} {r s : List Char}, Spec.ReadableFields as →
    Spec.ReadableFields bs →
    (fieldLines (depth + 1) as).toList ++ ((indent depth).toList ++ '\x7d' :: r)
      = (fieldLines (depth + 1) bs).toList ++ ((indent depth).toList ++ '\x7d' :: s) →
        Spec.writtenFields as = Spec.writtenFields bs ∧ r = s
  | [], bs, depth, r, s => by
    intro _ _ h
    cases bs with
    | nil => exact ⟨rfl, (List.cons.inj (List.append_cancel_left (List.append_cancel_left h))).2⟩
    | cons field bs => exact absurd h.symm (fieldLines_ne_closing _ _ _ _ _ _)
  | (name, spec) :: as, bs, depth, r, s => by
    intro ha hb h
    cases bs with
    | nil => exact absurd h (fieldLines_ne_closing _ _ _ _ _ _)
    | cons field bs =>
      obtain ⟨name', spec'⟩ := field
      rw [toList_fieldLines, toList_fieldLines] at h
      simp only [List.append_assoc, List.cons_append] at h
      obtain ⟨rfl, hvalue⟩ := objectKey_cut (List.append_cancel_left h)
      have htype : ∀ {r s}, (typeText (depth + 1) spec).toList ++ r = (typeText (depth + 1) spec').toList ++ s →
          (∀ rules, spec.written.withRules rules = spec'.written.withRules rules) ∧ r = s :=
        fun h => typeText_cut spec spec' ha.1 hb.1 h
      obtain ⟨hspec, hrest⟩ := fieldText_cut (Spec.patternClosed_of_readable ha.1)
        (Spec.patternClosed_of_readable hb.1) htype (List.cons.inj hvalue).2
      obtain ⟨hfields, hrs⟩ := fieldLines_cut as bs ha.2 hb.2 (List.cons.inj (List.cons.inj hrest).2).2
      exact ⟨by rw [Spec.writtenFields, Spec.writtenFields, hspec, hfields], hrs⟩

end

/-! ## Nothing else is shown -/

theorem constraintOptions_congr {a b : Rules} (h : a.written.unmodified = b.written.unmodified) :
    constraintOptions a = constraintOptions b := by
  rw [constraintOptions_eq, constraintOptions_eq, constraintTable_eq_iff.2 h]

theorem fieldChoices_congr {a b : Rules} (h : a.written = b.written) : fieldChoices a = fieldChoices b := by
  have hmodifiers : modifierTable a = modifierTable b := by
    have hrequired : a.required = b.required := by
      show a.written.required = b.written.required
      rw [h]
    have hdefault : a.default = b.default := by
      show a.written.default = b.written.default
      rw [h]
    rw [modifierTable, modifierTable, hrequired, hdefault]
  rw [fieldChoices, fieldChoices, hmodifiers, constraintTable_eq_iff.2 (congrArg Rules.unmodified h)]

mutual

theorem typeText_congr : ∀ (a b : Spec) {rules ruled : Rules} (depth : Nat),
    a.written.withRules rules = b.written.withRules ruled → typeText depth a = typeText depth b
  | .leaf _ type, b, rules, ruled, depth, h => by
    cases b with
    | leaf _ other =>
      simp only [Spec.written, Spec.withRules, Spec.leaf.injEq] at h
      rw [typeText, typeText, h.2]
    | _ => simp [Spec.written, Spec.withRules] at h
  | .array _ element, b, rules, ruled, depth, h => by
    cases b with
    | array _ element' =>
      simp only [Spec.written, Spec.withRules, Spec.array.injEq] at h
      rw [typeText, typeText, elementText_congr element element' (depth + 1) h.2]
    | _ => simp [Spec.written, Spec.withRules] at h
  | .object _ fields, b, rules, ruled, depth, h => by
    cases b with
    | object _ fields' =>
      simp only [Spec.written, Spec.withRules, Spec.object.injEq] at h
      rw [typeText, typeText, fieldLines_congr fields fields' (depth + 2) h.2]
    | _ => simp [Spec.written, Spec.withRules] at h

theorem elementText_congr : ∀ (a b : Spec) (depth : Nat), a.written.unmodified = b.written.unmodified →
    elementText depth a = elementText depth b
  | .leaf rules type, b, depth, h => by
    cases b with
    | leaf ruled other =>
      simp only [Spec.written, Spec.unmodified_leaf, Spec.leaf.injEq] at h
      have hoptions := constraintOptions_congr h.1
      rw [elementText, elementText, isBare, isBare, elementOptions, elementOptions, hoptions, h.2]
    | _ => simp [Spec.written] at h
  | .array rules element, b, depth, h => by
    cases b with
    | array ruled element' =>
      simp only [Spec.written, Spec.unmodified_array, Spec.array.injEq] at h
      have hoptions := constraintOptions_congr h.1
      have hbare := elementText_congr element element' depth h.2
      have hdeeper := elementText_congr element element' (depth + 1) h.2
      rw [elementText, elementText, isBare, isBare, elementOptions, elementOptions, hoptions, hbare, hdeeper]
    | _ => simp [Spec.written] at h
  | .object rules fields, b, depth, h => by
    cases b with
    | object ruled fields' =>
      simp only [Spec.written, Spec.unmodified_object, Spec.object.injEq] at h
      rw [elementText, elementText, fieldLines_congr fields fields' (depth + 1) h.2]
    | _ => simp [Spec.written] at h

theorem fieldLines_congr : ∀ (as bs : List (String × Spec)) (depth : Nat),
    Spec.writtenFields as = Spec.writtenFields bs → fieldLines depth as = fieldLines depth bs
  | [], bs, depth, h => by
    cases bs with
    | nil => rfl
    | cons field bs => simp [Spec.writtenFields] at h
  | (name, spec) :: as, bs, depth, h => by
    cases bs with
    | nil => simp [Spec.writtenFields] at h
    | cons field bs =>
      obtain ⟨name', spec'⟩ := field
      simp only [Spec.writtenFields, List.cons.injEq, Prod.mk.injEq] at h
      obtain ⟨⟨rfl, hspec⟩, hfields⟩ := h
      have hrules : spec.rules.written = spec'.rules.written := by
        rw [← Spec.rules_written, ← Spec.rules_written, hspec]
      have htype : typeText depth spec = typeText depth spec' :=
        typeText_congr spec spec' depth (congrArg (Spec.withRules spec.rules) hspec)
      have htext : fieldText depth spec = fieldText depth spec' := by
        rw [fieldText_eq, fieldText_eq, htype, fieldChoices_congr hrules]
      rw [fieldLines, fieldLines, htext, fieldLines_congr as bs depth hfields]

end

/-! ## Modules -/

/-- what stands in a module before the fields of its schema -/
def beforeFields (entity : String) : String :=
  "const mongoose = require('mongoose');\n\n" ++ "const " ++ schemaIdentifier entity ++ " = new mongoose.Schema("

/-- what stands in a module behind the fields of its schema -/
def afterFields (entity : String) (indexes : List Index) (timestamps : Bool) : String :=
  ", \x7b\n" ++ indent 1 ++ "timestamps: " ++ toString timestamps ++ "\n\x7d);\n"
    ++ indexSection (schemaIdentifier entity) indexes
    ++ "\nmodule.exports = mongoose.model(" ++ singleQuoted (modelName entity) ++ ", " ++ schemaIdentifier entity
    ++ ");\n"

theorem moduleText_eq (entity : String) (fields : List (String × Spec)) (indexes : List Index) (timestamps : Bool) :
    moduleText entity fields indexes timestamps
      = beforeFields entity ++ braces 1 (fieldLines 1 fields) ++ afterFields entity indexes timestamps := by
  unfold moduleText beforeFields afterFields
  simp only [String.append_assoc]

/-- **Emission loses nothing.** Two entities have the same module under a name, with the same indexes and options, just
when their fields are the same as far as a module shows them: names and order, nesting, types, every rule, and whether
and which value fills a missing one. -/
theorem moduleText_tells_fields (entity : String) (indexes : List Index) (timestamps : Bool) (a b : Entity)
    (ha : ∀ item ∈ Spec.fieldPatterns "" a.translate.schema.fields, endsLoose item.2.toList = false)
    (hb : ∀ item ∈ Spec.fieldPatterns "" b.translate.schema.fields, endsLoose item.2.toList = false) :
    moduleText entity a.translate.schema.fields indexes timestamps
        = moduleText entity b.translate.schema.fields indexes timestamps ↔
      Spec.writtenFields a.translate.schema.fields = Spec.writtenFields b.translate.schema.fields := by
  rw [moduleText_eq, moduleText_eq]
  constructor
  · intro h
    have hlist := congrArg String.toList h
    simp only [String.toList_append, toList_braces, List.append_assoc, List.cons_append, List.nil_append] at hlist
    obtain ⟨hfields, -⟩ := fieldLines_cut _ _ (Field.readable_specs a.fields "" ha) (Field.readable_specs b.fields "" hb)
      (List.cons.inj (List.cons.inj (List.append_cancel_left hlist)).2).2
    exact hfields
  · intro h
    rw [fieldLines_congr _ _ 1 h]

/-- an entity with one field, whose pattern has a slash, and which a value may fill -/
def linked (fallback : Option Json) : Entity :=
  ⟨"books", [("slug", .leaf { default := fallback } (.string { pattern := some "a/b" }))]⟩

/-- a default of null is told from no default -/
theorem null_default_told :
    (∀ item ∈ Spec.fieldPatterns "" (linked (some .null)).translate.schema.fields, endsLoose item.2.toList = false) ∧
      (∀ item ∈ Spec.fieldPatterns "" (linked none).translate.schema.fields, endsLoose item.2.toList = false) ∧
      moduleText "books" (linked (some .null)).translate.schema.fields [] true
        ≠ moduleText "books" (linked none).translate.schema.fields [] true := by
  have hclosed : ∀ fallback, ∀ item ∈ Spec.fieldPatterns "" (linked fallback).translate.schema.fields,
      endsLoose item.2.toList = false := by
    intro fallback item hitem
    rw [List.mem_singleton.1 hitem]
    decide
  refine ⟨hclosed _, hclosed _, ?_⟩
  intro h
  have hfields := (moduleText_tells_fields "books" [] true _ _ (hclosed _) (hclosed _)).1 h
  simp [linked, Entity.translate, Entity.schema, Field.specs, Field.spec, Leaf.spec, Modifiers.rules,
    Spec.writtenFields, Spec.written, Rules.written, Modifiers.required] at hfields

end Emit

end DocumentModels
