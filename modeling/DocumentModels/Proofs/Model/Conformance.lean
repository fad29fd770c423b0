/-
Conformance: what a schema asks of a document, said apart from the order in which a document is looked through.

- `Spec.Conforms`, `Spec.FieldConforms`, `Spec.ElementConforms`: when a value fits a position, a field, an element. A value
  is of the type of its position, obeys every declared rule that concerns values of its kind, and so do its parts.
- `Spec.Checked`: rules stand only where validation looks at them. Translation places them so (`Field.checked_spec`);
  elsewhere a rule is declared and never asked for.
- `Rules.leafBreaches_eq_nil_iff`: a leaf.
- `Spec.violations_eq_nil_iff`, `Spec.fieldViolations_eq_nil_iff`: a value breaks no rule just when it conforms, by
  induction on the position.
-/
import Mathlib.Tactic
import DocumentModels.Proofs.Model.Normalize
import DocumentModels.Proofs.Model.Patterns
import DocumentModels.Schema.Translation

namespace DocumentModels

/-! ## Rules on a value -/

/-- whether a value is of a type -/
def BaseType.Fits : BaseType → Json → Prop
  | .mixed, _ => True
  | .string, .string _ => True
  | .number, .number _ => True
  | .boolean, .bool _ => True
  | .date, value => Model.isDate value = true
  | _, _ => False

namespace Rules

/-- a string keeps to the declared lengths, in characters, and to the declared pattern -/
structure AllowString (rules : Rules) (s : String) : Prop where
  atLeast : ∀ min ∈ rules.minLength, min ≤ s.length
  atMost : ∀ max ∈ rules.maxLength, s.length ≤ max
  alike : ∀ pattern ∈ rules.pattern, ∃ expr, Pattern.parse? pattern = some expr ∧ expr.isMatch s = true

/-- a number keeps to the declared bounds, compared as binary64 numbers, and is integral if it has to be -/
structure AllowNumber (rules : Rules) (n : Number) : Prop where
  atLeast : ∀ min ∈ rules.min, n.toBinary64.lt min.toBinary64 = false
  atMost : ∀ max ∈ rules.max, max.toBinary64.lt n.toBinary64 = false
  integral : rules.integer = true → n.isIntegral = true

/-- a value is one of the admitted values, if there are any to choose from -/
def Admit (rules : Rules) (value : Json) : Prop := ∀ values ∈ rules.enumValues, value.isIn values = true

/-- a value obeys the rules that concern values of its kind -/
structure Allow (rules : Rules) (value : Json) : Prop where
  string : ∀ s, value = .string s → rules.AllowString s
  number : ∀ n, value = .number n → rules.AllowNumber n
  admitted : rules.Admit value

end Rules

/-! ## Conforming values -/

namespace Spec

mutual

/-- a value fits a position -/
inductive Conforms : Spec → Json → Prop
  | leaf {rules : Rules} {type : BaseType} {value : Json} :
    type.Fits value → rules.Allow value → Conforms (.leaf rules type) value
  | array {rules : Rules} {element : Spec} {items : List Json} :
    (∀ item ∈ items, ElementConforms element item) → rules.Allow (.array items) →
      Conforms (.array rules element) (.array items)
  | object {rules : Rules} {fields : List (String × Spec)} {members : Members} :
    (∀ field ∈ fields, FieldConforms field.2 (members.lookup field.1)) → rules.Allow (.object members) →
      Conforms (.object rules fields) (.object members)

/-- a member, or its absence, fits a field -/
inductive FieldConforms : Spec → Option Json → Prop
  | absent {spec : Spec} : spec.rules.required = false → FieldConforms spec none
  | null {spec : Spec} : spec.rules.required = false → FieldConforms spec (some .null)
  | value {spec : Spec} {value : Json} :
    value ≠ .null → ¬ (value = .string "" ∧ spec.rules.required = true ∧ spec.isString = true) →
      Conforms spec value → FieldConforms spec (some value)

/-- an item fits the element of an array -/
inductive ElementConforms : Spec → Json → Prop
  | null {element : Spec} : ElementConforms element .null
  | value {element : Spec} {item : Json} : Conforms element item → ElementConforms element item

end

def FieldsConform (fields : List (String × Spec)) (members : Members) : Prop :=
  ∀ field ∈ fields, FieldConforms field.2 (members.lookup field.1)

end Spec

/-! ## Rules that are looked at -/

namespace Rules

/-- the rules without those on strings and numbers -/
def general (rules : Rules) : Rules :=
  { required := rules.required, default := rules.default, enumValues := rules.enumValues }

theorem allow_general (rules : Rules) (value : Json) : rules.general.Allow value ↔ rules.Admit value := by
  constructor
  · intro h
    exact h.admitted
  · intro h
    refine ⟨?_, ?_, h⟩
    · rintro s -
      constructor <;> simp [general]
    · rintro n -
      constructor <;> simp [general]

end Rules

namespace Spec

mutual

/-- rules on strings and numbers stand only where these are asked for, and admitted values only at leaves -/
def Checked : Spec → Prop
  | .leaf rules type => type = .mixed ∨ type = .date → rules = rules.general
  | .array rules element => rules.enumValues = none ∧ element.Checked
  | .object rules fields => rules.enumValues = none ∧ FieldsChecked fields

def FieldsChecked : List (String × Spec) → Prop
  | [] => True
  | (_, spec) :: rest => spec.Checked ∧ FieldsChecked rest

end

end Spec

theorem Leaf.checked_spec (modifiers : Modifiers) (l : Leaf) : (l.spec modifiers.rules).Checked := by
  cases l with
  | literal value => exact fun _ => rfl
  | date => exact fun _ => rfl
  | _ =>
    rintro (h | h)
    · cases h
    · cases h

namespace Field

mutual

/-- **Translation places rules where they are looked at.** -/
theorem checked_spec : ∀ field : Field, field.spec.Checked
  | .leaf modifiers l => by
    rw [spec]
    exact l.checked_spec modifiers
  | .array modifiers element => by
    rw [spec, Spec.Checked]
    exact ⟨rfl, checked_spec element⟩
  | .object modifiers fields => by
    rw [spec, Spec.Checked]
    exact ⟨rfl, checked_specs fields⟩
  | .union modifiers options => by
    rw [spec, Spec.Checked]
    exact fun _ => rfl

theorem checked_specs : ∀ fields : List (String × Field), Spec.FieldsChecked (specs fields)
  | [] => trivial
  | (name, field) :: rest => by
    rw [specs, Spec.FieldsChecked]
    exact ⟨checked_spec field, checked_specs rest⟩

end

end Field

/-! ## Leaves -/

namespace Rules

variable {rules : Rules} {patterns : PatternTable}

theorem reported_eq_nil_iff {α β : Type} (rule : Option α) (fails : α → Bool) (report : α → β) :
    ((rule.filter fails).map report).toList = [] ↔ ∀ a ∈ rule, fails a = false := by
  cases rule with
  | none => simp
  | some a => cases h : fails a <;> simp [h]

theorem stringBreaches_eq_nil_iff (h : ∀ pattern ∈ rules.pattern, patterns.Holds pattern) (s : String) :
    rules.stringBreaches patterns s = [] ↔ rules.AllowString s := by
  have halike : (∀ pattern ∈ rules.pattern, ((patterns.lookup pattern).any fun expr => !expr.isMatch s) = false) ↔
      ∀ pattern ∈ rules.pattern, ∃ expr, Pattern.parse? pattern = some expr ∧ expr.isMatch s = true := by
    apply forall₂_congr
    intro pattern hpattern
    obtain ⟨expr, hparse, hfind⟩ := h pattern hpattern
    rw [hfind, hparse]
    simp
  simp only [stringBreaches, List.append_eq_nil_iff, reported_eq_nil_iff, halike, decide_eq_false_iff_not, not_lt]
  constructor
  · rintro ⟨⟨hmin, hmax⟩, hpattern⟩
    exact ⟨hmin, hmax, hpattern⟩
  · rintro ⟨hmin, hmax, hpattern⟩
    exact ⟨⟨hmin, hmax⟩, hpattern⟩

theorem numberBreaches_eq_nil_iff (n : Number) : rules.numberBreaches n = [] ↔ rules.AllowNumber n := by
  have hintegral : (if rules.integer && !n.isIntegral then [Breach.notInteger] else []) = [] ↔
      (rules.integer = true → n.isIntegral = true) := by
    cases rules.integer <;> cases n.isIntegral <;> simp
  simp only [numberBreaches, List.append_eq_nil_iff, reported_eq_nil_iff, hintegral]
  constructor
  · rintro ⟨⟨hmin, hmax⟩, hinteger⟩
    exact ⟨hmin, hmax, hinteger⟩
  · rintro ⟨hmin, hmax, hinteger⟩
    exact ⟨⟨hmin, hmax⟩, hinteger⟩

theorem enumBreaches_eq_nil_iff (value : Json) : rules.enumBreaches value = [] ↔ rules.Admit value := by
  unfold enumBreaches Admit
  cases rules.enumValues with
  | none => simp
  | some values => cases h : value.isIn values <;> simp [h]

theorem allow_string (s : String) : rules.Allow (.string s) ↔ rules.AllowString s ∧ rules.Admit (.string s) := by
  constructor
  · intro h
    exact ⟨h.string s rfl, h.admitted⟩
  · rintro ⟨hstring, hadmit⟩
    exact ⟨by rintro _ ⟨⟩; exact hstring, by rintro _ ⟨⟩, hadmit⟩

theorem allow_number (n : Number) : rules.Allow (.number n) ↔ rules.AllowNumber n ∧ rules.Admit (.number n) := by
  constructor
  · intro h
    exact ⟨h.number n rfl, h.admitted⟩
  · rintro ⟨hnumber, hadmit⟩
    exact ⟨by rintro _ ⟨⟩, by rintro _ ⟨⟩; exact hnumber, hadmit⟩

/-- of a value that is neither a string nor a number, only membership is asked -/
theorem allow_other {value : Json} (hstring : ∀ s, value ≠ .string s) (hnumber : ∀ n, value ≠ .number n) :
    rules.Allow value ↔ rules.Admit value := by
  constructor
  · intro h
    exact h.admitted
  · intro h
    exact ⟨fun s hs => absurd hs (hstring s), fun n hn => absurd hn (hnumber n), h⟩

/-- an array or an object obeys rules that list no admitted values -/
theorem allow_parts {value : Json} (hstring : ∀ s, value ≠ .string s) (hnumber : ∀ n, value ≠ .number n)
    (h : rules.enumValues = none) : rules.Allow value := by
  rw [allow_other hstring hnumber, Admit, h]
  exact fun values hvalues => by cases hvalues

/-- where only membership is looked at, no other rule is declared -/
theorem allow_of_general (h : rules = rules.general) (value : Json) : rules.Allow value ↔ rules.Admit value := by
  rw [h, allow_general]
  rfl

/-- **A leaf is free of breaches just when it is of its type and obeys its rules.** -/
theorem leafBreaches_eq_nil_iff {type : BaseType} (hchecked : (Spec.leaf rules type).Checked)
    (hpatterns : ∀ pattern ∈ rules.pattern, patterns.Holds pattern) (value : Json) :
    rules.leafBreaches patterns type value = [] ↔ type.Fits value ∧ rules.Allow value := by
  cases type with
  | mixed => simp [leafBreaches, enumBreaches_eq_nil_iff, BaseType.Fits, allow_of_general (hchecked (Or.inl rfl))]
  | date =>
    rw [leafBreaches, allow_of_general (hchecked (Or.inr rfl)), BaseType.Fits]
    by_cases h : Model.isDate value = true
    · simp [h, enumBreaches_eq_nil_iff]
    · simp [h]
  | string =>
    cases value with
    | string s =>
      simp [leafBreaches, stringBreaches_eq_nil_iff hpatterns, enumBreaches_eq_nil_iff, BaseType.Fits, allow_string]
    | _ => simp [leafBreaches, BaseType.Fits]
  | number =>
    cases value with
    | number n => simp [leafBreaches, numberBreaches_eq_nil_iff, enumBreaches_eq_nil_iff, BaseType.Fits, allow_number]
    | _ => simp [leafBreaches, BaseType.Fits]
  | boolean =>
    cases value with
    | bool b => simp [leafBreaches, enumBreaches_eq_nil_iff, BaseType.Fits, allow_other]
    | _ => simp [leafBreaches, BaseType.Fits]

end Rules

/-! ## Positions -/

namespace Spec

variable {patterns : PatternTable}

theorem fieldConforms_iff (spec : Spec) (member : Option Json) :
    FieldConforms spec member ↔
      match spec.given member with
      | .lacking => False
      | .absent => True
      | .null => True
      | .value value => Conforms spec value := by
  cases member with
  | none =>
    cases hrequired : spec.rules.required with
    | true =>
      simp only [given, hrequired, if_true, iff_false]
      rintro ⟨h⟩
      rw [hrequired] at h
      cases h
    | false =>
      simp only [given, hrequired, Bool.false_eq_true, if_false, iff_true]
      exact .absent hrequired
  | some value =>
    constructor
    · intro h
      cases h with
      | null hrequired => rw [given_null hrequired]; trivial
      | value hnull hempty hvalue => rw [given_some hnull hempty]; exact hvalue
    · intro h
      by_cases hnull : value = .null
      · subst hnull
        cases hrequired : spec.rules.required with
        | true => simp [given, hrequired] at h
        | false => exact .null hrequired
      · by_cases hempty : value = .string "" ∧ spec.rules.required = true ∧ spec.isString = true
        · obtain ⟨rfl, hrest⟩ := hempty
          simp [given, hrest] at h
        · rw [given_some hnull hempty] at h
          exact .value hnull hempty h

theorem faults_eq_nil_iff {spec : Spec} {path : String} {member : Option Json}
    (h : ∀ value, spec.violations patterns path value = [] ↔ Conforms spec value) :
    spec.faults patterns path member = [] ↔ FieldConforms spec member := by
  rw [fieldConforms_iff, faults]
  cases spec.given member with
  | value value => exact h value
  | _ => simp

/-- an item breaks no rule if it is null, else just when it conforms as a value -/
theorem itemViolations_eq_nil_iff {element : Spec} {path : String} {item : Json}
    (h : element.violations patterns path item = [] ↔ Conforms element item) :
    (if item.isNull then [] else element.violations patterns path item) = [] ↔ ElementConforms element item := by
  cases item with
  | null => exact ⟨fun _ => .null, fun _ => rfl⟩
  | _ =>
    refine h.trans ⟨.value, ?_⟩
    intro hitem
    cases hitem with
    | value hvalue => exact hvalue

mutual

/-- **A value breaks no rule just when it conforms.** -/
theorem violations_eq_nil_iff : ∀ (spec : Spec) (place path : String) (value : Json), spec.Checked →
    (∀ item ∈ spec.patterns place, patterns.Holds item.2) →
      (spec.violations patterns path value = [] ↔ Conforms spec value)
  | .leaf rules type, place, path, value, hchecked, hpatterns => by
    have hholds : ∀ pattern ∈ rules.pattern, patterns.Holds pattern := by
      intro pattern hpattern
      apply hpatterns (place, pattern)
      rw [Spec.patterns, Option.mem_def.1 hpattern]
      exact List.mem_singleton.2 rfl
    have hleaf := Rules.leafBreaches_eq_nil_iff hchecked hholds value
    rw [violations, List.map_eq_nil_iff, hleaf]
    constructor
    · rintro ⟨hfits, hallow⟩
      exact .leaf hfits hallow
    · rintro ⟨hfits, hallow⟩
      exact ⟨hfits, hallow⟩
  | .array rules element, place, path, value, hchecked, hpatterns => by
    cases value with
    | array items =>
      have hitem := fun path item => itemViolations_eq_nil_iff (violations_eq_nil_iff element (place ++ ".$") path item
        hchecked.2 fun pattern hpattern => hpatterns pattern (List.mem_append_right _ hpattern))
      have hallow : rules.Allow (.array items) := Rules.allow_parts (by simp) (by simp) hchecked.1
      rw [violations, List.flatten_eq_nil_iff, List.forall_mem_map]
      simp only [hitem]
      constructor
      · intro h
        refine .array ?_ hallow
        intro item hmem
        rw [← List.zipIdx_map_fst 0 items] at hmem
        obtain ⟨pair, hpair, rfl⟩ := List.mem_map.1 hmem
        exact h pair hpair
      · intro h pair hpair
        cases h with
        | array h => exact h _ (List.fst_mem_of_mem_zipIdx hpair)
    | _ =>
      simp only [violations, List.cons_ne_nil, false_iff]
      rintro ⟨⟩
  | .object rules fields, place, path, value, hchecked, hpatterns => by
    cases value with
    | object members =>
      have hallow : rules.Allow (.object members) := Rules.allow_parts (by simp) (by simp) hchecked.1
      have hfields := fieldViolations_eq_nil_iff fields place path members hchecked.2
        fun item hitem => hpatterns item (List.mem_append_right _ hitem)
      rw [violations, hfields]
      constructor
      · intro h
        exact .object h hallow
      · intro h
        cases h with
        | object h => exact h
    | _ =>
      simp only [violations, List.cons_ne_nil, false_iff]
      rintro ⟨⟩

theorem fieldViolations_eq_nil_iff : ∀ (fields : List (String × Spec)) (place path : String) (members : Members),
    FieldsChecked fields → (∀ item ∈ fieldPatterns place fields, patterns.Holds item.2) →
      (fieldViolations patterns path fields members = [] ↔ FieldsConform fields members)
  | [], _, _, _, _, _ => by simp [fieldViolations, FieldsConform]
  | (name, spec) :: rest, place, path, members, hchecked, hpatterns => by
    rw [fieldPatterns] at hpatterns
    have hspec := fun value => violations_eq_nil_iff spec (fieldPath place name) (fieldPath path name) value hchecked.1
      fun item hitem => hpatterns item (List.mem_append_left _ hitem)
    have hrest := fieldViolations_eq_nil_iff rest place path members hchecked.2
      fun item hitem => hpatterns item (List.mem_append_right _ hitem)
    rw [fieldViolations_cons, List.append_eq_nil_iff, hrest, faults_eq_nil_iff hspec, FieldsConform, FieldsConform,
      List.forall_mem_cons]

end

end Spec

end DocumentModels
