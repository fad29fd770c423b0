/-
The options of an entry can be read back.

An option is a keyword and an argument. The options of an entry follow from its rules (`constraints`, `modifiers`) and
stand between braces in one of two layouts, on one line or on lines of their own.
- `argument_cut`, `option_cut`: one option is cut off the front of a text; its argument is mostly a JSON value.
- `chain_cut`: a run of options, by induction; a separator is never taken for the end.
- `optionsText_cut`: the whole block; the second character tells the layouts apart.
- `written_of_options`, `unmodified_of_constraints`: the options tell the rules, patterns as they are written.
-/
import Mathlib.Tactic
import DocumentModels.Emit.Module
import DocumentModels.Proofs.Emit.Literal

namespace DocumentModels

namespace Rules

/-- the rules as a module shows them: a pattern by its regular expression -/
def written (rules : Rules) : Rules := { rules with pattern := rules.pattern.map Emit.regexLiteral }

/-- the rules without what is said of a missing value -/
def unmodified (rules : Rules) : Rules := { rules with required := true, default := none }

end Rules

namespace Emit

/-! ## One option -/

/-- what stands behind the keyword of an option -/
inductive Argument where
  | value (value : Json)
  | isInteger
  /-- a regular expression, by its text -/
  | regex (text : String)

def Argument.text : Argument → String
  | value v => v.compact
  | isInteger => "Number.isInteger"
  | regex text => text

/-- a regular expression is written for a closed pattern -/
def Argument.Closed : Argument → Prop
  | regex text => ∃ pattern : String, endsLoose pattern.toList = false ∧ regexLiteral pattern = text
  | _ => True

theorem regex_first (pattern : String) : ∃ rest, (regexLiteral pattern).toList = '/' :: rest := by
  rw [toList_regexLiteral]
  exact ⟨_, rfl⟩

theorem argument_cut {a b : Argument} (ha : a.Closed) (hb : b.Closed) {r s : List Char} (hr : Json.Ends r)
    (hs : Json.Ends s) (h : a.text.toList ++ r = b.text.toList ++ s) : a = b ∧ r = s := by
  cases a with
  | value v =>
    cases b with
    | value w =>
      obtain ⟨rfl, hrs⟩ := Json.compact_cut v w hr hs h
      exact ⟨rfl, hrs⟩
    | isInteger => exact absurd h (v.compact_ne_close rfl _ _)
    | regex text =>
      obtain ⟨pattern, -, rfl⟩ := hb
      obtain ⟨rest, hrest⟩ := regex_first pattern
      simp only [Argument.text, hrest] at h
      exact absurd h (v.compact_ne_close rfl _ _)
  | isInteger =>
    cases b with
    | value w => exact absurd h.symm (w.compact_ne_close rfl _ _)
    | isInteger => exact ⟨rfl, List.append_cancel_left h⟩
    | regex text =>
      obtain ⟨pattern, -, rfl⟩ := hb
      obtain ⟨rest, hrest⟩ := regex_first pattern
      simp [Argument.text, hrest] at h
  | regex text =>
    obtain ⟨pattern, hclosed, rfl⟩ := ha
    obtain ⟨rest, hrest⟩ := regex_first pattern
    cases b with
    | value w =>
      simp only [Argument.text, hrest] at h
      exact absurd h.symm (w.compact_ne_close rfl _ _)
    | isInteger => simp [Argument.text, hrest] at h
    | regex other =>
      obtain ⟨pattern', hclosed', rfl⟩ := hb
      obtain ⟨htext, hrs⟩ := regexLiteral_cut hclosed hclosed' h
      exact ⟨by rw [htext], hrs⟩

/-- an option: a keyword and its argument -/
abbrev Choice := String × Argument

def optionText (choice : Choice) : String := choice.1 ++ ": " ++ choice.2.text

/-- the keyword is an identifier and the argument is closed -/
def Readable (choice : Choice) : Prop := isIdentifier choice.1 = true ∧ choice.2.Closed

theorem toList_optionText {choice : Choice} (h : Readable choice) :
    (optionText choice).toList = (objectKey choice.1).toList ++ ':' :: ' ' :: choice.2.text.toList := by
  simp [optionText, objectKey, h.1]

theorem option_cut {a b : Choice} (ha : Readable a) (hb : Readable b) {r s : List Char} (hr : Json.Ends r)
    (hs : Json.Ends s) (h : (optionText a).toList ++ r = (optionText b).toList ++ s) : a = b ∧ r = s := by
  rw [toList_optionText ha, toList_optionText hb] at h
  simp only [List.append_assoc, List.cons_append] at h
  obtain ⟨hkey, hrest⟩ := objectKey_cut h
  obtain ⟨hargument, hrs⟩ := argument_cut ha.2 hb.2 hr hs (List.cons.inj hrest).2
  exact ⟨Prod.ext hkey hargument, hrs⟩

/-! ## Blocks of options -/

/-- what stands before, between and behind the options of a block -/
structure Layout where
  opening : List Char
  separator : List Char
  closing : List Char

def layout (depth : Nat) (spansLines : Bool) : Layout :=
  if spansLines then
    ⟨'\x7b' :: '\n' :: (indent (depth + 1)).toList, ',' :: '\n' :: (indent (depth + 1)).toList,
      ',' :: '\n' :: (indent depth).toList ++ ['\x7d']⟩
  else ⟨['\x7b', ' '], [',', ' '], [' ', '\x7d']⟩

/-- options that follow the first one -/
def chain (separator : List Char) (options : List Choice) : List Char :=
  options.flatMap fun choice => separator ++ (optionText choice).toList

theorem indent_succ (depth : Nat) : (indent (depth + 1)).toList = (indent depth).toList ++ [' ', ' '] := by
  rw [indent, indent, toList_pushn, toList_pushn, Nat.mul_succ, List.replicate_add]
  rfl

/-- a separator does not begin like the end of a block -/
theorem separator_ne_closing (depth : Nat) (spansLines : Bool) (r s : List Char) :
    (layout depth spansLines).separator ++ r ≠ (layout depth spansLines).closing ++ s := by
  cases spansLines with
  | false => simp [layout]
  | true =>
    intro h
    simp [layout, indent_succ] at h

theorem ends_separator (depth : Nat) (spansLines : Bool) (r : List Char) :
    Json.Ends ((layout depth spansLines).separator ++ r) := by
  cases spansLines <;> exact Json.ends_cons _ rfl

theorem ends_closing (depth : Nat) (spansLines : Bool) (r : List Char) :
    Json.Ends ((layout depth spansLines).closing ++ r) := by
  cases spansLines <;> exact Json.ends_cons _ rfl

theorem ends_chain (depth : Nat) (spansLines : Bool) (options : List Choice) (r : List Char) :
    Json.Ends (chain (layout depth spansLines).separator options ++ ((layout depth spansLines).closing ++ r)) := by
  cases options with
  | nil => exact ends_closing depth spansLines r
  | cons choice options =>
    simp only [chain, List.flatMap_cons, List.append_assoc]
    exact ends_separator depth spansLines _

theorem chain_cut (depth : Nat) (spansLines : Bool) {options others : List Choice} (ho : ∀ c ∈ options, Readable c)
    (hp : ∀ c ∈ others, Readable c) {r s : List Char}
    (h : chain (layout depth spansLines).separator options ++ ((layout depth spansLines).closing ++ r)
      = chain (layout depth spansLines).separator others ++ ((layout depth spansLines).closing ++ s)) :
    options = others ∧ r = s := by
  induction options generalizing others with
  | nil =>
    cases others with
    | nil => exact ⟨rfl, List.append_cancel_left h⟩
    | cons other others =>
      simp only [chain, List.flatMap_nil, List.nil_append, List.flatMap_cons, List.append_assoc] at h
      exact absurd h.symm (separator_ne_closing depth spansLines _ _)
  | cons choice options ih =>
    cases others with
    | nil =>
      simp only [chain, List.flatMap_nil, List.nil_append, List.flatMap_cons, List.append_assoc] at h
      exact absurd h (separator_ne_closing depth spansLines _ _)
    | cons other others =>
      simp only [chain, List.flatMap_cons, List.append_assoc] at h
      obtain ⟨rfl, hrest⟩ := option_cut (ho _ List.mem_cons_self) (hp _ List.mem_cons_self)
        (ends_chain depth spansLines options r) (ends_chain depth spansLines others s) (List.append_cancel_left h)
      obtain ⟨rfl, hrs⟩ := ih (fun c hc => ho c (List.mem_cons_of_mem _ hc))
        (fun c hc => hp c (List.mem_cons_of_mem _ hc)) hrest
      exact ⟨rfl, hrs⟩

theorem toList_oneLine (first : String) (options : List Choice) :
    (", ".intercalate (first :: options.map optionText)).toList = first.toList ++ chain [',', ' '] options := by
  induction options generalizing first with
  | nil => simp [chain]
  | cons choice options ih =>
    rw [List.map_cons, String.intercalate_cons_cons, String.toList_append, String.toList_append, ih]
    simp [chain]

theorem toList_ownLines (depth : Nat) (first : String) (options : List Choice) :
    (String.join ((first :: options.map optionText).map fun option => indent (depth + 1) ++ option ++ ",\n")).toList
      = (indent (depth + 1)).toList ++ first.toList
        ++ chain (',' :: '\n' :: (indent (depth + 1)).toList) options ++ [',', '\n'] := by
  induction options generalizing first with
  | nil => simp [chain, String.join_cons]
  | cons choice options ih =>
    rw [List.map_cons, List.map_cons, String.join_cons, String.toList_append, ih]
    simp [chain]

theorem toList_optionsText (depth : Nat) (first : String) (options : List Choice) :
    ∃ spansLines, (optionsText depth (first :: options.map optionText)).toList
      = (layout depth spansLines).opening ++ first.toList ++ chain (layout depth spansLines).separator options
        ++ (layout depth spansLines).closing := by
  unfold optionsText
  split_ifs with hlines
  · refine ⟨true, ?_⟩
    simp only [String.toList_append, toList_ownLines]
    simp [layout]
  · refine ⟨false, ?_⟩
    simp only [String.toList_append, toList_oneLine]
    simp [layout]

/-- **A block of options can be cut off the front of a text**, if the text of the type can. -/
theorem optionsText_cut {depth : Nat} {type other : String} {options others : List Choice} {P : Prop}
    (htype : ∀ {r s}, type.toList ++ r = other.toList ++ s → P ∧ r = s) (ho : ∀ c ∈ options, Readable c)
    (hp : ∀ c ∈ others, Readable c) {r s : List Char}
    (h : (optionsText depth (("type: " ++ type) :: options.map optionText)).toList ++ r
      = (optionsText depth (("type: " ++ other) :: others.map optionText)).toList ++ s) :
    P ∧ options = others ∧ r = s := by
  obtain ⟨left, hleft⟩ := toList_optionsText depth ("type: " ++ type) options
  obtain ⟨right, hright⟩ := toList_optionsText depth ("type: " ++ other) others
  rw [hleft, hright] at h
  obtain rfl : left = right := by
    cases left <;> cases right <;> first | rfl | simp [layout] at h
  simp only [String.toList_append, List.append_assoc] at h
  obtain ⟨hP, hrest⟩ := htype (List.append_cancel_left (List.append_cancel_left h))
  exact ⟨hP, chain_cut depth left ho hp hrest⟩

/-! ## Options of rules -/

/-- the options that have an argument, in the order of the keywords -/
def present (table : List (String × Option Argument)) : List Choice :=
  table.flatMap fun entry => (entry.2.map fun argument => (entry.1, argument)).toList

theorem mem_present {table : List (String × Option Argument)} {choice : Choice} :
    choice ∈ present table ↔ (choice.1, some choice.2) ∈ table := by
  simp only [present, List.mem_flatMap, Option.mem_toList, Option.map_eq_some_iff]
  constructor
  · rintro ⟨⟨keyword, _⟩, hentry, argument, rfl, rfl⟩
    exact hentry
  · intro h
    exact ⟨_, h, _, rfl, rfl⟩

/-- where no keyword repeats, the options that are there tell which are not -/
theorem present_injective {table other : List (String × Option Argument)} (hkeys : table.map Prod.fst = other.map Prod.fst)
    (hnodup : (table.map Prod.fst).Nodup) (h : present table = present other) : table = other := by
  induction table generalizing other with
  | nil => exact (List.map_eq_nil_iff.1 hkeys.symm).symm
  | cons entry table ih =>
    obtain ⟨keyword, argument⟩ := entry
    cases other with
    | nil => cases hkeys
    | cons entry other =>
      obtain ⟨keyword', argument'⟩ := entry
      simp only [List.map_cons, List.cons.injEq, List.nodup_cons] at hkeys hnodup
      obtain ⟨rfl, hkeys⟩ := hkeys
      -- the keyword of the first entry stands in no later one
      have hleft : ∀ c ∈ present table, c.1 ≠ keyword := by
        rintro c hc rfl
        exact hnodup.1 (List.mem_map_of_mem (f := Prod.fst) (mem_present.1 hc))
      have hright : ∀ c ∈ present other, c.1 ≠ keyword := by
        rintro c hc rfl
        exact hnodup.1 (hkeys ▸ List.mem_map_of_mem (f := Prod.fst) (mem_present.1 hc))
      cases argument with
      | none =>
        cases argument' with
        | none => rw [ih hkeys hnodup.2 h]
        | some argument' =>
          have hmem : (keyword, argument') ∈ present table := by
            rw [show present table = _ from h]
            exact List.mem_cons_self
          exact absurd rfl (hleft _ hmem)
      | some argument =>
        cases argument' with
        | none =>
          have hmem : (keyword, argument) ∈ present other := by
            rw [show present other = _ from h.symm]
            exact List.mem_cons_self
          exact absurd rfl (hright _ hmem)
        | some argument' =>
          obtain ⟨hfirst, hrest⟩ := List.cons.inj h
          rw [ih hkeys hnodup.2 hrest, (Prod.mk.inj hfirst).2]

def constraintTable (rules : Rules) : List (String × Option Argument) :=
  [("minlength", rules.minLength.map fun n => .value (.ofNat n)),
    ("maxlength", rules.maxLength.map fun n => .value (.ofNat n)),
    ("min", rules.min.map fun n => .value (.number n)), ("max", rules.max.map fun n => .value (.number n)),
    ("validate", if rules.integer then some .isInteger else none),
    ("match", rules.pattern.map fun p => .regex (regexLiteral p)),
    ("enum", rules.enumValues.map fun values => .value (.array values))]

def modifierTable (rules : Rules) : List (String × Option Argument) :=
  [("required", some (.value (.bool rules.required))), ("default", rules.default.map .value)]

theorem constraintOptions_eq (rules : Rules) :
    constraintOptions rules = (present (constraintTable rules)).map optionText := by
  have hinteger : (if rules.integer then ["validate: Number.isInteger"] else [])
      = ((if rules.integer then some Argument.isInteger else none).map fun a => ("validate", a)).toList.map optionText := by
    cases rules.integer <;> rfl
  rw [constraintOptions, hinteger]
  simp only [present, constraintTable, List.flatMap_cons, List.flatMap_nil, List.map_append, Option.toList_map,
    List.map_map, List.append_assoc, List.append_nil]
  rfl

theorem modifierOptions_eq (rules : Rules) :
    modifierOptions rules = (present (modifierTable rules)).map optionText := by
  have hrequired : "required: " ++ toString rules.required = optionText ("required", .value (.bool rules.required)) := by
    cases rules.required <;> rfl
  rw [modifierOptions, hrequired]
  cases hdefault : rules.default with
  | none => simp [present, modifierTable, hdefault]
  | some value => simp [present, modifierTable, hdefault, optionText, Argument.text]

def PatternClosed (rules : Rules) : Prop := ∀ pattern ∈ rules.pattern, endsLoose pattern.toList = false

theorem readable_present {table : List (String × Option Argument)} (hkeys : ∀ k ∈ table.map Prod.fst, isIdentifier k = true)
    (hclosed : ∀ entry ∈ table, ∀ argument ∈ entry.2, argument.Closed) : ∀ c ∈ present table, Readable c := by
  intro c hc
  have hmem := mem_present.1 hc
  exact ⟨hkeys _ (List.mem_map_of_mem (f := Prod.fst) hmem), hclosed _ hmem _ rfl⟩

theorem constraint_keywords (rules : Rules) :
    (constraintTable rules).map Prod.fst
      = ["minlength", "maxlength", "min", "max", "validate", "match", "enum"] :=
  rfl

theorem modifier_keywords (rules : Rules) : (modifierTable rules).map Prod.fst = ["required", "default"] := rfl

theorem readable_constraints {rules : Rules} (h : PatternClosed rules) :
    ∀ c ∈ present (constraintTable rules), Readable c := by
  apply readable_present
  · rw [constraint_keywords]
    decide
  · intro entry hentry argument hargument
    cases argument with
    | value v => trivial
    | isInteger => trivial
    | regex text =>
      -- only the pattern is written as a regular expression
      simp only [constraintTable, List.mem_cons, List.not_mem_nil, or_false] at hentry
      rcases hentry with rfl | rfl | rfl | rfl | rfl | rfl | rfl
      case inr.inr.inr.inr.inr.inl =>
        obtain ⟨pattern, hpattern, htext⟩ := Option.map_eq_some_iff.1 hargument
        cases htext
        exact ⟨pattern, h pattern hpattern, rfl⟩
      all_goals simp at hargument

theorem readable_modifiers (rules : Rules) : ∀ c ∈ present (modifierTable rules), Readable c := by
  apply readable_present
  · rw [modifier_keywords]
    decide
  · intro entry hentry argument hargument
    cases argument with
    | regex text =>
      simp only [modifierTable, List.mem_cons, List.not_mem_nil, or_false] at hentry
      rcases hentry with rfl | rfl
      · simp at hargument
      · simp at hargument
    | _ => trivial

theorem Argument.value_injective : Function.Injective Argument.value := fun _ _ h => Argument.value.inj h

theorem Argument.regex_injective : Function.Injective Argument.regex := fun _ _ h => Argument.regex.inj h

/-- options and rules tell each other, up to what is said of a missing value -/
theorem constraintTable_eq_iff {a b : Rules} :
    constraintTable a = constraintTable b ↔ a.written.unmodified = b.written.unmodified := by
  have hnat : Function.Injective fun n => Argument.value (.ofNat n) := fun m n h => by
    simpa [Json.ofNat] using Argument.value_injective h
  have hnumber : Function.Injective fun n => Argument.value (.number n) := fun m n h =>
    Json.number.inj (Argument.value_injective h)
  have hvalues : Function.Injective fun values => Argument.value (.array values) := fun v w h =>
    Json.array.inj (Argument.value_injective h)
  have hliteral : (a.pattern.map fun p => Argument.regex (regexLiteral p))
      = (b.pattern.map fun p => Argument.regex (regexLiteral p)) ↔ a.pattern.map regexLiteral = b.pattern.map regexLiteral := by
    rw [← (Option.map_injective Argument.regex_injective).eq_iff, Option.map_map, Option.map_map]
    rfl
  have hinteger : (if a.integer then some Argument.isInteger else none) = (if b.integer then some Argument.isInteger else none)
      ↔ a.integer = b.integer := by
    cases a.integer <;> cases b.integer <;> simp
  simp only [constraintTable, List.cons.injEq, Prod.mk.injEq, true_and, and_true, Rules.written, Rules.unmodified,
    Rules.mk.injEq, (Option.map_injective hnat).eq_iff, (Option.map_injective hnumber).eq_iff,
    (Option.map_injective hvalues).eq_iff, hliteral, hinteger]
  tauto

theorem modifiers_of_table {a b : Rules} (h : modifierTable a = modifierTable b) :
    a.required = b.required ∧ a.default = b.default := by
  simp only [modifierTable, List.cons.injEq, Prod.mk.injEq, true_and, and_true, Option.some.injEq,
    Argument.value.injEq, Json.bool.injEq] at h
  exact ⟨h.1, Option.map_injective Argument.value_injective h.2⟩

/-- the options of an array's element tell its rules, up to what is said of a missing value -/
theorem unmodified_of_constraints {a b : Rules} (h : present (constraintTable a) = present (constraintTable b)) :
    a.written.unmodified = b.written.unmodified := by
  have hnodup : ((constraintTable a).map Prod.fst).Nodup := by
    rw [constraint_keywords]
    decide
  have hkeys := (constraint_keywords a).trans (constraint_keywords b).symm
  exact constraintTable_eq_iff.1 (present_injective hkeys hnodup h)

theorem written_of_options {a b : Rules} (h : present (constraintTable a) ++ present (modifierTable a)
    = present (constraintTable b) ++ present (modifierTable b)) : a.written = b.written := by
  have hkeys : (constraintTable a ++ modifierTable a).map Prod.fst = (constraintTable b ++ modifierTable b).map Prod.fst :=
    rfl
  have hnodup : ((constraintTable a ++ modifierTable a).map Prod.fst).Nodup := by
    rw [List.map_append, constraint_keywords, modifier_keywords]
    decide
  have hpresent : present (constraintTable a ++ modifierTable a) = present (constraintTable b ++ modifierTable b) := by
    simpa [present] using h
  obtain ⟨hconstraints, hmodifiers⟩ := List.append_inj (present_injective hkeys hnodup hpresent) rfl
  obtain ⟨hrequired, hdefault⟩ := modifiers_of_table hmodifiers
  have hrest := constraintTable_eq_iff.1 hconstraints
  simp only [Rules.written, Rules.unmodified, Rules.mk.injEq, true_and] at hrest ⊢
  exact ⟨hrequired, hdefault, hrest⟩

end Emit

end DocumentModels
