/-
Limits of strings and numbers, against the checks that they are declared by.

A node may have any number of checks, and several may bound the same quantity: the length of a string, or a number. Its
rules have room for one least and one greatest value, and a check that is read later takes the room of an earlier one.
- `Bounds`: what is asked of a quantity; `Bounds.last` is what is left of a list of them, one side at a time.
- `last_enforces_iff`: the last bounds enforce all just when no others are tighter, or when they admit nothing at all.
- `lengths_admits_iff`, `ranks_admits_iff`: limits are what validation looks at.
- `addStringCheck_lengths`, `addNumberCheck_ranks`: what one check does to the limits; `foldlM_limits`: what all of them do,
  by induction on the checks.
- `limits_of_sound`: both together, for either kind of node.
- `limits_enforce_iff`: when the limits of a node enforce the checks that it has.
- `limit_lost`: a string and a number that meet the limits, but not the checks.
-/
import Mathlib.Tactic
import DocumentModels.Model.Validation
import DocumentModels.Proofs.Definition.Parts
import DocumentModels.Proofs.Schema.Positions

namespace DocumentModels

/-! ## Bounds -/

/-- what is asked of a quantity: to be at least this, and at most that -/
structure Bounds (α : Type) where
  least : Option α
  greatest : Option α

namespace Bounds

variable {α : Type}

/-- **What is left of bounds that take the place of one another:** the last on either side. -/
def last (asked : List (Bounds α)) : Bounds α := ⟨(asked.filterMap least).getLast?, (asked.filterMap greatest).getLast?⟩

/-- bounds that take the place of earlier ones, on the sides where they ask for something -/
def overriding (later earlier : Bounds α) : Bounds α :=
  ⟨later.least.or earlier.least, later.greatest.or earlier.greatest⟩

theorem last_cons (bounds : Bounds α) (rest : List (Bounds α)) : last (bounds :: rest) = (last rest).overriding bounds := by
  have hside : ∀ side : Bounds α → Option α,
      ((bounds :: rest).filterMap side).getLast? = (rest.filterMap side).getLast?.or (side bounds) := by
    intro side
    rw [List.filterMap_cons]
    cases side bounds with
    | none => rw [Option.or_none]
    | some a => cases hlast : (rest.filterMap side).getLast? <;> simp [List.getLast?_cons, hlast]
  rw [last, hside, hside]
  rfl

theorem overriding_assoc (first second third : Bounds α) :
    (first.overriding second).overriding third = first.overriding (second.overriding third) := by
  simp only [overriding, Option.or_assoc]

theorem overriding_none (bounds : Bounds α) : bounds.overriding ⟨none, none⟩ = bounds := by
  simp only [overriding, Option.or_none]

theorem exists_last {asked : List (Bounds α)} {bounds : Bounds α} (hbounds : bounds ∈ asked) (side : Bounds α → Option α)
    {a : α} (ha : a ∈ side bounds) : ∃ m ∈ (asked.filterMap side).getLast?, ∃ other ∈ asked, m ∈ side other := by
  have hmem : a ∈ asked.filterMap side := List.mem_filterMap.2 ⟨bounds, hbounds, ha⟩
  obtain ⟨m, hm⟩ := Option.isSome_iff_exists.1 (List.getLast?_isSome.2 (List.ne_nil_of_mem hmem))
  obtain ⟨other, hother, hside⟩ := List.mem_filterMap.1 (List.mem_of_getLast? hm)
  exact ⟨m, hm, other, hother, hside⟩

variable [LinearOrder α]

/-- a value is within bounds -/
def Admits (bounds : Bounds α) (a : α) : Prop :=
  (∀ least ∈ bounds.least, least ≤ a) ∧ ∀ greatest ∈ bounds.greatest, a ≤ greatest

/-- nothing is within bounds: the greatest value is below the least -/
def Crossed (bounds : Bounds α) : Prop := ∃ least ∈ bounds.least, ∃ greatest ∈ bounds.greatest, greatest < least

/-- bounds are at least as tight as others on either side -/
def Tightens (inner outer : Bounds α) : Prop :=
  (∀ least ∈ outer.least, ∃ m ∈ inner.least, least ≤ m) ∧ ∀ greatest ∈ outer.greatest, ∃ m ∈ inner.greatest, m ≤ greatest

/-- whatever is within bounds is within all that are asked for, too; its quantity is what is bounded -/
def Enforces {V : Type} (quantity : V → α) (bounds : Bounds α) (asked : List (Bounds α)) : Prop :=
  ∀ v, bounds.Admits (quantity v) → ∀ other ∈ asked, other.Admits (quantity v)

instance (bounds : Bounds α) (a : α) : Decidable (bounds.Admits a) :=
  inferInstanceAs (Decidable ((∀ least ∈ bounds.least, least ≤ a) ∧ ∀ greatest ∈ bounds.greatest, a ≤ greatest))

instance (inner outer : Bounds α) : Decidable (inner.Tightens outer) :=
  inferInstanceAs (Decidable ((∀ least ∈ outer.least, ∃ m ∈ inner.least, least ≤ m) ∧
    ∀ greatest ∈ outer.greatest, ∃ m ∈ inner.greatest, m ≤ greatest))

theorem Tightens.admits {inner outer : Bounds α} (h : inner.Tightens outer) {a : α} (ha : inner.Admits a) :
    outer.Admits a := by
  refine ⟨?_, ?_⟩
  · intro least hleast
    obtain ⟨m, hm, hle⟩ := h.1 least hleast
    exact hle.trans (ha.1 m hm)
  · intro greatest hgreatest
    obtain ⟨m, hm, hle⟩ := h.2 greatest hgreatest
    exact (ha.2 m hm).trans hle

theorem Crossed.not_admits {bounds : Bounds α} (h : bounds.Crossed) (a : α) : ¬bounds.Admits a := by
  obtain ⟨least, hleast, greatest, hgreatest, hlt⟩ := h
  intro ha
  exact absurd ((ha.1 least hleast).trans (ha.2 greatest hgreatest)) (not_le.2 hlt)

theorem admits_end {bounds : Bounds α} (h : ¬bounds.Crossed) {a : α} (ha : a ∈ bounds.least ∨ a ∈ bounds.greatest) :
    bounds.Admits a := by
  have hordered : ∀ least ∈ bounds.least, ∀ greatest ∈ bounds.greatest, least ≤ greatest := by
    intro least hleast greatest hgreatest
    by_contra hlt
    exact h ⟨least, hleast, greatest, hgreatest, not_le.1 hlt⟩
  rcases ha with ha | ha
  · exact ⟨fun least hleast => (Option.mem_unique hleast ha).le, hordered a ha⟩
  · exact ⟨fun least hleast => hordered least hleast a ha, fun greatest hgreatest => (Option.mem_unique ha hgreatest).le⟩

/-- **When the last bounds enforce all:** when none of them is tighter, or when the last ones are crossed. Every bound has to
be the quantity of something, or there would be nothing to tell bounds apart by. -/
theorem last_enforces_iff {V : Type} (quantity : V → α) (asked : List (Bounds α))
    (hreal : ∀ bounds ∈ asked, ∀ a, a ∈ bounds.least ∨ a ∈ bounds.greatest → ∃ v, quantity v = a) :
    (last asked).Enforces quantity asked ↔ (last asked).Crossed ∨ ∀ bounds ∈ asked, (last asked).Tightens bounds := by
  constructor
  · intro henforced
    by_cases hcrossed : (last asked).Crossed
    · exact Or.inl hcrossed
    · refine Or.inr fun bounds hbounds => ⟨?_, ?_⟩
      · intro least hleast
        obtain ⟨m, hm, other, hother, hside⟩ := exists_last hbounds Bounds.least hleast
        obtain ⟨v, rfl⟩ := hreal other hother m (Or.inl hside)
        exact ⟨_, hm, (henforced v (admits_end hcrossed (Or.inl hm)) bounds hbounds).1 least hleast⟩
      · intro greatest hgreatest
        obtain ⟨m, hm, other, hother, hside⟩ := exists_last hbounds Bounds.greatest hgreatest
        obtain ⟨v, rfl⟩ := hreal other hother m (Or.inr hside)
        exact ⟨_, hm, (henforced v (admits_end hcrossed (Or.inr hm)) bounds hbounds).2 greatest hgreatest⟩
  · rintro (hcrossed | htight) v hv bounds hbounds
    · exact absurd hv (hcrossed.not_admits _)
    · exact (htight bounds hbounds).admits hv

end Bounds

/-! ## Rules -/

namespace Number

/-- the place of a number in the order in which numbers are compared -/
def rank (n : Number) : ℤ := n.toBinary64.rank

end Number

namespace Rules

/-- the limits of the length of a string -/
def lengths (rules : Rules) : Bounds ℕ := ⟨rules.minLength, rules.maxLength⟩

def ranks (rules : Rules) : Bounds ℤ := ⟨rules.min.map Number.rank, rules.max.map Number.rank⟩

variable {rules : Rules}

/-- what is reported of a rule, if it fails, is all of one kind -/
theorem forall_reported_iff {α β : Type} (rule : Option α) (fails : α → Bool) (report : α → β) (p : β → Prop) :
    (∀ b ∈ ((rule.filter fails).map report).toList, p b) ↔ ∀ a ∈ rule, fails a = true → p (report a) := by
  cases rule with
  | none => simp
  | some a => cases h : fails a <;> simp [h]

/-- a string is within the limits just when validation finds no fault with its length -/
theorem lengths_admits_iff (patterns : PatternTable) (s : String) :
    rules.lengths.Admits s.length ↔ ∀ breach ∈ rules.stringBreaches patterns s, ∃ pattern, breach = .mismatch pattern := by
  simp only [stringBreaches, List.forall_mem_append, forall_reported_iff]
  simp [lengths, Bounds.Admits]

/-- a number is within the limits just when validation finds no fault with it but that it is not an integer -/
theorem ranks_admits_iff (n : Number) : rules.ranks.Admits n.rank ↔ ∀ breach ∈ rules.numberBreaches n, breach = .notInteger := by
  have hinteger : ∀ breach ∈ (if rules.integer && !n.isIntegral then [Breach.notInteger] else []), breach = .notInteger := by
    split_ifs <;> simp
  simp only [numberBreaches, List.forall_mem_append, forall_reported_iff, and_iff_left hinteger]
  simp [ranks, Bounds.Admits, Number.rank, Numeric.Binary64.lt]

end Rules

/-! ## Checks -/

def StringRules.lengths (rules : StringRules) : Bounds ℕ := ⟨rules.minLength, rules.maxLength⟩

def NumberRules.ranks (rules : NumberRules) : Bounds ℤ := ⟨rules.min.map Number.rank, rules.max.map Number.rank⟩

namespace Node

/-- the bound that a check carries, if its kind is one of those given -/
def boundOf {α : Type} (kinds : List String) (read : Number → Option α) (check : Check) : Option α :=
  match check.2.lookup "value" with
  | some (.number n) => if check.1 ∈ kinds then read n else none
  | _ => none

/-- what a check asks of the length of a string -/
def lengthBounds (check : Check) : Bounds ℕ :=
  ⟨boundOf ["min", "length"] Number.toNat? check, boundOf ["max", "length"] Number.toNat? check⟩

/-- what a check asks of a number, by rank -/
def rankBounds (check : Check) : Bounds ℤ :=
  ⟨boundOf ["min"] (fun n => some n.rank) check, boundOf ["max"] (fun n => some n.rank) check⟩

theorem boundOf_of_number {α : Type} {check : Check} {n : Number} (h : checkNumber check = .ok n) (kinds : List String)
    (read : Number → Option α) : boundOf kinds read check = if check.1 ∈ kinds then read n else none := by
  rw [checkNumber] at h
  rw [boundOf]
  cases hvalue : check.2.lookup "value" with
  | none => simp [hvalue] at h
  | some value =>
    cases value with
    | number m =>
      rw [hvalue] at h
      cases h
      rfl
    | _ => simp [hvalue] at h

theorem boundOf_of_length {check : Check} {length : ℕ} (h : checkLength check = .ok length) (kinds : List String) :
    boundOf kinds Number.toNat? check = if check.1 ∈ kinds then some length else none := by
  cases hnumber : checkNumber check with
  | error fault => simp [checkLength, hnumber, bind, Except.bind] at h
  | ok n =>
    rw [boundOf_of_number hnumber]
    simp only [checkLength, hnumber, bind, Except.bind] at h
    cases hlength : n.toNat? with
    | none => simp [hlength] at h
    | some m =>
      rw [hlength] at h
      cases h
      rfl

theorem boundOf_of_unknown {α : Type} {kind : String} {kinds : List String} (h : kind ∉ kinds) (read : Number → Option α)
    (members : Members) : boundOf kinds read (kind, members) = none := by
  unfold boundOf
  split
  · rw [if_neg h]
  · rfl

/-- a result that is taken further succeeds only if it succeeds itself -/
theorem ok_of_bind {ε α β : Type} {result : Except ε α} {next : α → Except ε β} {b : β} (h : result >>= next = .ok b) :
    ∃ a, result = .ok a ∧ next a = .ok b := by
  cases result with
  | error e => cases h
  | ok a => exact ⟨a, rfl, h⟩

/-- **What one check does to the limits of a string:** its bounds take the place of earlier ones. -/
theorem addStringCheck_lengths {rules next : StringRules} {check : Check} (h : addStringCheck rules check = .ok next) :
    next.lengths = (lengthBounds check).overriding rules.lengths := by
  obtain ⟨kind, members⟩ := check
  unfold addStringCheck at h
  dsimp only at h
  rw [lengthBounds, Bounds.overriding]
  split at h
  · obtain ⟨length, hlength, ⟨⟩⟩ := ok_of_bind h
    simp [boundOf_of_length hlength, StringRules.lengths]
  · obtain ⟨length, hlength, ⟨⟩⟩ := ok_of_bind h
    simp [boundOf_of_length hlength, StringRules.lengths]
  · obtain ⟨length, hlength, ⟨⟩⟩ := ok_of_bind h
    simp [boundOf_of_length hlength, StringRules.lengths]
  · cases h
    simp [boundOf_of_unknown, StringRules.lengths]
  · cases hpattern : (members.lookup "regex").bind Json.asString? with
    | none => simp [hpattern, throw, throwThe, MonadExceptOf.throw] at h
    | some pattern =>
      rw [hpattern] at h
      cases h
      simp [boundOf_of_unknown, StringRules.lengths]
  · next hmin hmax hlength _ _ =>
    cases h
    have hleast : kind ∉ ["min", "length"] := by simpa using ⟨hmin, hlength⟩
    have hgreatest : kind ∉ ["max", "length"] := by simpa using ⟨hmax, hlength⟩
    rw [boundOf_of_unknown hleast, boundOf_of_unknown hgreatest]
    rfl

/-- **What one check does to the limits of a number.** -/
theorem addNumberCheck_ranks {rules next : NumberRules} {check : Check} (h : addNumberCheck rules check = .ok next) :
    next.ranks = (rankBounds check).overriding rules.ranks := by
  obtain ⟨kind, members⟩ := check
  unfold addNumberCheck at h
  dsimp only at h
  rw [rankBounds, Bounds.overriding]
  split at h
  · obtain ⟨bound, hbound, ⟨⟩⟩ := ok_of_bind h
    simp [boundOf_of_number hbound, NumberRules.ranks]
  · obtain ⟨bound, hbound, ⟨⟩⟩ := ok_of_bind h
    simp [boundOf_of_number hbound, NumberRules.ranks]
  · cases h
    simp [boundOf_of_unknown, NumberRules.ranks]
  · next hmin hmax _ =>
    cases h
    have hleast : kind ∉ ["min"] := by simpa using hmin
    have hgreatest : kind ∉ ["max"] := by simpa using hmax
    rw [boundOf_of_unknown hleast, boundOf_of_unknown hgreatest]
    rfl

/-- **What all checks do to the limits:** the last bounds are left. -/
theorem foldlM_limits {σ α : Type} {add : σ → Check → Except NodeFault σ} (limits : σ → Bounds α) (asked : Check → Bounds α)
    (hstep : ∀ state check next, add state check = .ok next → limits next = (asked check).overriding (limits state))
    {checks : List Check} {state final : σ} (h : checks.foldlM add state = .ok final) :
    limits final = (Bounds.last (checks.map asked)).overriding (limits state) := by
  induction checks generalizing state with
  | nil =>
    cases h
    rfl
  | cons check rest ih =>
    rw [List.foldlM_cons] at h
    obtain ⟨next, hcheck, hrest⟩ := ok_of_bind h
    rw [ih hrest, hstep state check next hcheck, List.map_cons, Bounds.last_cons, Bounds.overriding_assoc]

/-! ## Nodes -/

/-- a node whose own faults are none has checks, and rules that they are folded into -/
theorem folded_of_sound {σ : Type} {kind : NodeKind} {members : Members} {add : σ → Check → Except NodeFault σ}
    (hadd : ∀ check state, fault? (add state check) = (knownFaults kind check.1 check.2).head?)
    (hsound : checkFaults kind members = []) (state : σ) :
    ∃ checks final, checksOf members = .ok checks ∧ checks.foldlM add state = .ok final := by
  have hfault := fault?_checks kind members hadd state
  rw [hsound, List.head?_nil] at hfault
  cases hresult : (do (← checksOf members).foldlM add state : Except NodeFault σ) with
  | error fault =>
    rw [hresult] at hfault
    cases hfault
  | ok final =>
    obtain ⟨checks, hchecks, hfinal⟩ := ok_of_bind hresult
    exact ⟨checks, final, hchecks, hfinal⟩

/-- **Checks that are folded into limits.** The last bounds are left, and they enforce all just when none is tighter, or when
they are crossed. -/
theorem limits_of_sound {σ α V : Type} [LinearOrder α] {kind : NodeKind} {members : Members}
    {add : σ → Check → Except NodeFault σ}
    (hadd : ∀ check state, fault? (add state check) = (knownFaults kind check.1 check.2).head?)
    (limits : σ → Bounds α) (asked : Check → Bounds α)
    (hstep : ∀ state check next, add state check = .ok next → limits next = (asked check).overriding (limits state))
    (quantity : V → α) (hreal : ∀ check a, a ∈ (asked check).least ∨ a ∈ (asked check).greatest → ∃ v, quantity v = a)
    (state : σ) (hstate : limits state = ⟨none, none⟩) (hsound : checkFaults kind members = []) :
    ∃ checks final, checksOf members = .ok checks ∧ checks.foldlM add state = .ok final ∧
      limits final = Bounds.last (checks.map asked) ∧
      ((limits final).Enforces quantity (checks.map asked) ↔
        (limits final).Crossed ∨ ∀ bounds ∈ checks.map asked, (limits final).Tightens bounds) := by
  obtain ⟨checks, final, hchecks, hfinal⟩ := folded_of_sound hadd hsound state
  have hlimits : limits final = Bounds.last (checks.map asked) := by
    rw [foldlM_limits limits asked hstep hfinal, hstate, Bounds.overriding_none]
  refine ⟨checks, final, hchecks, hfinal, hlimits, ?_⟩
  rw [hlimits]
  exact Bounds.last_enforces_iff quantity _ (List.forall_mem_map.2 fun check _ => hreal check)

section Decoding

variable {members : Members} {checks : List Check} (hchecks : checksOf members = .ok checks) (path : String)
include hchecks

theorem decodeAt_string {rules : StringRules} (hkind : kind? members = some .string)
    (hrules : checks.foldlM addStringCheck {} = .ok rules) :
    decodeAt path (.object members) = .ok (.leaf (.string rules)) := by
  obtain ⟨tag, htag, hname⟩ := Option.bind_eq_some_iff.1 hkind
  rw [decodeAt]
  simp only [htag, hname, stringRules, hchecks, bind, Except.bind, hrules]
  rfl

theorem decodeAt_number {rules : NumberRules} (hkind : kind? members = some .number)
    (hrules : checks.foldlM addNumberCheck {} = .ok rules) :
    decodeAt path (.object members) = .ok (.leaf (.number rules)) := by
  obtain ⟨tag, htag, hname⟩ := Option.bind_eq_some_iff.1 hkind
  rw [decodeAt]
  simp only [htag, hname, numberRules, hchecks, bind, Except.bind, hrules]
  rfl

end Decoding

theorem exists_length (n : ℕ) : ∃ s : String, s.length = n := ⟨String.ofList (List.replicate n 'a'), by simp⟩

theorem exists_rank {check : Check} {r : ℤ} (h : r ∈ (rankBounds check).least ∨ r ∈ (rankBounds check).greatest) :
    ∃ n : Number, n.rank = r := by
  have hbound : ∀ kinds, r ∈ boundOf kinds (fun n => some n.rank) check → ∃ n : Number, n.rank = r := by
    intro kinds hr
    unfold boundOf at hr
    split at hr
    · split_ifs at hr
      · exact ⟨_, Option.some.inj hr⟩
      · cases hr
    · cases hr
  exact h.elim (hbound _) (hbound _)

/-- **When the limits of a node enforce its checks.** A string or number node whose checks are well-formed is read, and its
limits are the last least and the last greatest value that its checks ask for; validation looks at these. Whatever is within
the limits meets all checks if and only if no check asks for more than the limits do on its side, or the limits are crossed,
so that nothing is within them. -/
theorem limits_enforce_iff (members : Members) (path : String) :
    (kind? members = some .string → checkFaults .string members = [] →
      ∃ node checks, decodeAt path (.object members) = .ok node ∧ checksOf members = .ok checks ∧
        node.spec.rules.lengths = Bounds.last (checks.map lengthBounds) ∧
        (∀ patterns s, node.spec.rules.lengths.Admits s.length ↔
          ∀ breach ∈ node.spec.rules.stringBreaches patterns s, ∃ pattern, breach = .mismatch pattern) ∧
        (node.spec.rules.lengths.Enforces String.length (checks.map lengthBounds) ↔
          node.spec.rules.lengths.Crossed ∨
            ∀ bounds ∈ checks.map lengthBounds, node.spec.rules.lengths.Tightens bounds)) ∧
    (kind? members = some .number → checkFaults .number members = [] →
      ∃ node checks, decodeAt path (.object members) = .ok node ∧ checksOf members = .ok checks ∧
        node.spec.rules.ranks = Bounds.last (checks.map rankBounds) ∧
        (∀ n, node.spec.rules.ranks.Admits n.rank ↔ ∀ breach ∈ node.spec.rules.numberBreaches n, breach = .notInteger) ∧
        (node.spec.rules.ranks.Enforces Number.rank (checks.map rankBounds) ↔
          node.spec.rules.ranks.Crossed ∨ ∀ bounds ∈ checks.map rankBounds, node.spec.rules.ranks.Tightens bounds)) := by
  refine ⟨?_, ?_⟩
  · intro hkind hsound
    obtain ⟨checks, rules, hchecks, hrules, hlimits, henforces⟩ := limits_of_sound fault?_addStringCheck
      StringRules.lengths lengthBounds (fun _ _ _ => addStringCheck_lengths) String.length
      (fun _ n _ => exists_length n) {} rfl hsound
    exact ⟨.leaf (.string rules), checks, decodeAt_string hchecks path hkind hrules, hchecks, hlimits,
      Rules.lengths_admits_iff, henforces⟩
  · intro hkind hsound
    obtain ⟨checks, rules, hchecks, hrules, hlimits, henforces⟩ := limits_of_sound fault?_addNumberCheck
      NumberRules.ranks rankBounds (fun _ _ _ => addNumberCheck_ranks) Number.rank
      (fun _ _ => exists_rank) {} rfl hsound
    exact ⟨.leaf (.number rules), checks, decodeAt_number hchecks path hkind hrules, hchecks, hlimits,
      Rules.ranks_admits_iff, henforces⟩

/-! ## Repeated checks -/

def wholeCheck (kind : String) (n : ℕ) : Check := (kind, [("kind", .string kind), ("value", .number (.int n))])

def checkedMembers (kind : NodeKind) (checks : List Check) : Members :=
  [("type", .string kind.name), ("checks", .array (checks.map fun check => .object check.2))]

def lengthChecks : List Check := [wholeCheck "min" 2, wholeCheck "max" 8, wholeCheck "min" 3, wholeCheck "length" 5]

def rangeChecks : List Check := [wholeCheck "max" 9, wholeCheck "min" 2, wholeCheck "max" 4]

/-- checks that are tightened one by one are enforced by the limits that are left -/
theorem tightened_enforced :
    (∃ node, decodeAt "$" (.object (checkedMembers .string lengthChecks)) = .ok node ∧
        node.spec.rules.lengths.Enforces String.length (lengthChecks.map lengthBounds)) ∧
      ∃ node, decodeAt "$" (.object (checkedMembers .number rangeChecks)) = .ok node ∧
        node.spec.rules.ranks.Enforces Number.rank (rangeChecks.map rankBounds) := by
  refine ⟨?_, ?_⟩
  · obtain ⟨node, checks, hdecode, hchecks, hlimits, -, henforces⟩ :=
      (limits_enforce_iff (checkedMembers .string lengthChecks) "$").1 rfl rfl
    obtain rfl : lengthChecks = checks := Except.ok.inj hchecks
    refine ⟨node, hdecode, henforces.2 (Or.inr ?_)⟩
    rw [hlimits]
    decide
  · obtain ⟨node, checks, hdecode, hchecks, hlimits, -, henforces⟩ :=
      (limits_enforce_iff (checkedMembers .number rangeChecks) "$").2 rfl rfl
    obtain rfl : rangeChecks = checks := Except.ok.inj hchecks
    refine ⟨node, hdecode, henforces.2 (Or.inr ?_)⟩
    rw [hlimits]
    decide +kernel

/-- Four characters meet the limits of a string that has to have five, and four the limits of a number of at most one. -/
theorem limit_lost :
    (∃ node, decodeAt "$" (.object (checkedMembers .string [wholeCheck "min" 5, wholeCheck "min" 3])) = .ok node ∧
        node.spec.rules.lengths.Admits "abcd".length ∧ ¬(lengthBounds (wholeCheck "min" 5)).Admits "abcd".length) ∧
      ∃ node, decodeAt "$" (.object (checkedMembers .number [wholeCheck "max" 1, wholeCheck "max" 9])) = .ok node ∧
        node.spec.rules.ranks.Admits (Number.int 4).rank ∧ ¬(rankBounds (wholeCheck "max" 1)).Admits (Number.int 4).rank :=
  ⟨⟨_, rfl, by decide, by decide⟩, _, rfl, by decide +kernel, by decide +kernel⟩

end Node

end DocumentModels
