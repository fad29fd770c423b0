/-
The faults of one node of a definition, without the nodes inside it.

Reading stops at the first fault it meets. Here all faults of a node are listed, in the order in which they are looked
for, and each reader is shown to fail by the first of its list.
- `fault?`, `fault?_bind`, `fault?_mapM`, `fault?_foldlM`: the fault of a result, and of results put together.
- `mapM_cons_ok`: what a traversal that succeeds has read.
- `checkFaults`, `fault?_checks`: the checks of a string or number node; the shapes of all checks come before the argument
  of any.
- `fault?_enumMembers`, `fault?_literalValue`: the members of an enum, the value of a literal.
- `ownFaults`: the faults of a node of any kind.
-/
import Mathlib.Tactic
import DocumentModels.Definition.Decode

namespace DocumentModels

/-! ## The fault of a result -/

def fault? {ε α : Type} : Except ε α → Option ε
  | .ok _ => none
  | .error e => some e

section

variable {ε α β σ : Type}

theorem fault?_eq_some {result : Except ε α} {e : ε} : fault? result = some e ↔ result = .error e := by
  cases result <;> simp [fault?]

theorem fault?_map (result : Except ε α) (f : α → β) : fault? (result.map f) = fault? result := by
  cases result <;> rfl

theorem fault?_bind (result : Except ε α) (next : α → Except ε β) {later : Option ε}
    (h : ∀ a, result = .ok a → fault? (next a) = later) : fault? (result >>= next) = (fault? result).or later := by
  cases result with
  | error e => rfl
  | ok a => exact h a rfl

theorem mapM_cons_ok {f : α → Except ε β} {item : α} {items : List α} {results : List β}
    (h : (item :: items).mapM f = .ok results) :
    ∃ first rest, f item = .ok first ∧ items.mapM f = .ok rest ∧ results = first :: rest := by
  rw [List.mapM_cons] at h
  cases hfirst : f item with
  | error e => simp [hfirst, bind, Except.bind] at h
  | ok first =>
    cases hrest : items.mapM f with
    | error e => simp [hfirst, hrest, bind, Except.bind] at h
    | ok rest =>
      simp only [hfirst, hrest, bind, Except.bind, pure, Except.pure] at h
      cases h
      exact ⟨first, rest, rfl, rfl, rfl⟩

theorem fault?_mapM {f : α → Except ε β} {faults : α → List ε} {items : List α}
    (h : ∀ item ∈ items, fault? (f item) = (faults item).head?) :
    fault? (items.mapM f) = (items.flatMap faults).head? := by
  induction items with
  | nil => rfl
  | cons item items ih =>
    obtain ⟨hitem, hitems⟩ := List.forall_mem_cons.1 h
    rw [List.mapM_cons, List.flatMap_cons, List.head?_append, ← hitem]
    apply fault?_bind
    intro b _
    rw [← ih hitems]
    exact fault?_map (items.mapM f) (b :: ·)

/-- a fold fails by the first fault of its items, if the state is of no account for it -/
theorem fault?_foldlM {f : σ → α → Except ε σ} {faults : α → List ε} {items : List α} (state : σ)
    (h : ∀ item ∈ items, ∀ state, fault? (f state item) = (faults item).head?) :
    fault? (items.foldlM f state) = (items.flatMap faults).head? := by
  induction items generalizing state with
  | nil => rfl
  | cons item items ih =>
    obtain ⟨hitem, hitems⟩ := List.forall_mem_cons.1 h
    rw [List.foldlM_cons, List.flatMap_cons, List.head?_append, ← hitem state]
    apply fault?_bind
    intro next _
    exact ih next hitems

end

namespace Node

/-! ## Checks -/

/-- what a known check carries -/
inductive Argument where
  | length
  | bound
  | pattern

/-- what a check of a name carries, on a kind of node; only known checks carry anything -/
def argument? (kind : NodeKind) (name : String) : Option Argument :=
  match kind with
  | .string => if name ∈ ["min", "max", "length"] then some .length else if name = "regex" then some .pattern else none
  | .number => if name ∈ ["min", "max"] then some .bound else none
  | _ => none

/-- what is wrong with the argument of a check of a name, given what it has to carry -/
def Argument.faults (name : String) (members : Members) : Argument → List NodeFault
  | .bound =>
    match members.lookup "value" with
    | some (.number _) => []
    | _ => [.checkNotNumeric name]
  | .length =>
    match members.lookup "value" with
    | some (.number n) => if n.toNat?.isSome then [] else [.lengthNotNatural name]
    | _ => [.checkNotNumeric name]
  | .pattern =>
    match members.lookup "regex" with
    | some (.string _) => []
    | _ => [.noPattern]

/-- what is wrong with the argument of a check of a name -/
def knownFaults (kind : NodeKind) (name : String) (members : Members) : List NodeFault :=
  match argument? kind name with
  | some argument => argument.faults name members
  | none => []

/-- what is wrong with the shape of an item of `checks` -/
def shapeFaults : Json → List NodeFault
  | .object members =>
    match members.lookup "kind" with
    | some (.string _) => []
    | _ => [.checkWithoutKind]
  | _ => [.checkNotObject]

/-- what is wrong with the argument of an item of `checks` -/
def argumentFaults (kind : NodeKind) : Json → List NodeFault
  | .object members =>
    match members.lookup "kind" with
    | some (.string name) => knownFaults kind name members
    | _ => []
  | _ => []

/-- what is wrong with the checks of a node: the shapes of all of them, then their arguments -/
def checkFaults (kind : NodeKind) (members : Members) : List NodeFault :=
  match members.lookup "checks" with
  | none => []
  | some (.array items) => items.flatMap shapeFaults ++ items.flatMap (argumentFaults kind)
  | some _ => [.checksNotArray]

theorem fault?_checkOf (item : Json) : fault? (checkOf item) = (shapeFaults item).head? := by
  cases item with
  | object members =>
    simp only [checkOf, shapeFaults]
    cases members.lookup "kind" with
    | none => rfl
    | some kind => cases kind <;> rfl
  | _ => rfl

theorem checkOf_ok {item : Json} {check : Check} (h : checkOf item = .ok check) :
    item = .object check.2 ∧ check.2.lookup "kind" = some (.string check.1) := by
  cases item with
  | object members =>
    rw [checkOf] at h
    cases hkind : members.lookup "kind" with
    | none => simp [hkind] at h
    | some value =>
      cases value with
      | string kind =>
        simp only [hkind, Option.bind_some, Json.asString?] at h
        cases h
        exact ⟨rfl, hkind⟩
      | _ => simp [hkind, Json.asString?] at h
  | _ => cases h

theorem fault?_checkNumber (check : Check) :
    fault? (checkNumber check) = (Argument.bound.faults check.1 check.2).head? := by
  rw [checkNumber, Argument.faults]
  cases check.2.lookup "value" with
  | none => rfl
  | some value => cases value <;> rfl

theorem fault?_checkLength (check : Check) :
    fault? (checkLength check) = (Argument.length.faults check.1 check.2).head? := by
  rw [checkLength, checkNumber, Argument.faults]
  cases check.2.lookup "value" with
  | none => rfl
  | some value =>
    cases value with
    | number n => cases h : n.toNat? <;> simp [h, fault?, bind, Except.bind]
    | _ => rfl

theorem fault?_addStringCheck (check : Check) (rules : StringRules) :
    fault? (addStringCheck rules check) = (knownFaults .string check.1 check.2).head? := by
  obtain ⟨name, members⟩ := check
  have hlength : ∀ (name : String) (next : Nat → StringRules), fault? (next <$> checkLength (name, members))
      = (Argument.length.faults name members).head? := by
    intro name next
    rw [← fault?_checkLength (name, members)]
    exact fault?_map _ next
  unfold addStringCheck
  dsimp only
  split
  · exact hlength "min" _
  · exact hlength "max" _
  · exact hlength "length" _
  · rfl
  · show _ = (Argument.pattern.faults "regex" members).head?
    rw [Argument.faults]
    cases members.lookup "regex" with
    | none => rfl
    | some value => cases value <;> rfl
  · next hmin hmax hlen _ hregex =>
    have hname : name ∉ ["min", "max", "length"] := by simpa using ⟨hmin, hmax, hlen⟩
    rw [knownFaults, argument?, if_neg hname, if_neg hregex]
    rfl

theorem fault?_addNumberCheck (check : Check) (rules : NumberRules) :
    fault? (addNumberCheck rules check) = (knownFaults .number check.1 check.2).head? := by
  obtain ⟨name, members⟩ := check
  have hbound : ∀ (name : String) (next : Number → NumberRules), fault? (next <$> checkNumber (name, members))
      = (Argument.bound.faults name members).head? := by
    intro name next
    rw [← fault?_checkNumber (name, members)]
    exact fault?_map _ next
  unfold addNumberCheck
  dsimp only
  split
  · exact hbound "min" _
  · exact hbound "max" _
  · rfl
  · next hmin hmax _ =>
    have hname : name ∉ ["min", "max"] := by simpa using ⟨hmin, hmax⟩
    rw [knownFaults, argument?, if_neg hname]
    rfl

/-- where all items are shaped, the arguments of the items are those of their checks -/
theorem flatMap_argumentFaults (kind : NodeKind) {items : List Json} {checks : List Check}
    (h : items.mapM checkOf = .ok checks) :
    items.flatMap (argumentFaults kind) = checks.flatMap fun check => knownFaults kind check.1 check.2 := by
  induction items generalizing checks with
  | nil =>
    cases h
    rfl
  | cons item items ih =>
    obtain ⟨check, rest, hitem, hitems, rfl⟩ := mapM_cons_ok h
    obtain ⟨rfl, hkind⟩ := checkOf_ok hitem
    rw [List.flatMap_cons, List.flatMap_cons, ih hitems, argumentFaults, hkind]

/-- **The checks of a node fail by the first of their faults.** -/
theorem fault?_checks {σ : Type} (kind : NodeKind) (members : Members) {add : σ → Check → Except NodeFault σ}
    (hadd : ∀ check state, fault? (add state check) = (knownFaults kind check.1 check.2).head?) (state : σ) :
    fault? (do (← checksOf members).foldlM add state) = (checkFaults kind members).head? := by
  rw [checksOf, checkFaults]
  cases members.lookup "checks" with
  | none => rfl
  | some value =>
    cases value with
    | array items =>
      rw [List.head?_append, ← fault?_mapM fun item _ => fault?_checkOf item]
      apply fault?_bind
      intro checks hchecks
      rw [flatMap_argumentFaults kind hchecks]
      exact fault?_foldlM state fun check _ state => hadd check state
    | _ => rfl

/-! ## Enums and literals -/

/-- what is wrong with a member of an enum -/
def memberFaults : Json → List NodeFault
  | .string _ => []
  | _ => [.memberNotString]

/-- what is wrong with the members of an enum, given as a list or as the values of an object -/
def entryFaults (members : Members) : List NodeFault :=
  match members.lookup "entries" with
  | some (.array items) => items.flatMap memberFaults
  | some (.object keyed) => (keyed.map Prod.snd).flatMap memberFaults
  | _ => [.noEntries]

/-- what is wrong with the value of a literal -/
def literalFaults (members : Members) : List NodeFault :=
  match members.lookup "value" with
  | none => [.noLiteralValue]
  | some (.array _) | some (.object _) => [.literalNotScalar]
  | some _ => []

theorem fault?_enumMembers (members : Members) : fault? (enumMembers members) = (entryFaults members).head? := by
  have hmember : ∀ value, fault? (enumMember value) = (memberFaults value).head? := by
    intro value
    cases value <;> rfl
  rw [enumMembers, entryFaults]
  cases members.lookup "entries" with
  | none => rfl
  | some value =>
    cases value with
    | array items => exact fault?_mapM fun item _ => hmember item
    | object keyed => exact fault?_mapM fun item _ => hmember item
    | _ => rfl

theorem fault?_literalValue (members : Members) : fault? (literalValue members) = (literalFaults members).head? := by
  rw [literalValue, literalFaults]
  cases members.lookup "value" with
  | none => rfl
  | some value => cases value <;> rfl

/-! ## Nodes -/

/-- a fault, if a member is missing -/
def missing (members : Members) (name : String) (fault : NodeFault) : List NodeFault :=
  if (members.lookup name).isNone then [fault] else []

/-- what is wrong with the shape of an object; a missing one is empty -/
def objectFaults (members : Members) : List NodeFault :=
  match members.lookup "shape" with
  | none | some (.object _) => []
  | some _ => [.shapeNotObject]

/-- what is wrong with the list of options of a union -/
def unionFaults (members : Members) : List NodeFault :=
  match members.lookup "options" with
  | some (.array _) => []
  | _ => [.noOptions]

/-- **The faults of a node itself**, in the order in which they are looked for. -/
def ownFaults : Json → List NodeFault
  | .object members =>
    match members.lookup "type" with
    | some (.string tag) =>
      match NodeKind.ofName? tag with
      | some .optional | some .nullable => missing members "innerType" .noInnerType
      | some .default => missing members "defaultValue" .noDefaultValue ++ missing members "innerType" .noInnerType
      | some .string => checkFaults .string members
      | some .number => checkFaults .number members
      | some .enum => entryFaults members
      | some .literal => literalFaults members
      | some .array => missing members "element" .noElement
      | some .object => objectFaults members
      | some .union => unionFaults members
      | some .boolean | some .date | none => []
    | _ => [.noType]
  | _ => [.notObject]

end Node

end DocumentModels
