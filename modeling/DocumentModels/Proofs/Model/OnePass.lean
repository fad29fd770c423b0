/-
Validation in one pass.

`violations` and `normalize` go through a document separately, and each part is looked at for itself. Here both are done in
one pass: what is broken is added to one list that all parts share, and what is stored is built up member by member.
- `Spec.check`, `Spec.checkFields`, `Schema.check`: the pass.
- `run_check`, `run_checkFields`: the pass stores what `normalize` says and adds what `violations` says, whatever has been
  found before, by induction on the position.
- `Schema.validate_eq_check`: so validation is the pass, with nothing found before.
-/
import Mathlib.Tactic
import DocumentModels.Proofs.Model.Normalize

namespace DocumentModels

/-- a pass over a document, with the violations that have been found so far -/
abbrev Pass := StateM (List Violation)

namespace Pass

/-- add violations after those that have been found -/
def report (violations : List Violation) : Pass Unit := modify fun found => found ++ violations

variable {α β : Type}

theorem run_pure (value : α) (found : List Violation) : (pure value : Pass α).run found = (value, found) := rfl

theorem run_report (violations found : List Violation) : (report violations).run found = ((), found ++ violations) := rfl

theorem run_bind {pass : Pass α} {found later : List Violation} {value : α} (h : pass.run found = (value, later))
    (next : α → Pass β) : (pass >>= next).run found = (next value).run later := by
  rw [StateT.run_bind, h]
  rfl

theorem run_mapM {items : List α} {pass : α → Pass β} {result : α → β} {own : α → List Violation}
    (h : ∀ item ∈ items, ∀ found, (pass item).run found = (result item, found ++ own item)) (found : List Violation) :
    (items.mapM pass).run found = (items.map result, found ++ (items.map own).flatten) := by
  induction items generalizing found with
  | nil =>
    rw [List.map_nil, List.map_nil, List.flatten_nil, List.append_nil]
    rfl
  | cons item items ih =>
    have hfirst := h item List.mem_cons_self found
    have hrest := ih (fun other hother => h other (List.mem_cons_of_mem _ hother)) (found ++ own item)
    rw [List.mapM_cons, run_bind hfirst, run_bind hrest, run_pure, List.map_cons, List.map_cons, List.flatten_cons,
      List.append_assoc]

end Pass

namespace Spec

mutual

/-- check a value at a path: report what it breaks, and give it as it is stored -/
def check (patterns : PatternTable) (path : String) : Spec → Json → Pass Json
  | .leaf rules type, value => do
    Pass.report ((rules.leafBreaches patterns type value).map (⟨path, ·⟩))
    return value
  | .array _ element, .array items => do
    let stored ← items.zipIdx.mapM fun item =>
      if item.1.isNull then pure .null else check patterns (itemPath path item.2) element item.1
    return .array stored
  | .object _ fields, .object members => do
    let stored ← checkFields patterns path fields members []
    return .object stored
  | spec, value => do
    Pass.report [⟨path, .wrongType spec.tag value.kindName⟩]
    return value

/-- check the fields of an object at a path one after the other, and lay what is stored for them over what is there -/
def checkFields (patterns : PatternTable) (parent : String) : List (String × Spec) → Members → Members → Pass Members
  | [], _, stored => return stored
  | (name, spec) :: rest, members, stored =>
    match spec.given (members.lookup name) with
    | .lacking => do
      Pass.report [⟨fieldPath parent name, .missing⟩]
      checkFields patterns parent rest members stored
    | .absent =>
      match spec.rules.default with
      | some value => checkFields patterns parent rest members (upsert name value stored)
      | none => checkFields patterns parent rest members stored
    | .null => checkFields patterns parent rest members (upsert name .null stored)
    | .value value => do
      let kept ← check patterns (fieldPath parent name) spec value
      checkFields patterns parent rest members (upsert name kept stored)

end

variable {patterns : PatternTable}

mutual

/-- **A pass stores what `normalize` says, and adds what `violations` says** to what has been found before. -/
theorem run_check : ∀ (spec : Spec) (path : String) (value : Json) (found : List Violation),
    (check patterns path spec value).run found = (spec.normalize value, found ++ spec.violations patterns path value)
  | .leaf rules type, path, value, found => by
    rw [check, Pass.run_bind (Pass.run_report _ found), Pass.run_pure, normalize_leaf, violations]
  | .array rules element, path, value, found => by
    cases value with
    | array items =>
      have hitems : ∀ item ∈ items.zipIdx, ∀ found,
          (if item.1.isNull then pure .null else check patterns (itemPath path item.2) element item.1 : Pass Json).run found
            = (element.keptItem item.1,
                found ++ if item.1.isNull then [] else violations patterns (itemPath path item.2) element item.1) := by
        intro item _ found
        rw [keptItem]
        split_ifs
        · rw [Pass.run_pure, List.append_nil]
        · exact run_check element (itemPath path item.2) item.1 found
      have hkept : items.zipIdx.map (fun item => element.keptItem item.1) = items.map element.keptItem := by
        have hfirst := congrArg (List.map element.keptItem) (List.zipIdx_map_fst 0 items)
        rwa [List.map_map] at hfirst
      rw [check, Pass.run_bind (Pass.run_mapM hitems found), Pass.run_pure, hkept, normalize_array, violations]
    | _ => rw [check, Pass.run_bind (Pass.run_report _ found), Pass.run_pure, normalize, violations] <;> simp
  | .object rules fields, path, value, found => by
    cases value with
    | object members =>
      rw [check, Pass.run_bind (run_checkFields fields path members [] found), Pass.run_pure, normalize, violations]
    | _ => rw [check, Pass.run_bind (Pass.run_report _ found), Pass.run_pure, normalize, violations] <;> simp

theorem run_checkFields : ∀ (fields : List (String × Spec)) (parent : String) (members stored : Members)
    (found : List Violation), (checkFields patterns parent fields members stored).run found
      = (Members.overlay stored (normalizeFields fields members), found ++ fieldViolations patterns parent fields members)
  | [], parent, members, stored, found => by
    rw [checkFields, Pass.run_pure, normalizeFields, fieldViolations, List.append_nil]
    rfl
  | (name, spec) :: rest, parent, members, stored, found => by
    have hrest := run_checkFields rest parent members
    rw [normalizeFields_cons, fieldViolations_cons, checkFields, entry, faults, Members.overlay, List.foldl_append]
    cases spec.given (members.lookup name) with
    | lacking =>
      simp only [Pass.run_bind (Pass.run_report _ found), hrest, List.append_assoc]
      rfl
    | absent =>
      cases spec.rules.default with
      | none => exact hrest stored found
      | some value => exact hrest (upsert name value stored) found
    | null => exact hrest (upsert name .null stored) found
    | value value =>
      simp only [Pass.run_bind (run_check spec (fieldPath parent name) value found), hrest, List.append_assoc]
      rfl

end

end Spec

namespace Schema

/-- check a document: what is not an object is reported as a whole -/
def check (schema : Schema) (patterns : PatternTable) : Json → Pass Members
  | .object members => Spec.checkFields patterns "" schema.fields members []
  | value => do
    Pass.report [⟨"$root", .notObject value.kindName⟩]
    return []

/-- **A pass over a document,** whatever has been found before. -/
theorem run_check (schema : Schema) (patterns : PatternTable) (document : Json) (found : List Violation) :
    (schema.check patterns document).run found
      = (schema.normalize document, found ++ schema.violations patterns document) := by
  cases document with
  | object members => exact Spec.run_checkFields schema.fields "" members [] found
  | _ => rfl

/-- **Validation is one pass with nothing found before.** -/
theorem validate_eq_check (schema : Schema) (patterns : PatternTable) (document : Json) :
    schema.validate patterns document =
      match (schema.check patterns document).run [] with
      | (stored, []) => .ok stored
      | (_, violations) => .error violations := by
  rw [run_check, List.nil_append, validate]
  cases schema.violations patterns document <;> rfl

end Schema

end DocumentModels
