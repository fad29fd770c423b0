/-
The reader of definitions accepts what has no fault, and blames the first one.

- `outline`, `mem_outline`: the nodes of a document in document order, each with its path; they are just the nodes that
  are reached from it by going from a node to its parts.
- `faults`: the faults of a document, node by node in that order.
- `fault?_decodeAt_eq`: reading fails by the first of them, by induction on parts.
- `decode_blames_first`: reading fails just when a node that is reached has a fault, and then by the first fault of the
  first such node.
-/
import Mathlib.Tactic
import DocumentModels.Proofs.Definition.Parts

namespace DocumentModels

namespace Node

/-! ## Document order -/

/-- **The nodes of a document in document order**, each with its path: a node, then what is in its parts. -/
def outline (path : String) (value : Json) : List (String × Json) :=
  (path, value) :: (parts value).attach.flatMap fun part => outline (path ++ part.1.1) part.1.2
termination_by sizeOf value
decreasing_by exact sizeOf_part_lt part.2

theorem outline_eq (path : String) (value : Json) :
    outline path value = (path, value) :: (parts value).flatMap fun part => outline (path ++ part.1) part.2 := by
  rw [outline]
  simp only [List.flatMap_subtype, List.unattach_attach]

/-- one place lies directly inside another: its node is a part of the other's -/
def Inside (outer inner : String × Json) : Prop := ∃ part ∈ parts outer.2, inner = (outer.1 ++ part.1, part.2)

/-- the places that are reached from a document, by any number of steps -/
def Reached (path : String) (value : Json) (place : String × Json) : Prop :=
  Relation.ReflTransGen Inside (path, value) place

/-- **An outline lists just the places that are reached.** -/
theorem mem_outline (value : Json) (path : String) (place : String × Json) :
    place ∈ outline path value ↔ Reached path value place := by
  induction value using partsInduction generalizing path with
  | node value ih =>
    rw [outline_eq, List.mem_cons, List.mem_flatMap, Reached, Relation.ReflTransGen.cases_head_iff]
    refine or_congr eq_comm ⟨?_, ?_⟩
    · rintro ⟨part, hpart, hplace⟩
      exact ⟨_, ⟨part, hpart, rfl⟩, (ih part hpart _).1 hplace⟩
    · rintro ⟨_, ⟨part, hpart, rfl⟩, hplace⟩
      exact ⟨part, hpart, (ih part hpart _).2 hplace⟩

/-! ## Faults in document order -/

/-- the faults of a document, node by node in document order, each at the path of its node -/
def faults (path : String) (value : Json) : List DefinitionError :=
  (outline path value).flatMap fun place => (ownFaults place.2).map (.invalidNode place.1)

theorem faults_eq (path : String) (value : Json) :
    faults path value = (ownFaults value).map (.invalidNode path)
      ++ (parts value).flatMap fun part => faults (path ++ part.1) part.2 := by
  rw [faults, outline_eq, List.flatMap_cons, List.flatMap_assoc]
  rfl

/-- **Reading fails by the first fault of the document.** -/
theorem fault?_decodeAt_eq (value : Json) (path : String) : fault? (decodeAt path value) = (faults path value).head? := by
  induction value using partsInduction generalizing path with
  | node value ih =>
    have hparts : fault? (decodeParts path (parts value))
        = ((parts value).flatMap fun part => faults (path ++ part.1) part.2).head? :=
      fault?_mapM fun part hpart => ih part hpart _
    rw [fault?_decodeAt, firstFault, hparts, faults_eq, List.head?_append, List.head?_map]

theorem decode_eq_error {value : Json} {error : DefinitionError} :
    decode value = .error error ↔ (faults "$" value).head? = some error := by
  rw [← fault?_decodeAt_eq, fault?_eq_some]
  rfl

theorem faults_eq_nil {path : String} {value : Json} :
    faults path value = [] ↔ ∀ place, Reached path value place → ownFaults place.2 = [] := by
  simp only [faults, List.flatMap_eq_nil_iff, List.map_eq_nil_iff, mem_outline]

/-- the first of all the images comes from the first item that has an image -/
theorem head?_flatMap_eq_some {α β : Type} {f : α → List β} {items : List α} {b : β} :
    (items.flatMap f).head? = some b ↔
      ∃ before a after, items = before ++ a :: after ∧ (∀ item ∈ before, f item = []) ∧ (f a).head? = some b := by
  induction items with
  | nil => simp
  | cons item items ih =>
    rw [List.flatMap_cons, List.head?_append]
    cases hitem : f item with
    | nil =>
      rw [List.head?_nil, Option.none_or, ih]
      constructor
      · rintro ⟨before, a, after, rfl, hbefore, ha⟩
        exact ⟨item :: before, a, after, rfl, List.forall_mem_cons.2 ⟨hitem, hbefore⟩, ha⟩
      · rintro ⟨_ | ⟨_, before⟩, a, after, hsplit, hbefore, ha⟩
        · cases hsplit
          simp [hitem] at ha
        · cases hsplit
          exact ⟨before, a, after, rfl, (List.forall_mem_cons.1 hbefore).2, ha⟩
    | cons first rest =>
      rw [List.head?_cons, Option.some_or]
      constructor
      · intro h
        exact ⟨[], item, items, rfl, by simp, by rw [hitem]; exact h⟩
      · rintro ⟨_ | ⟨_, before⟩, a, after, hsplit, hbefore, ha⟩
        · cases hsplit
          rwa [hitem] at ha
        · cases hsplit
          simp [hitem] at hbefore

/-- **The reader accepts just what has no fault, and blames the first one.** Reading fails just when a node that is
reached has a fault of its own. The error is the first fault of the node that comes first, in document order, among those
that have one, at the path that leads to it. -/
theorem decode_blames_first (value : Json) :
    ((∃ error, decode value = .error error) ↔ ∃ place, Reached "$" value place ∧ ownFaults place.2 ≠ []) ∧
      ∀ error, decode value = .error error ↔
        ∃ before path node after fault later,
          outline "$" value = before ++ (path, node) :: after ∧ (∀ earlier ∈ before, ownFaults earlier.2 = []) ∧
            ownFaults node = fault :: later ∧ error = .invalidNode path fault := by
  constructor
  · calc (∃ error, decode value = .error error)
      _ ↔ (faults "$" value).head?.isSome := by simp only [decode_eq_error, Option.isSome_iff_exists]
      _ ↔ ¬ faults "$" value = [] := by rw [List.isSome_head?]
      _ ↔ ∃ place, Reached "$" value place ∧ ownFaults place.2 ≠ [] := by
        simp only [faults_eq_nil, not_forall, exists_prop, ne_eq]
  · intro error
    rw [decode_eq_error, faults, head?_flatMap_eq_some]
    constructor
    · rintro ⟨before, ⟨path, node⟩, after, hsplit, hbefore, hfirst⟩
      rw [List.head?_map, Option.map_eq_some_iff] at hfirst
      obtain ⟨fault, hfault, rfl⟩ := hfirst
      obtain ⟨later, hlater⟩ := List.head?_eq_some_iff.1 hfault
      exact ⟨before, path, node, after, fault, later, hsplit, fun item hitem => List.map_eq_nil_iff.1 (hbefore item hitem),
        hlater, rfl⟩
    · rintro ⟨before, path, node, after, fault, later, hsplit, hbefore, hlater, rfl⟩
      refine ⟨before, (path, node), after, hsplit, ?_, ?_⟩
      · intro item hitem
        rw [hbefore item hitem, List.map_nil]
      · rw [hlater, List.map_cons, List.head?_cons]

/-- a node with two faults of its own, before a node with another: the first fault of the first node counts -/
example : decode (.object [("type", .string "object"), ("shape", .object [
      ("price", .object [("type", .string "default")]), ("title", .null)])])
    = .error (.invalidNode "$.price" .noDefaultValue) := by
  rfl

end Node

end DocumentModels
