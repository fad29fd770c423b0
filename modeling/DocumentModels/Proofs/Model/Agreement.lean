/-
What validation looks at in a document.

- `Spec.Agree`: two values agree at every declared position of a specification. Members that are not declared and the
  order of members are left open, at every level.
- `Agree.member_cases`: members that agree are the same, or both count as values of their field.
- `Agree.violations_eq`, `Agree.normalize_eq`: agreeing values break the same rules at the same paths, and are stored
  alike.
- `Collection.validate_of_agree`: documents that agree are validated alike, with one stored form or one list of
  violations.
- `stray_members_refused`: members out of place on two levels, under a rule that is broken.
-/
import Mathlib.Tactic
import DocumentModels.Proofs.Model.Run
import DocumentModels.Proofs.Model.Normalize
import DocumentModels.Proofs.Schema.Positions

namespace DocumentModels

namespace Spec

/-- **Two values agree at every declared position.** Objects under an object have the same declared members, each with
values that agree; arrays under an array are of one length and agree item by item; any other values are one value. -/
inductive Agree : Spec → Json → Json → Prop
  | same {spec : Spec} {value : Json} : Agree spec value value
  | array {rules : Rules} {element : Spec} {left right : List Json} :
    left.length = right.length →
      (∀ (i : ℕ) (a b : Json), left[i]? = some a → right[i]? = some b → Agree element a b) →
        Agree (.array rules element) (.array left) (.array right)
  | object {rules : Rules} {fields : List (String × Spec)} {left right : Members} :
    (∀ field ∈ fields, (left.lookup field.1).isSome = (right.lookup field.1).isSome) →
      (∀ field ∈ fields, ∀ a b : Json, left.lookup field.1 = some a → right.lookup field.1 = some b →
        Agree field.2 a b) →
        Agree (.object rules fields) (.object left) (.object right)

namespace Agree

variable {spec : Spec} {a b : Json}

/-! ## Members and items -/

/-- agreeing values are one value, or a field takes each of them as it is -/
theorem given_cases (h : Agree spec a b) :
    a = b ∨ (spec.given (some a) = .value a ∧ spec.given (some b) = .value b) := by
  cases h with
  | same => exact Or.inl rfl
  | array => exact Or.inr ⟨rfl, rfl⟩
  | object => exact Or.inr ⟨rfl, rfl⟩

/-- **Members that agree are the same, or both count as values.** -/
theorem member_cases {left right : Option Json} (hpresent : left.isSome = right.isSome)
    (hagree : ∀ a b, left = some a → right = some b → Agree spec a b) :
    left = right ∨ ∃ a b, left = some a ∧ right = some b ∧ spec.given left = .value a ∧ spec.given right = .value b := by
  cases left with
  | none =>
    cases right with
    | none => exact Or.inl rfl
    | some b => cases hpresent
  | some a =>
    cases right with
    | none => cases hpresent
    | some b =>
      rcases (hagree a b rfl rfl).given_cases with rfl | ⟨ha, hb⟩
      · exact Or.inl rfl
      · exact Or.inr ⟨a, b, rfl, rfl, ha, hb⟩

theorem isNull_eq (h : Agree spec a b) : a.isNull = b.isNull := by
  cases h <;> rfl

/-! ## Values with their parts -/

/-- **Agreeing values break the same rules,** at the same paths and in the same order. -/
theorem violations_eq (patterns : PatternTable) (h : Agree spec a b) :
    ∀ path, spec.violations patterns path a = spec.violations patterns path b := by
  induction h with
  | same => exact fun _ => rfl
  | @array rules element left right hlength hitems ih =>
    intro path
    rw [violations, violations]
    congr 1
    refine List.ext_getElem (by simp [hlength]) ?_
    intro i hleft hright
    simp only [List.length_map, List.length_zipIdx] at hleft hright
    have ha := List.getElem?_eq_getElem hleft
    have hb := List.getElem?_eq_getElem hright
    simp only [List.getElem_map, List.getElem_zipIdx, (hitems i _ _ ha hb).isNull_eq, ih i _ _ ha hb]
  | @object rules fields left right hpresent hmembers ih =>
    intro path
    rw [violations, violations, fieldViolations_eq, fieldViolations_eq]
    refine List.flatMap_congr ?_
    intro field hfield
    rcases member_cases (hpresent field hfield) (hmembers field hfield) with hsame | ⟨a, b, ha, hb, hleft, hright⟩
    · rw [hsame]
    · unfold faults
      rw [hleft, hright]
      exact ih field hfield a b ha hb _

/-- **Agreeing values are stored alike.** -/
theorem normalize_eq (h : Agree spec a b) : spec.normalize a = spec.normalize b := by
  induction h with
  | same => rfl
  | @array rules element left right hlength hitems ih =>
    rw [normalize_array, normalize_array]
    congr 1
    refine List.ext_getElem (by simp [hlength]) ?_
    intro i hleft hright
    rw [List.length_map] at hleft hright
    have ha := List.getElem?_eq_getElem hleft
    have hb := List.getElem?_eq_getElem hright
    simp only [List.getElem_map, keptItem, (hitems i _ _ ha hb).isNull_eq, ih i _ _ ha hb]
  | @object rules fields left right hpresent hmembers ih =>
    rw [normalize, normalize, normalizeFields_eq, normalizeFields_eq]
    congr 2
    refine List.flatMap_congr ?_
    intro field hfield
    rcases member_cases (hpresent field hfield) (hmembers field hfield) with hsame | ⟨a, b, ha, hb, hleft, hright⟩
    · rw [hsame]
    · unfold entry
      rw [hleft, hright]
      simp only [ih field hfield a b ha hb]

end Agree

end Spec

/-! ## Documents -/

namespace Schema

variable {schema : Schema} {a b : Json}

theorem violations_of_agree (h : Spec.Agree schema.root a b) (patterns : PatternTable) :
    schema.violations patterns a = schema.violations patterns b := by
  have hviolations := h.violations_eq patterns ""
  cases h with
  | same => rfl
  | object =>
    rw [Schema.root, Spec.violations, Spec.violations] at hviolations
    exact hviolations

theorem normalize_of_agree (h : Spec.Agree schema.root a b) : schema.normalize a = schema.normalize b := by
  have hstored := h.normalize_eq
  cases h with
  | same => rfl
  | object =>
    rw [Schema.root, Spec.normalize, Spec.normalize, Json.object.injEq] at hstored
    exact hstored

end Schema

namespace Collection

/-- **Undeclared members and member order never matter.** Documents that agree at every position that the schema of a
model declares are validated alike: both are accepted with one stored form, or both are refused with one list of
violations. -/
theorem validate_of_agree (model : Collection) {a b : Json} (h : Spec.Agree model.schema.root a b) :
    model.validate a = model.validate b := by
  rw [validate, validate, Schema.validate, Schema.validate, Schema.violations_of_agree h, Schema.normalize_of_agree h]

/-! ## Members out of place on two levels -/

def chapterSpec : Spec :=
  .object { required := true } [("heading", .leaf { required := true } .string), ("pages", .leaf { required := true } .number)]

def volumeSchema : Schema :=
  ⟨"volumes", [("title", .leaf { required := true } .string), ("chapters", .array { required := true } chapterSpec)]⟩

def volumeModel : Collection := fresh (Emit.modelName "volumes") "volumes" volumeSchema [] false []

/-- a chapter without heading, and an item that is null -/
def volumeDocument : Json :=
  .object [("title", .string "A"), ("chapters", .array [.object [("pages", .number (.int 3))], .null])]

/-- the same with its members in another order, and with members that are not declared -/
def strayDocument : Json :=
  .object [("chapters", .array [.object [("draft", .bool true), ("pages", .number (.int 3)), ("title", .string "B")], .null]),
    ("pages", .string "many"), ("title", .string "A")]

/-- the missing heading is reported of both, and nothing else of either -/
theorem stray_members_refused :
    Spec.Agree volumeModel.schema.root volumeDocument strayDocument ∧
      volumeModel.validate strayDocument = .error [⟨"chapters.0.heading", .missing⟩] := by
  have hchapter : Spec.Agree chapterSpec (.object [("pages", .number (.int 3))])
      (.object [("draft", .bool true), ("pages", .number (.int 3)), ("title", .string "B")]) := by
    refine .object (by decide) ?_
    intro field hfield a b ha hb
    fin_cases hfield
    · cases ha
    · cases ha
      cases hb
      exact .same
  have hagree : Spec.Agree volumeModel.schema.root volumeDocument strayDocument := by
    refine .object (by decide) ?_
    intro field hfield a b ha hb
    fin_cases hfield
    · cases ha
      cases hb
      exact .same
    · cases ha
      cases hb
      refine .array rfl ?_
      rintro (_ | _ | i) a b ⟨⟩ ⟨⟩
      · exact hchapter
      · exact .same
  have hrefused : volumeModel.validate volumeDocument = .error [⟨"chapters.0.heading", .missing⟩] := rfl
  exact ⟨hagree, (validate_of_agree volumeModel hagree).symm.trans hrefused⟩

end Collection

end DocumentModels
