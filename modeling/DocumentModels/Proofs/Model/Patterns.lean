/-
The pattern table of a model.

- `add_ok`: what one added pattern does to a table.
- `ofSchema_holds`: the table of a schema holds every declared pattern, at any depth, compiled from its text.
-/
import Mathlib.Tactic
import DocumentModels.Model.Collection

namespace DocumentModels

namespace PatternTable

/-- the table has the pattern of a text, compiled from it -/
def Holds (table : PatternTable) (text : String) : Prop :=
  ∃ expr, Pattern.parse? text = some expr ∧ table.lookup text = some expr

/-- every pattern of the table is compiled from its text -/
def Sound (table : PatternTable) : Prop := ∀ text expr, table.lookup text = some expr → Pattern.parse? text = some expr

theorem lookup_concat (table : PatternTable) (text : String) (expr : Pattern.Syntax) (other : String) :
    (table ++ [(text, expr)]).lookup other = (table.lookup other).or (if other = text then some expr else none) := by
  rw [List.lookup_append, List.lookup_cons, List.lookup_nil]
  by_cases h : other = text
  · simp [h]
  · simp [h, beq_false_of_ne h]

/-- an added pattern is held, and so are those that were -/
theorem add_ok {table next : PatternTable} {item : String × String} (hsound : table.Sound)
    (h : table.add item = .ok next) :
    next.Sound ∧ next.Holds item.2 ∧ ∀ text, table.Holds text → next.Holds text := by
  unfold add at h
  cases hfind : table.lookup item.2 with
  | some expr =>
    rw [hfind] at h
    cases h
    exact ⟨hsound, ⟨expr, hsound _ _ hfind, hfind⟩, fun _ => id⟩
  | none =>
    rw [hfind] at h
    cases hparse : Pattern.parse? item.2 with
    | none =>
      simp only [hparse] at h
      cases h
    | some expr =>
      simp only [hparse] at h
      cases h
      refine ⟨?_, ⟨expr, hparse, ?_⟩, ?_⟩
      · intro text other hother
        rw [lookup_concat] at hother
        cases hold : table.lookup text with
        | some old =>
          rw [hold, Option.some_or] at hother
          cases hother
          exact hsound text _ hold
        | none =>
          rw [hold, Option.none_or] at hother
          split_ifs at hother with htext
          cases hother
          rw [htext, hparse]
      · rw [lookup_concat, hfind, Option.none_or, if_pos rfl]
      · rintro text ⟨old, hold, hlookup⟩
        exact ⟨old, hold, by rw [lookup_concat, hlookup, Option.some_or]⟩

theorem foldlM_add_ok {items : List (String × String)} {table result : PatternTable} (hsound : table.Sound)
    (h : items.foldlM add table = .ok result) :
    (∀ item ∈ items, result.Holds item.2) ∧ ∀ text, table.Holds text → result.Holds text := by
  induction items generalizing table with
  | nil =>
    cases h
    exact ⟨List.forall_mem_nil _, fun _ => id⟩
  | cons item items ih =>
    rw [List.foldlM_cons] at h
    cases hadd : table.add item with
    | error e =>
      rw [hadd] at h
      cases h
    | ok next =>
      rw [hadd] at h
      obtain ⟨hnext, hitem, hkeep⟩ := add_ok hsound hadd
      obtain ⟨hitems, hlater⟩ := ih hnext h
      refine ⟨?_, fun text htext => hlater text (hkeep text htext)⟩
      intro other hother
      rcases List.mem_cons.1 hother with rfl | hother
      · exact hlater _ hitem
      · exact hitems other hother

/-- **The table of a schema holds every declared pattern.** -/
theorem ofSchema_holds {schema : Schema} {table : PatternTable} (h : ofSchema schema = .ok table) :
    ∀ item ∈ Spec.fieldPatterns "" schema.fields, table.Holds item.2 := by
  have hempty : Sound [] := by
    intro text expr hfind
    cases hfind
  exact (foldlM_add_ok hempty h).1

end PatternTable

end DocumentModels
