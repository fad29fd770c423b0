/-
Members of objects.

- `lookup_overlay`: what a name finds after members are given; the last one given counts.
- `mem_names_overlay`, `names_overlay_sublist`: which names stand in an object after members are given, and in what order.
- `overlay_of_nodup`: members with new names are put at the end as they are.
- `nodup_overlay`, `distinct_overlay`: giving members keeps names distinct, in the members and inside their values.
-/
import Mathlib.Tactic
import DocumentModels.Json.Basic
import DocumentModels.Proofs.Named

namespace DocumentModels

namespace Members

/-! ## Overlays -/

/-- the last member of a name counts -/
theorem lookup_overlay (members more : Members) (key : String) :
    (members.overlay more).lookup key = (more.reverse.lookup key).or (members.lookup key) := by
  induction more generalizing members with
  | nil => rfl
  | cons member more ih =>
    obtain ⟨name, value⟩ := member
    show (overlay (upsert name value members) more).lookup key = _
    rw [ih, lookup_upsert, List.reverse_cons, List.lookup_append, Option.or_assoc, List.lookup_cons, List.lookup_nil]
    by_cases h : key = name
    · simp [h]
    · simp [h, beq_false_of_ne h]

theorem mem_overlay {members more : Members} {member : String × Json} (h : member ∈ members.overlay more) :
    member ∈ members ∨ member ∈ more := by
  induction more generalizing members with
  | nil => exact Or.inl h
  | cons first more ih =>
    rcases ih h with h | h
    · rcases mem_upsert h with h | h
      · exact Or.inl h
      · right
        rw [h]
        exact List.mem_cons_self
    · exact Or.inr (List.mem_cons_of_mem _ h)

theorem mem_names_overlay {members more : Members} {name : String} :
    name ∈ (members.overlay more).names ↔ name ∈ members.names ∨ name ∈ more.names := by
  induction more generalizing members with
  | nil => simp [overlay, names]
  | cons member more ih =>
    have hfirst : name ∈ names (upsert member.1 member.2 members) ↔ name ∈ members.names ∨ name = member.1 := by
      rw [names, names_upsert]
      split_ifs with hmem
      · exact ⟨Or.inl, fun h => h.elim id fun h => h ▸ hmem⟩
      · rw [List.mem_append, List.mem_singleton]
        rfl
    show name ∈ names (overlay (upsert member.1 member.2 members) more) ↔ _
    rw [ih, hfirst, or_assoc]
    simp [names]

/-- members are given in order, and none is added -/
theorem names_overlay_sublist (members more : Members) :
    (members.overlay more).names.Sublist (members.names ++ more.names) := by
  induction more generalizing members with
  | nil => simp [overlay, names]
  | cons member more ih =>
    refine (ih (upsert member.1 member.2 members)).trans ?_
    rw [names, names_upsert]
    split_ifs
    · exact (List.sublist_cons_self _ _).append_left _
    · rw [List.append_assoc]
      exact List.Sublist.refl _

theorem overlay_of_nodup {members more : Members} (h : (members ++ more).names.Nodup) :
    members.overlay more = members ++ more := by
  induction more generalizing members with
  | nil => rw [List.append_nil]; rfl
  | cons member more ih =>
    have hfirst : upsert member.1 member.2 members = members ++ [member] := by
      apply upsert_of_lookup_eq_none
      rw [List.lookup_eq_none_iff]
      intro entry hentry
      rw [names, List.map_append, List.nodup_append] at h
      simpa using Ne.symm (h.2.2 entry.1 (List.mem_map_of_mem hentry) member.1 (by simp))
    show overlay (upsert member.1 member.2 members) more = _
    rw [hfirst, ih (by simpa using h), List.append_assoc]
    rfl

theorem nodup_overlay {members : Members} (h : members.names.Nodup) (more : Members) :
    (members.overlay more).names.Nodup := by
  induction more generalizing members with
  | nil => exact h
  | cons member more ih => exact ih (nodup_upsert h member.1 member.2)

end Members

namespace Json

theorem distinctMembers_iff (members : Members) :
    DistinctMembers members ↔ ∀ member ∈ members, member.2.Distinct := by
  induction members with
  | nil => simp [DistinctMembers]
  | cons member members ih =>
    obtain ⟨name, value⟩ := member
    rw [DistinctMembers, ih, List.forall_mem_cons]

theorem distinctItems_iff (items : List Json) : DistinctItems items ↔ ∀ item ∈ items, item.Distinct := by
  induction items with
  | nil => simp [DistinctItems]
  | cons item items ih => rw [DistinctItems, ih, List.forall_mem_cons]

theorem distinct_upsert {members : Members} {name : String} {value : Json} (h : (Json.object members).Distinct)
    (hvalue : value.Distinct) : (Json.object (upsert name value members)).Distinct := by
  refine ⟨nodup_upsert h.1 name value, (distinctMembers_iff _).2 ?_⟩
  intro member hmember
  rcases mem_upsert hmember with hmember | rfl
  · exact (distinctMembers_iff _).1 h.2 member hmember
  · exact hvalue

theorem distinct_overlay {more : Members} (h : ∀ member ∈ more, member.2.Distinct) :
    (Json.object (Members.overlay [] more)).Distinct := by
  have hnames : (Members.names []).Nodup := List.nodup_nil
  refine ⟨Members.nodup_overlay hnames more, (distinctMembers_iff _).2 ?_⟩
  intro member hmember
  rcases Members.mem_overlay hmember with hmember | hmember
  · cases hmember
  · exact h member hmember

end Json

end DocumentModels
