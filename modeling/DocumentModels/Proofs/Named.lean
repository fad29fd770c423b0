/-
Lists of values by name, by lookup.

- `lookup_of_mem`, `mem_of_lookup`: with distinct names, membership and lookup say the same.
- `lookup_reverse`: with distinct names, the order does not matter.
- `lookup_filter_ne`: what is found once a name is taken away.
- `lookup_upsert`, `mem_upsert`, `names_upsert`, `nodup_upsert`: what stands in a list after a name is given a value.
- `upsert_self`, `upsert_upsert`, `upsert_comm`: giving a name the value that it has, two values, and two names values.
-/
import Mathlib.Tactic
import DocumentModels.Named

namespace DocumentModels

variable {α : Type*} {entries : List (String × α)} {name : String} {value : α}

/-! ## Lookups -/

theorem lookup_of_mem (hnames : (entries.map Prod.fst).Nodup) (h : (name, value) ∈ entries) :
    entries.lookup name = some value := by
  obtain ⟨before, after, rfl⟩ := List.append_of_mem h
  rw [List.lookup_eq_some_iff]
  refine ⟨before, after, rfl, ?_⟩
  intro entry hentry
  rw [List.map_append, List.nodup_append] at hnames
  have hne := hnames.2.2 entry.1 (List.mem_map_of_mem hentry) name (by simp)
  simpa using hne.symm

/-- what a name finds is in the list -/
theorem mem_of_lookup (h : entries.lookup name = some value) : (name, value) ∈ entries := by
  obtain ⟨before, after, hsplit, -⟩ := List.lookup_eq_some_iff.1 h
  rw [hsplit]
  exact List.mem_append_right _ List.mem_cons_self

/-- a name under which only one value stands finds it -/
theorem lookup_of_forall (hmem : name ∈ entries.map Prod.fst)
    (hall : ∀ entry ∈ entries, entry.1 = name → entry.2 = value) : entries.lookup name = some value := by
  cases hfind : entries.lookup name with
  | none =>
    obtain ⟨entry, hentry, rfl⟩ := List.mem_map.1 hmem
    exact absurd (List.lookup_eq_none_iff.1 hfind entry hentry) (by simp)
  | some found => rw [← hall _ (mem_of_lookup hfind) rfl]

/-- with distinct names, the order does not matter -/
theorem lookup_reverse (hnames : (entries.map Prod.fst).Nodup) (key : String) :
    entries.reverse.lookup key = entries.lookup key := by
  have hreverse : (entries.reverse.map Prod.fst).Nodup := by
    rw [List.map_reverse, List.nodup_reverse]
    exact hnames
  cases hfind : entries.lookup key with
  | some value => exact lookup_of_mem hreverse (List.mem_reverse.2 (mem_of_lookup hfind))
  | none =>
    rw [List.lookup_eq_none_iff] at hfind ⊢
    intro entry hentry
    exact hfind entry (List.mem_reverse.1 hentry)

/-- a name that is taken away finds nothing, and the others find what they found -/
theorem lookup_filter_ne (name : String) (entries : List (String × α)) (key : String) :
    (entries.filter fun entry => entry.1 ≠ name).lookup key = if key = name then none else entries.lookup key := by
  induction entries with
  | nil => simp
  | cons entry rest ih =>
    obtain ⟨first, value⟩ := entry
    by_cases hfirst : first = name
    · subst hfirst
      rw [List.filter_cons_of_neg (by simp), ih, List.lookup_cons]
      by_cases h : key = first
      · simp [h]
      · simp [h, beq_false_of_ne h]
    · rw [List.filter_cons_of_pos (by simpa using hfirst), List.lookup_cons, List.lookup_cons, ih]
      by_cases h : key = first
      · subst h
        simp [hfirst]
      · simp [beq_false_of_ne h]

/-! ## Giving a name a value -/

theorem lookup_upsert (name : String) (value : α) (entries : List (String × α)) (key : String) :
    (upsert name value entries).lookup key = if key = name then some value else entries.lookup key := by
  induction entries with
  | nil =>
    rw [upsert, List.lookup_cons, List.lookup_nil]
    by_cases h : key = name
    · simp [h]
    · simp [h, beq_false_of_ne h]
  | cons entry rest ih =>
    obtain ⟨first, old⟩ := entry
    rw [upsert]
    by_cases hfirst : first = name
    · subst hfirst
      rw [if_pos rfl, List.lookup_cons, List.lookup_cons]
      by_cases h : key = first
      · simp [h]
      · simp [h, beq_false_of_ne h]
    · rw [if_neg hfirst, List.lookup_cons, List.lookup_cons, ih]
      by_cases h : key = first
      · subst h
        simp [hfirst]
      · simp [beq_false_of_ne h]

theorem mem_upsert {entry : String × α} (h : entry ∈ upsert name value entries) :
    entry ∈ entries ∨ entry = (name, value) := by
  induction entries with
  | nil => exact Or.inr (List.mem_singleton.1 h)
  | cons first rest ih =>
    obtain ⟨key, old⟩ := first
    rw [upsert] at h
    split_ifs at h with hkey
    · rcases List.mem_cons.1 h with h | h
      · right
        rw [h, hkey]
      · exact Or.inl (List.mem_cons_of_mem _ h)
    · rcases List.mem_cons.1 h with h | h
      · left
        rw [h]
        exact List.mem_cons_self
      · exact (ih h).imp (List.mem_cons_of_mem _) id

theorem names_upsert (name : String) (value : α) (entries : List (String × α)) :
    (upsert name value entries).map Prod.fst
      = if name ∈ entries.map Prod.fst then entries.map Prod.fst else entries.map Prod.fst ++ [name] := by
  induction entries with
  | nil => rfl
  | cons entry rest ih =>
    obtain ⟨key, old⟩ := entry
    rw [upsert]
    by_cases hkey : key = name
    · simp [hkey]
    · rw [if_neg hkey, List.map_cons, ih, List.map_cons]
      by_cases hmem : name ∈ rest.map Prod.fst
      · rw [if_pos hmem, if_pos (List.mem_cons_of_mem _ hmem)]
      · rw [if_neg hmem, if_neg, List.cons_append]
        intro h
        rcases List.mem_cons.1 h with h | h
        · exact hkey h.symm
        · exact hmem h

/-- a new name goes to the end -/
theorem upsert_of_lookup_eq_none (h : entries.lookup name = none) (value : α) :
    upsert name value entries = entries ++ [(name, value)] := by
  induction entries with
  | nil => rfl
  | cons entry rest ih =>
    obtain ⟨key, old⟩ := entry
    have hkey : ¬ key = name := by
      rintro rfl
      simp at h
    rw [List.lookup_cons, beq_false_of_ne (Ne.symm hkey)] at h
    rw [upsert, if_neg hkey, ih h, List.cons_append]

theorem nodup_upsert (h : (entries.map Prod.fst).Nodup) (name : String) (value : α) :
    ((upsert name value entries).map Prod.fst).Nodup := by
  rw [names_upsert]
  split_ifs with hmem
  · exact h
  · rw [← List.concat_eq_append]
    exact h.concat hmem

theorem upsert_self (h : entries.lookup name = some value) : upsert name value entries = entries := by
  induction entries with
  | nil => cases h
  | cons entry rest ih =>
    obtain ⟨key, old⟩ := entry
    rw [List.lookup_cons] at h
    rw [upsert]
    by_cases hkey : key = name
    · have hsame : old = value := by simpa [hkey] using h
      rw [if_pos hkey, hsame]
    · rw [beq_false_of_ne (Ne.symm hkey)] at h
      rw [if_neg hkey, ih h]

/-- of two values of a name, the later one stays -/
theorem upsert_upsert (name : String) (first second : α) (entries : List (String × α)) :
    upsert name second (upsert name first entries) = upsert name second entries := by
  induction entries with
  | nil => simp [upsert]
  | cons entry rest ih =>
    obtain ⟨key, old⟩ := entry
    by_cases hkey : key = name
    · simp [upsert, hkey]
    · simp [upsert, hkey, ih]

/-- two names are given values in any order, as long as one of them is there -/
theorem upsert_comm {a b : String} (hne : a ≠ b) (h : (entries.lookup a).isSome = true) (first second : α) :
    upsert b second (upsert a first entries) = upsert a first (upsert b second entries) := by
  induction entries with
  | nil => cases h
  | cons entry rest ih =>
    obtain ⟨key, old⟩ := entry
    by_cases ha : key = a
    · subst ha
      simp [upsert, hne]
    · by_cases hb : key = b
      · subst hb
        simp [upsert, ha]
      · rw [List.lookup_cons, beq_false_of_ne (Ne.symm ha)] at h
        simp [upsert, ha, hb, ih h]

end DocumentModels
