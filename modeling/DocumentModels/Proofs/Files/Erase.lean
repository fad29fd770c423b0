/-
Taking files away, and trees that differ at one place.

- `at?_erase`: taking a file away changes what stands at its place, and nothing else.
- `wellFormed_erase`: it keeps a tree well-formed.
- `FileTree.DiffersAt`: a tree that differs from another at the place of one file. Every directory is found in it as before
  (`DiffersAt.locate_directory`).
- `differsAt_remove`, `differsAt_write`: taking a file away or writing over it leaves such a tree.
-/
import Mathlib.Tactic
import DocumentModels.Proofs.Files.Overwrite

namespace DocumentModels.Files

namespace Entry

/-! ## Taking a file away -/

theorem erase_below {children : List (String × Entry)} {name : String} {child : Entry}
    (h : children.lookup name = some child) (next : String) (rest : List String) :
    (Entry.directory children).erase (name :: next :: rest)
      = .directory (upsert name (child.erase (next :: rest)) children) := by
  rw [erase]
  · rw [h]
  · simp

theorem at?_erase_child {children : List (String × Entry)} {name : String} {old : ByteArray}
    (h : children.lookup name = some (.file old)) (q : List String) :
    ((Entry.directory children).erase [name]).at? q = if q = [name] then none else (Entry.directory children).at? q := by
  rw [erase]
  cases q with
  | nil => simp [at?_nil, content]
  | cons key rest =>
    rw [at?, lookup?, lookup_filter_ne, at?, lookup?]
    by_cases hkey : key = name
    · -- nothing stood below the file either
      subst hkey
      rw [if_pos rfl, h]
      cases rest <;> simp [lookup?]
    · simp [hkey]

/-- **Taking a file away changes one place.** -/
theorem at?_erase {old : ByteArray} : ∀ (place : List String) (root : Entry), place ≠ [] →
    root.lookup? place = some (.file old) →
      ∀ q, (root.erase place).at? q = if q = place then none else root.at? q
  | [], _, hplace, _, _ => absurd rfl hplace
  | _ :: _, .file _, _, h, _ => by cases h
  | [name], .directory children, _, h, q => by
    obtain ⟨child, hchild, hbelow⟩ := lookup?_below h
    rw [lookup?_nil, Option.some.injEq] at hbelow
    subst hbelow
    exact at?_erase_child hchild q
  | name :: next :: place, .directory children, _, h, q => by
    obtain ⟨child, hchild, hbelow⟩ := lookup?_below h
    have ih := at?_erase (next :: place) child (by simp) hbelow
    rw [erase_below hchild]
    cases q with
    | nil => simp [at?_nil, content]
    | cons key rest =>
      rw [at?_upsert]
      by_cases hkey : key = name
      · subst hkey
        rw [if_pos rfl, ih, at?_cons hchild]
        simp
      · simp [hkey]

theorem wellFormed_erase : ∀ (place : List String) (root : Entry), root.WellFormed → (root.erase place).WellFormed
  | [], root, h => by cases root <;> exact h
  | _ :: _, .file _, h => h
  | [name], .directory children, h => by
    rw [WellFormed] at h
    obtain ⟨hnodup, hproper, hchildren⟩ := h
    have hsublist : (children.filter fun child => child.1 ≠ name).Sublist children := List.filter_sublist
    rw [erase, WellFormed]
    refine ⟨hnodup.sublist (hsublist.map Prod.fst), fun key hkey => hproper key ((hsublist.map Prod.fst).subset hkey), ?_⟩
    rw [wellFormedChildren_iff] at hchildren ⊢
    exact fun child hchild => hchildren child (hsublist.subset hchild)
  | name :: next :: place, .directory children, h => by
    cases hchild : children.lookup name with
    | none =>
      rw [erase]
      · rw [hchild]
        exact h
      · simp
    | some child =>
      obtain ⟨hproper, hwell⟩ := h.child (mem_of_lookup hchild)
      rw [erase_below hchild]
      exact wellFormed_upsert h hproper (wellFormed_erase (next :: place) child hwell)

end Entry

open Entry

namespace FileTree

/-! ## Trees that differ at one place -/

/-- a well-formed tree that differs from another at the place of a file of that tree, at most -/
structure DiffersAt (before after : FileTree) (place : List String) : Prop where
  wellFormed : after.WellFormed
  current : after.current = before.current
  file : ∃ old, before.root.at? place = some (some old)
  elsewhere : ∀ q, q ≠ place → after.root.at? q = before.root.at? q

variable {before after : FileTree} {place : List String}

theorem DiffersAt.dirs (h : DiffersAt before after place) (q : List String) (hq : before.root.at? q = some none) :
    after.root.at? q = some none := by
  obtain ⟨old, hold⟩ := h.file
  rw [h.elsewhere q, hq]
  rintro rfl
  rw [hold] at hq
  cases hq

/-- **Directories are found as before.** -/
theorem DiffersAt.locate_directory (h : DiffersAt before after place) {path : String} {spot : List String}
    {children : List (String × Entry)} (hdir : before.locate path = .ok ⟨spot, some (.directory children)⟩) :
    ∃ children', after.locate path = .ok ⟨spot, some (.directory children')⟩ :=
  locate_directory_of_dirs h.dirs h.current hdir

/-- **A file that is taken away** is gone from its place, and nothing else is. -/
theorem differsAt_remove {files : FileTree} (hfiles : files.WellFormed) {path : String} {place : List String}
    {old : ByteArray} (h : files.locate path = .ok ⟨place, some (.file old)⟩) :
    DiffersAt files (files.remove path) place ∧ (files.remove path).root.at? place = none := by
  have hfile : files.root.lookup? place = some (.file old) := (locate_entry h).symm
  have hplace : place ≠ [] := by
    rintro rfl
    have hroot := hfiles.at?_nil
    rw [at?_eq_file.2 hfile] at hroot
    cases hroot
  have herase := at?_erase place files.root hplace hfile
  have hremove : files.remove path = { files with root := files.root.erase place } := by
    rw [remove, h]
  rw [hremove]
  refine ⟨⟨⟨wellFormed_erase place _ hfiles.root, ?_⟩, rfl, ⟨old, at?_eq_file.2 hfile⟩, ?_⟩, ?_⟩
  · show (files.root.erase place).at? files.current = some none
    rw [herase, if_neg, hfiles.current]
    intro hcurrent
    have hdir := hfiles.current
    rw [hcurrent, at?_eq_file.2 hfile] at hdir
    cases hdir
  · intro q hq
    show (files.root.erase place).at? q = files.root.at? q
    rw [herase, if_neg hq]
  · show (files.root.erase place).at? place = none
    rw [herase, if_pos rfl]

/-- **A file that is written over** holds other bytes, and nothing else changes. -/
theorem differsAt_write {files : FileTree} (hfiles : files.WellFormed) {path : String} {place : List String}
    {old : ByteArray} (h : files.locate path = .ok ⟨place, some (.file old)⟩) (bytes : ByteArray) :
    ∃ next, files.write path bytes = .ok next ∧ DiffersAt files next place := by
  have hfile : files.root.lookup? place = some (.file old) := (locate_entry h).symm
  have hwrite := write_of_locate h bytes
  obtain ⟨-, -, -, hwell, -, -⟩ := write_ok hfiles hwrite
  refine ⟨_, hwrite, hwell, rfl, ⟨old, at?_eq_file.2 hfile⟩, ?_⟩
  intro q hq
  rw [overwrite, changes_put hfile bytes q, if_neg hq]

end FileTree

end DocumentModels.Files
