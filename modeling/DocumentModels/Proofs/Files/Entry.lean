/-
What stands where in a tree.

- `Entry.at?`: what stands at a place: nothing, a directory, or a file with its bytes.
- `at?_put`: putting a file or an empty directory at a place where neither a directory nor anything below stands changes
  what stands at that place and nothing else.
- `Entry.WellFormed`: the names in every directory are distinct and can stand on a path; `wellFormed_put` keeps it.
-/
import Mathlib.Tactic
import DocumentModels.Files.Tree
import DocumentModels.Proofs.Files.Path
import DocumentModels.Proofs.Named

namespace DocumentModels.Files

namespace Entry

/-! ## Places -/

/-- the bytes of a file; a directory has none -/
def content : Entry → Option ByteArray
  | .file bytes => some bytes
  | .directory _ => none

/-- what stands at a place: nothing, a directory, or a file with its bytes -/
def at? (root : Entry) (place : List String) : Option (Option ByteArray) := (root.lookup? place).map content

theorem lookup?_nil (root : Entry) : root.lookup? [] = some root := by
  cases root <;> rfl

theorem lookup?_append (root : Entry) (place rest : List String) :
    root.lookup? (place ++ rest) = (root.lookup? place).bind (·.lookup? rest) := by
  induction place generalizing root with
  | nil => rw [List.nil_append, lookup?_nil, Option.bind_some]
  | cons name place ih =>
    cases root with
    | file bytes => rfl
    | directory children =>
      rw [List.cons_append, lookup?, lookup?]
      cases children.lookup name with
      | none => rfl
      | some child => exact ih child

theorem at?_eq_dir {root : Entry} {place : List String} :
    root.at? place = some none ↔ ∃ children, root.lookup? place = some (.directory children) := by
  unfold at?
  cases root.lookup? place with
  | none => simp
  | some entry => cases entry <;> simp [content]

theorem at?_eq_file {root : Entry} {place : List String} {bytes : ByteArray} :
    root.at? place = some (some bytes) ↔ root.lookup? place = some (.file bytes) := by
  unfold at?
  cases root.lookup? place with
  | none => simp
  | some entry => cases entry <;> simp [content]

theorem at?_isSome (root : Entry) (place : List String) : (root.at? place).isSome = (root.lookup? place).isSome := by
  rw [at?, Option.isSome_map]

/-- whatever stands below a place, a directory stands at it -/
theorem dir_of_below {root : Entry} {place : List String} {name : String} {rest : List String}
    (h : (root.at? (place ++ name :: rest)).isSome = true) : root.at? place = some none := by
  rw [at?_isSome, lookup?_append] at h
  rw [at?_eq_dir]
  cases hplace : root.lookup? place with
  | none =>
    rw [hplace] at h
    cases h
  | some entry =>
    cases entry with
    | file bytes =>
      rw [hplace] at h
      cases h
    | directory children => exact ⟨children, rfl⟩

/-- above a directory, directories are -/
theorem dir_dropLast {root : Entry} {place : List String} (h : root.at? place = some none) :
    root.at? place.dropLast = some none := by
  rcases List.eq_nil_or_concat place with rfl | ⟨outer, last, rfl⟩
  · exact h
  · rw [List.concat_eq_append] at h ⊢
    rw [List.dropLast_concat]
    have hbelow : (root.at? (outer ++ last :: [])).isSome = true := by
      rw [h]
      rfl
    exact dir_of_below hbelow

theorem at?_child {root : Entry} {place : List String} {children : List (String × Entry)}
    (h : root.lookup? place = some (.directory children)) (name : String) :
    root.at? (place ++ [name]) = (children.lookup name).map content := by
  rw [at?, lookup?_append, h, Option.bind_some, lookup?]
  cases children.lookup name with
  | none => rfl
  | some child =>
    show (child.lookup? []).map content = _
    rw [lookup?_nil]

/-! ## Putting an entry -/

/-- nothing stands below an entry -/
def Bare (entry : Entry) : Prop := ∀ name rest, entry.lookup? (name :: rest) = none

theorem bare_file (bytes : ByteArray) : (Entry.file bytes).Bare := by
  intro name rest
  rfl

theorem bare_empty : (Entry.directory []).Bare := by
  intro name rest
  rfl

theorem at?_nil (root : Entry) : root.at? [] = some root.content := by
  rw [at?, lookup?_nil, Option.map_some]

theorem at?_cons {children : List (String × Entry)} {name : String} {child : Entry}
    (h : children.lookup name = some child) (rest : List String) :
    (Entry.directory children).at? (name :: rest) = child.at? rest := by
  rw [at?, lookup?, h, at?]

theorem at?_upsert (name : String) (entry : Entry) (children : List (String × Entry)) (key : String)
    (rest : List String) :
    (Entry.directory (upsert name entry children)).at? (key :: rest)
      = if key = name then entry.at? rest else (Entry.directory children).at? (key :: rest) := by
  rw [at?, lookup?, lookup_upsert]
  by_cases hkey : key = name
  · simp [hkey, at?]
  · simp [hkey, at?, lookup?]

theorem put_cons {children : List (String × Entry)} {name : String} {child : Entry}
    (h : children.lookup name = some child) (next : String) (place : List String) (new : Entry) :
    (Entry.directory children).put (name :: next :: place) new
      = .directory (upsert name (child.put (next :: place) new) children) := by
  rw [put]
  · rw [h]
  · simp

theorem child_of_below {root : Entry} {name : String} {rest : List String}
    (h : (root.at? (name :: rest)).isSome = true) :
    ∃ children child, root = .directory children ∧ children.lookup name = some child := by
  have htop : root.at? [] = some none := dir_of_below h
  obtain ⟨children, hroot⟩ := at?_eq_dir.1 htop
  rw [lookup?_nil, Option.some.injEq] at hroot
  subst hroot
  cases hchild : children.lookup name with
  | none =>
    rw [at?, lookup?, hchild] at h
    cases h
  | some child => exact ⟨children, child, rfl, hchild⟩

theorem at?_put_child {new : Entry} (hnew : new.Bare) {children : List (String × Entry)} {name : String}
    (hfree : (Entry.directory children).at? [name] ≠ some none) (q : List String) :
    ((Entry.directory children).put [name] new).at? q
      = if q = [name] then some new.content else (Entry.directory children).at? q := by
  rw [put]
  cases q with
  | nil => simp [at?_nil, content]
  | cons key rest =>
    rw [at?_upsert]
    by_cases hkey : key = name
    · subst hkey
      cases rest with
      | nil => simp [at?_nil]
      | cons next rest =>
        -- nothing stood below the name either
        have hbelow : (Entry.directory children).at? ([key] ++ next :: rest) = none := by
          rw [← Option.not_isSome_iff_eq_none]
          exact fun h => hfree (dir_of_below h)
        simpa [at?, hnew next rest] using hbelow.symm
    · simp [hkey]

/-- **Putting changes one place.** A file or an empty directory is put where neither a directory nor anything below
stands, into a directory that is there. -/
theorem at?_put {new : Entry} (hnew : new.Bare) : ∀ (place : List String) (root : Entry),
    root.at? place.dropLast = some none → root.at? place ≠ some none →
      ∀ q, (root.put place new).at? q = if q = place then some new.content else root.at? q
  | [], root, hdir, hfree, q => absurd hdir hfree
  | [name], root, hdir, hfree, q => by
    obtain ⟨children, hroot⟩ := at?_eq_dir.1 hdir
    rw [List.dropLast_singleton, lookup?_nil, Option.some.injEq] at hroot
    subst hroot
    exact at?_put_child hnew hfree q
  | name :: next :: place, root, hdir, hfree, q => by
    rw [List.dropLast_cons_cons] at hdir
    obtain ⟨children, child, rfl, hchild⟩ := child_of_below (by rw [hdir]; rfl)
    rw [at?_cons hchild] at hdir hfree
    have ih := at?_put hnew (next :: place) child hdir hfree
    rw [put_cons hchild]
    cases q with
    | nil => simp [at?_nil, content]
    | cons key rest =>
      rw [at?_upsert]
      by_cases hkey : key = name
      · subst hkey
        rw [if_pos rfl, ih, at?_cons hchild]
        simp
      · simp [hkey]

/-! ## Well-formed trees -/

mutual

def WellFormed : Entry → Prop
  | .file _ => True
  | .directory children =>
    (children.map Prod.fst).Nodup ∧ (∀ name ∈ children.map Prod.fst, ProperName name) ∧ WellFormedChildren children

def WellFormedChildren : List (String × Entry) → Prop
  | [] => True
  | (_, entry) :: rest => entry.WellFormed ∧ WellFormedChildren rest

end

theorem wellFormedChildren_iff (children : List (String × Entry)) :
    WellFormedChildren children ↔ ∀ child ∈ children, child.2.WellFormed := by
  induction children with
  | nil => simp [WellFormedChildren]
  | cons child children ih =>
    obtain ⟨name, entry⟩ := child
    rw [WellFormedChildren, ih, List.forall_mem_cons]

theorem wellFormed_upsert {children : List (String × Entry)} (h : (Entry.directory children).WellFormed) {name : String}
    (hname : ProperName name) {entry : Entry} (hentry : entry.WellFormed) :
    (Entry.directory (upsert name entry children)).WellFormed := by
  rw [WellFormed] at h ⊢
  obtain ⟨hnodup, hproper, hchildren⟩ := h
  refine ⟨nodup_upsert hnodup name entry, ?_, ?_⟩
  · rw [names_upsert]
    split_ifs with hmem
    · exact hproper
    · intro key hkey
      rcases List.mem_append.1 hkey with hkey | hkey
      · exact hproper key hkey
      · rw [List.mem_singleton.1 hkey]
        exact hname
  · rw [wellFormedChildren_iff] at hchildren ⊢
    intro child hchild
    rcases mem_upsert hchild with hchild | rfl
    · exact hchildren child hchild
    · exact hentry

theorem WellFormed.child {children : List (String × Entry)} (h : (Entry.directory children).WellFormed) {name : String}
    {entry : Entry} (hmem : (name, entry) ∈ children) : ProperName name ∧ entry.WellFormed := by
  rw [WellFormed] at h
  obtain ⟨-, hproper, hchildren⟩ := h
  exact ⟨hproper name (List.mem_map_of_mem (f := Prod.fst) hmem), (wellFormedChildren_iff children).1 hchildren _ hmem⟩

theorem wellFormed_lookup {place : List String} {root entry : Entry} (h : root.WellFormed)
    (hfind : root.lookup? place = some entry) : entry.WellFormed := by
  induction place generalizing root with
  | nil =>
    rw [lookup?_nil, Option.some.injEq] at hfind
    rw [← hfind]
    exact h
  | cons name place ih =>
    cases root with
    | file bytes => cases hfind
    | directory children =>
      rw [lookup?] at hfind
      cases hchild : children.lookup name with
      | none =>
        rw [hchild] at hfind
        cases hfind
      | some child =>
        rw [hchild] at hfind
        exact ih (h.child (mem_of_lookup hchild)).2 hfind

theorem wellFormed_put {new : Entry} (hnew : new.WellFormed) : ∀ (place : List String) (root : Entry), root.WellFormed →
    (∀ name ∈ place.getLast?, ProperName name) → (root.put place new).WellFormed
  | [], root, _, _ => by
    cases root <;> exact hnew
  | name :: place, .file bytes, h, _ => by
    rw [put]
    exact h
  | [name], .directory children, h, hname => by
    rw [put]
    exact wellFormed_upsert h (hname name rfl) hnew
  | name :: next :: place, .directory children, h, hname => by
    rw [put]
    · cases hchild : children.lookup name with
      | none => exact h
      | some child =>
        obtain ⟨hproper, hwell⟩ := h.child (mem_of_lookup hchild)
        rw [List.getLast?_cons_cons] at hname
        exact wellFormed_upsert h hproper (wellFormed_put hnew (next :: place) child hwell hname)
    · simp

end Entry

end DocumentModels.Files
