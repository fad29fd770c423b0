/-
What operations on a tree change.

- `Grows`: directories stay directories and files stay files.
- `follow_of_dirs`, `locate_of_dirs`, `locate_directory_of_dirs`: a path goes on leading to its place, as long as
  directories stay directories.
- `follow_append`, `locate_join`: a path inside a directory leads to the name inside the directory's place.
- `follow_concat`, `locate_of_join`: where it leads to a file, the directory is there and holds the file by that name.
- `write_ok`: a written file stands at the place that its path leads to, and nothing else changes.
- `makeDirectories_ok`: making directories adds directories where nothing stood, and nothing else changes.
-/
import Mathlib.Tactic
import DocumentModels.Proofs.Files.Entry

namespace DocumentModels.Files

open Entry

/-! ## Growing trees -/

/-- directories stay directories and files stay files -/
structure Grows (a b : Entry) : Prop where
  dirs : ∀ q, a.at? q = some none → b.at? q = some none
  files : ∀ q bytes, a.at? q = some (some bytes) → ∃ bytes', b.at? q = some (some bytes')

theorem Grows.refl (a : Entry) : Grows a a := ⟨fun _ h => h, fun _ bytes h => ⟨bytes, h⟩⟩

theorem Grows.trans {a b c : Entry} (hab : Grows a b) (hbc : Grows b c) : Grows a c := by
  refine ⟨fun q h => hbc.dirs q (hab.dirs q h), ?_⟩
  intro q bytes h
  obtain ⟨bytes', h'⟩ := hab.files q bytes h
  exact hbc.files q bytes' h'

/-- what stands at a place stays, or is a new directory where nothing stood -/
def Kept (a b : Entry) (place : List String) : Prop :=
  b.at? place = a.at? place ∨ (a.at? place = none ∧ b.at? place = some none)

theorem Kept.trans {a b c : Entry} {place : List String} (hab : Kept a b place) (hbc : Kept b c place) :
    Kept a c place := by
  rcases hab with h | ⟨hnone, hdir⟩
  · rcases hbc with h' | ⟨hnone', hdir'⟩
    · exact Or.inl (h'.trans h)
    · exact Or.inr ⟨h ▸ hnone', hdir'⟩
  · rcases hbc with h' | ⟨hnone', -⟩
    · exact Or.inr ⟨hnone, h'.trans hdir⟩
    · rw [hdir] at hnone'
      cases hnone'

/-- a file stays, and none is new -/
theorem Kept.file_iff {a b : Entry} {place : List String} (h : Kept a b place) (bytes : ByteArray) :
    b.at? place = some (some bytes) ↔ a.at? place = some (some bytes) := by
  rcases h with h | ⟨hnone, hdir⟩
  · rw [h]
  · rw [hnone, hdir]
    simp

/-- new directories, and nothing else -/
def Extends (a b : Entry) : Prop := ∀ place, Kept a b place

theorem Extends.refl (a : Entry) : Extends a a := fun _ => Or.inl rfl

theorem Extends.trans {a b c : Entry} (hab : Extends a b) (hbc : Extends b c) : Extends a c :=
  fun place => (hab place).trans (hbc place)

theorem Extends.grows {a b : Entry} (h : Extends a b) : Grows a b := by
  constructor
  · intro q hq
    rcases h q with h | ⟨-, h⟩
    · rw [h, hq]
    · exact h
  · intro q bytes hq
    exact ⟨bytes, ((h q).file_iff bytes).2 hq⟩

/-- one place holds a file, and nothing else changes -/
def Changes (a b : Entry) (place : List String) (bytes : ByteArray) : Prop :=
  ∀ q, b.at? q = if q = place then some (some bytes) else a.at? q

theorem Changes.grows {a b : Entry} {place : List String} {bytes : ByteArray} (h : Changes a b place bytes)
    (hplace : a.at? place ≠ some none) : Grows a b := by
  constructor
  · intro q hq
    rw [h q, if_neg, hq]
    rintro rfl
    exact hplace hq
  · intro q old hq
    rw [h q]
    split_ifs
    · exact ⟨bytes, rfl⟩
    · exact ⟨old, hq⟩

namespace FileTree

/-! ## Following names -/

theorem follow_nil (root : Entry) (place : List String) : follow root place [] = .ok ⟨place, root.lookup? place⟩ :=
  rfl

theorem follow_up {root : Entry} {place : List String} (hplace : root.at? place = some none) (rest : List String) :
    follow root place (".." :: rest) = follow root place.dropLast rest := by
  obtain ⟨children, hchildren⟩ := at?_eq_dir.1 hplace
  rw [follow, hchildren]
  simp

theorem follow_down {root : Entry} {place : List String} {name : String} (hdots : name ≠ "..")
    (hshort : name.utf8ByteSize ≤ 255) (hthere : (root.at? (place ++ [name])).isSome = true) (rest : List String) :
    follow root place (name :: rest) = follow root (place ++ [name]) rest := by
  obtain ⟨children, hchildren⟩ := at?_eq_dir.1 (dir_of_below hthere)
  rw [at?_child hchildren, Option.isSome_map] at hthere
  obtain ⟨child, hchild⟩ := Option.isSome_iff_exists.1 hthere
  rw [follow, hchildren]
  simp only
  rw [if_neg hdots, if_neg (by omega), hchild]

/-- where a name can lead: up, down to an entry, or to a place in the directory where nothing stands yet -/
theorem follow_cases {root : Entry} {place : List String} {name : String} {rest : List String} {location : Location}
    (h : follow root place (name :: rest) = .ok location) :
    root.at? place = some none ∧
      ((name = ".." ∧ follow root place.dropLast rest = .ok location) ∨
        (name ≠ ".." ∧ name.utf8ByteSize ≤ 255 ∧
          ((root.at? (place ++ [name]) = none ∧ rest = [] ∧ location = ⟨place ++ [name], none⟩) ∨
            ((root.at? (place ++ [name])).isSome = true ∧ follow root (place ++ [name]) rest = .ok location)))) := by
  rw [follow] at h
  split at h
  · cases h
  · cases h
  · rename_i children hchildren
    refine ⟨at?_eq_dir.2 ⟨children, hchildren⟩, ?_⟩
    split_ifs at h with hdots hlong
    · exact Or.inl ⟨hdots, h⟩
    · refine Or.inr ⟨hdots, by omega, ?_⟩
      rw [at?_child hchildren, Option.isSome_map]
      split at h
      · rename_i hname
        cases h
        exact Or.inl ⟨by rw [hname]; rfl, rfl, rfl⟩
      · cases h
      · rename_i child hname
        exact Or.inr ⟨by rw [hname]; rfl, h⟩

theorem follow_entry {root : Entry} {names : List String} {place : List String} {location : Location}
    (h : follow root place names = .ok location) : location.entry? = root.lookup? location.place := by
  induction names generalizing place with
  | nil =>
    rw [follow_nil] at h
    cases h
    rfl
  | cons name rest ih =>
    obtain ⟨-, ⟨-, h⟩ | ⟨-, -, ⟨hnone, -, rfl⟩ | ⟨-, h⟩⟩⟩ := follow_cases h
    · exact ih h
    · exact (Option.map_eq_none_iff.1 hnone).symm
    · exact ih h

/-- names that never go up lead to the place that they spell -/
theorem follow_place {root : Entry} {names : List String} {place : List String} {location : Location}
    (h : follow root place names = .ok location) (hdots : ".." ∉ names) : location.place = place ++ names := by
  induction names generalizing place with
  | nil =>
    rw [follow_nil] at h
    cases h
    rw [List.append_nil]
  | cons name rest ih =>
    rw [List.mem_cons, not_or] at hdots
    obtain ⟨hname, hrest⟩ := hdots
    obtain ⟨-, ⟨hup, -⟩ | ⟨-, -, ⟨-, rfl, rfl⟩ | ⟨-, hdown⟩⟩⟩ := follow_cases h
    · exact absurd hup.symm hname
    · rfl
    · rw [ih hdown hrest, List.append_assoc, List.singleton_append]

/-- where nothing stands yet, the directory of the place is there, and the last name is new in it -/
theorem follow_new {root : Entry} {names : List String} {place : List String} {location : Location}
    (hplace : (root.at? place).isSome = true) (h : follow root place names = .ok location)
    (hnew : location.entry? = none) :
    ∃ outer name, location.place = outer ++ [name] ∧ root.at? outer = some none ∧ name ∈ names ∧ name ≠ ".." ∧
      name.utf8ByteSize ≤ 255 := by
  induction names generalizing place with
  | nil =>
    rw [follow_nil] at h
    cases h
    rw [at?_isSome, show root.lookup? place = none from hnew] at hplace
    cases hplace
  | cons name rest ih =>
    have hwiden : (∃ outer last, location.place = outer ++ [last] ∧ root.at? outer = some none ∧ last ∈ rest ∧
        last ≠ ".." ∧ last.utf8ByteSize ≤ 255) → ∃ outer last, location.place = outer ++ [last] ∧
        root.at? outer = some none ∧ last ∈ name :: rest ∧ last ≠ ".." ∧ last.utf8ByteSize ≤ 255 := by
      rintro ⟨outer, last, hlast, houter, hmem, hrest⟩
      exact ⟨outer, last, hlast, houter, List.mem_cons_of_mem _ hmem, hrest⟩
    obtain ⟨hdir, ⟨-, h⟩ | ⟨hdots, hshort, ⟨-, -, rfl⟩ | ⟨hthere, h⟩⟩⟩ := follow_cases h
    · refine hwiden (ih ?_ h)
      rw [dir_dropLast hdir]
      rfl
    · exact ⟨place, name, rfl, hdir, List.mem_cons_self, hdots, hshort⟩
    · exact hwiden (ih hthere h)

/-- names go on leading to the same place, as long as directories stay directories -/
theorem follow_of_dirs {a b : Entry} (hdirs : ∀ q, a.at? q = some none → b.at? q = some none) {names : List String}
    {place : List String} {location : Location} (h : follow a place names = .ok location)
    (hthere : (b.at? location.place).isSome = true) :
    follow b place names = .ok ⟨location.place, b.lookup? location.place⟩ := by
  induction names generalizing place with
  | nil =>
    rw [follow_nil] at h ⊢
    cases h
    rfl
  | cons name rest ih =>
    obtain ⟨hdir, ⟨rfl, hup⟩ | ⟨hdots, hshort, ⟨-, rfl, rfl⟩ | ⟨-, hdown⟩⟩⟩ := follow_cases h
    · rw [follow_up (hdirs place hdir)]
      exact ih hup
    · rw [follow_down hdots hshort hthere, follow_nil]
    · have hname : (b.at? (place ++ [name])).isSome = true := by
        cases rest with
        | nil =>
          rw [follow_nil] at hdown
          cases hdown
          exact hthere
        | cons next rest => rw [hdirs _ (follow_cases hdown).1]; rfl
      rw [follow_down hdots hshort hname]
      exact ih hdown

theorem follow_append {root : Entry} {names more : List String} {place : List String} {location : Location}
    (h : follow root place names = .ok location) (hthere : location.entry?.isSome = true) :
    follow root place (names ++ more) = follow root location.place more := by
  induction names generalizing place with
  | nil =>
    rw [follow_nil] at h
    cases h
    rfl
  | cons name rest ih =>
    obtain ⟨hdir, ⟨rfl, hup⟩ | ⟨hdots, hshort, ⟨-, -, rfl⟩ | ⟨hname, hdown⟩⟩⟩ := follow_cases h
    · rw [List.cons_append, follow_up hdir]
      exact ih hup
    · cases hthere
    · rw [List.cons_append, follow_down hdots hshort hname]
      exact ih hdown

theorem follow_concat {root : Entry} {names : List String} {name : String} {place : List String} {location : Location}
    (h : follow root place (names ++ [name]) = .ok location) :
    ∃ outer children, follow root place names = .ok ⟨outer, some (.directory children)⟩ ∧
      follow root outer [name] = .ok location := by
  induction names generalizing place with
  | nil =>
    obtain ⟨hdir, -⟩ := follow_cases h
    obtain ⟨children, hchildren⟩ := at?_eq_dir.1 hdir
    refine ⟨place, children, ?_, h⟩
    rw [follow_nil, hchildren]
  | cons first rest ih =>
    obtain ⟨hdir, ⟨rfl, hup⟩ | ⟨hdots, hshort, ⟨-, hnil, -⟩ | ⟨hfirst, hdown⟩⟩⟩ := follow_cases h
    · obtain ⟨outer, children, houter, hlast⟩ := ih hup
      exact ⟨outer, children, (follow_up hdir rest).trans houter, hlast⟩
    · exact absurd hnil (by simp)
    · obtain ⟨outer, children, houter, hlast⟩ := ih hdown
      exact ⟨outer, children, (follow_down hdots hshort hfirst rest).trans houter, hlast⟩

/-- a name that leads from a directory to a file is the name of that file in the directory -/
theorem follow_file {root : Entry} {place : List String} {children : List (String × Entry)} {name : String}
    {location : Location} {bytes : ByteArray} (hplace : root.lookup? place = some (.directory children))
    (h : follow root place [name] = .ok location) (hfile : location.entry? = some (.file bytes)) :
    location.place = place ++ [name] ∧ children.lookup name = some (.file bytes) := by
  have hentry := follow_entry h
  rw [hfile, eq_comm, ← at?_eq_file] at hentry
  obtain ⟨hdir, ⟨-, hup⟩ | ⟨-, -, ⟨-, -, rfl⟩ | ⟨-, hdown⟩⟩⟩ := follow_cases h
  · -- above a directory, directories are
    rw [follow_nil] at hup
    cases hup
    have habove : root.at? place.dropLast = some none := dir_dropLast hdir
    rw [habove] at hentry
    cases hentry
  · cases hfile
  · rw [follow_nil] at hdown
    cases hdown
    refine ⟨rfl, ?_⟩
    rw [lookup?_append, hplace, Option.bind_some, lookup?] at hfile
    cases hchild : children.lookup name with
    | none =>
      rw [hchild] at hfile
      cases hfile
    | some child =>
      rw [hchild] at hfile
      exact (lookup?_nil child).symm.trans hfile

/-! ## Locating paths -/

/-- a tree whose directories hold distinct proper names, and whose current directory is there -/
structure WellFormed (files : FileTree) : Prop where
  root : files.root.WellFormed
  current : files.root.at? files.current = some none

theorem WellFormed.start {files : FileTree} (h : files.WellFormed) (absolute : Bool) :
    (files.root.at? (if absolute then [] else files.current)).isSome = true := by
  cases absolute with
  | false =>
    rw [if_neg (by decide), h.current]
    rfl
  | true =>
    rw [if_pos rfl, at?_isSome, lookup?_nil]
    rfl

/-- the root is a directory, for the current directory is in it -/
theorem WellFormed.at?_nil {files : FileTree} (h : files.WellFormed) : files.root.at? [] = some none := by
  cases hcurrent : files.current with
  | nil =>
    rw [← hcurrent]
    exact h.current
  | cons name rest =>
    have hbelow : (files.root.at? ([] ++ name :: rest)).isSome = true := by
      rw [List.nil_append, ← hcurrent, h.current]
      rfl
    exact dir_of_below hbelow

theorem locate_ok {files : FileTree} {path : String} {location : Location} :
    files.locate path = .ok location ↔
      '\x00' ∉ path.toList ∧ path ≠ "" ∧ files.locateNames (Path.isAbsolute path) (Path.names path) = .ok location ∧
        ((∃ bytes, location.entry? = some (.file bytes)) → Path.endsInDirectory path = false) := by
  unfold locate
  by_cases hnul : '\x00' ∈ path.toList
  · simp [hnul, bind, Except.bind, throw, throwThe, MonadExceptOf.throw]
  by_cases hempty : path = ""
  · simp [hempty, bind, Except.bind, throw, throwThe, MonadExceptOf.throw]
  · cases hnames : files.locateNames (Path.isAbsolute path) (Path.names path) with
    | error e => simp [hnul, hempty, bind, Except.bind]
    | ok found =>
      obtain ⟨place, entry⟩ := found
      cases hends : Path.endsInDirectory path <;> rcases entry with _ | (bytes | children) <;>
        simp [hnul, hempty, bind, Except.bind, throw, throwThe, MonadExceptOf.throw, pure, Except.pure]
      all_goals
        rintro rfl
        simp

theorem locate_entry {files : FileTree} {path : String} {location : Location} (h : files.locate path = .ok location) :
    location.entry? = files.root.lookup? location.place :=
  follow_entry (locate_ok.1 h).2.2.1

/-- **Paths keep their places,** as long as directories stay directories and something stands at the place. -/
theorem locate_of_dirs {a b : FileTree} (hdirs : ∀ q, a.root.at? q = some none → b.root.at? q = some none)
    (hcurrent : b.current = a.current) {path : String} {location : Location} (h : a.locate path = .ok location)
    (hthere : (b.root.at? location.place).isSome = true)
    (hends : (∃ bytes, b.root.lookup? location.place = some (.file bytes)) → Path.endsInDirectory path = false) :
    b.locate path = .ok ⟨location.place, b.root.lookup? location.place⟩ := by
  obtain ⟨hnul, hempty, hnames, -⟩ := locate_ok.1 h
  rw [locate_ok]
  refine ⟨hnul, hempty, ?_, hends⟩
  unfold locateNames at hnames ⊢
  rw [hcurrent]
  exact follow_of_dirs hdirs hnames hthere

/-- directories are found where they were, as long as directories stay directories -/
theorem locate_directory_of_dirs {a b : FileTree} (hdirs : ∀ q, a.root.at? q = some none → b.root.at? q = some none)
    (hcurrent : b.current = a.current) {path : String} {place : List String} {children : List (String × Entry)}
    (h : a.locate path = .ok ⟨place, some (.directory children)⟩) :
    ∃ children', b.locate path = .ok ⟨place, some (.directory children')⟩ := by
  have hthere : b.root.at? place = some none := hdirs place (at?_eq_dir.2 ⟨children, (locate_entry h).symm⟩)
  obtain ⟨children', hchildren⟩ := at?_eq_dir.1 hthere
  have hlocate := locate_of_dirs hdirs hcurrent h (by rw [hthere]; rfl) (by rw [hchildren]; simp)
  exact ⟨children', by rw [hlocate, hchildren]⟩

theorem locate_join {files : FileTree} (hfiles : files.WellFormed) {directory name : String} {place : List String}
    {children : List (String × Entry)} {entry : Entry}
    (h : files.locate directory = .ok ⟨place, some (.directory children)⟩) (hname : children.lookup name = some entry) :
    files.locate (Path.join directory name) = .ok ⟨place ++ [name], some entry⟩ := by
  obtain ⟨hnul, hempty, hnames, -⟩ := locate_ok.1 h
  have hchildren : files.root.lookup? place = some (.directory children) := (locate_entry h).symm
  have hproper : ProperName name := ((wellFormed_lookup hfiles.root hchildren).child (mem_of_lookup hname)).1
  have hentry : files.root.lookup? (place ++ [name]) = some entry := by
    rw [lookup?_append, hchildren, Option.bind_some, lookup?, hname]
    exact lookup?_nil entry
  have hthere : (files.root.at? (place ++ [name])).isSome = true := by
    rw [at?_isSome, hentry]
    rfl
  rw [locate_ok]
  refine ⟨Path.noNul_join hempty hproper.toPathName hnul, Path.join_nonempty hempty hproper.toPathName, ?_, ?_⟩
  · rw [Path.isAbsolute_join hempty hproper.toPathName, Path.names_join hempty hproper.toPathName]
    unfold locateNames at hnames ⊢
    rw [follow_append hnames rfl, follow_down hproper.notDots hproper.short hthere, follow_nil, hentry]
  · intro _
    exact Path.endsInDirectory_join hempty hproper.toPathName

theorem locate_of_join {files : FileTree} {directory name : String} (hdirectory : directory ≠ "") (hname : name ≠ "")
    (hslash : '/' ∉ name.toList) {place : List String} {bytes : ByteArray}
    (h : files.locate (Path.join directory name) = .ok ⟨place, some (.file bytes)⟩) :
    ∃ outer children, files.locate directory = .ok ⟨outer, some (.directory children)⟩ ∧ place = outer ++ [name] ∧
      children.lookup name = some (.file bytes) := by
  obtain ⟨hnul, -, hnames, hends⟩ := locate_ok.1 h
  have hpath : PathName name := Path.pathName_of_join hdirectory hname hslash hnul (hends ⟨bytes, rfl⟩)
  rw [Path.isAbsolute_join hdirectory hpath, Path.names_join hdirectory hpath] at hnames
  obtain ⟨outer, children, houter, hlast⟩ := follow_concat hnames
  obtain ⟨hplace, hlookup⟩ := follow_file (follow_entry houter).symm hlast rfl
  refine ⟨outer, children, ?_, hplace, hlookup⟩
  refine locate_ok.2 ⟨Path.noNul_of_join hdirectory hslash hnul, hdirectory, houter, ?_⟩
  rintro ⟨bytes, hbytes⟩
  cases hbytes

/-! ## Writing files and making directories -/

/-- a place where no directory stands is a new or an old name in a directory -/
theorem WellFormed.room {files : FileTree} (h : files.WellFormed) {absolute : Bool} {names : List String}
    (hnames : ∀ name ∈ names, PathName name) {location : Location}
    (hlocate : files.locateNames absolute names = .ok location) (hfree : files.root.at? location.place ≠ some none) :
    ∃ outer name, location.place = outer ++ [name] ∧ files.root.at? outer = some none ∧ ProperName name := by
  have hentry := follow_entry hlocate
  cases hnew : location.entry? with
  | none =>
    obtain ⟨outer, name, hplace, houter, hmem, hdots, hshort⟩ := follow_new (h.start absolute) hlocate hnew
    exact ⟨outer, name, hplace, houter, ⟨hnames name hmem, hdots, hshort⟩⟩
  | some entry =>
    rw [hnew] at hentry
    rcases List.eq_nil_or_concat location.place with hnil | ⟨outer, name, hplace⟩
    · rw [hnil] at hfree
      exact absurd h.at?_nil hfree
    · rw [List.concat_eq_append] at hplace
      have hthere : (files.root.at? (outer ++ [name])).isSome = true := by
        rw [at?_isSome, ← hplace, ← hentry]
        rfl
      have houter := dir_of_below hthere
      obtain ⟨children, hchildren⟩ := at?_eq_dir.1 houter
      rw [at?_child hchildren, Option.isSome_map] at hthere
      obtain ⟨child, hchild⟩ := Option.isSome_iff_exists.1 hthere
      exact ⟨outer, name, hplace, houter, ((wellFormed_lookup h.root hchildren).child (mem_of_lookup hchild)).1⟩

/-- putting a file or an empty directory where there is room -/
theorem WellFormed.put {files : FileTree} (h : files.WellFormed) {absolute : Bool} {names : List String}
    (hnames : ∀ name ∈ names, PathName name) {location : Location}
    (hlocate : files.locateNames absolute names = .ok location) (hfree : files.root.at? location.place ≠ some none)
    {new : Entry} (hbare : new.Bare) (hnew : new.WellFormed) :
    FileTree.WellFormed { files with root := files.root.put location.place new } ∧
      ∀ q, (files.root.put location.place new).at? q
        = if q = location.place then some new.content else files.root.at? q := by
  obtain ⟨outer, name, hplace, houter, hproper⟩ := h.room hnames hlocate hfree
  have hput := at?_put hbare location.place files.root (by rw [hplace, List.dropLast_concat, houter]) hfree
  refine ⟨⟨wellFormed_put hnew location.place files.root h.root ?_, ?_⟩, hput⟩
  · rw [hplace, List.getLast?_concat]
    intro last hlast
    rw [← Option.mem_some.1 hlast]
    exact hproper
  · show (files.root.put location.place new).at? files.current = some none
    rw [hput, if_neg, h.current]
    intro hcurrent
    rw [← hcurrent] at hfree
    exact hfree h.current

theorem write_cases {files next : FileTree} {path : String} {bytes : ByteArray}
    (h : files.write path bytes = .ok next) :
    ∃ location, files.locate path = .ok location ∧ files.root.at? location.place ≠ some none ∧
      Path.endsInDirectory path = false ∧ next = { files with root := files.root.put location.place (.file bytes) } := by
  cases hlocate : files.locate path with
  | error e =>
    rw [write, hlocate] at h
    cases h
  | ok location =>
    have hentry := locate_entry hlocate
    refine ⟨location, rfl, ?_⟩
    rw [write, hlocate] at h
    cases hthere : location.entry? with
    | none =>
      simp only [bind, Except.bind, hthere] at h
      split_ifs at h with hends
      cases h
      refine ⟨?_, by simpa using hends, rfl⟩
      rw [at?, ← hentry, hthere]
      simp
    | some entry =>
      cases entry with
      | file old =>
        simp only [bind, Except.bind, hthere] at h
        cases h
        refine ⟨?_, (locate_ok.1 hlocate).2.2.2 ⟨old, hthere⟩, rfl⟩
        rw [at?, ← hentry, hthere]
        simp [content]
      | directory children =>
        simp only [bind, Except.bind, hthere] at h
        cases h

theorem readText_eq {files : FileTree} {path : String} {place : List String} {bytes : ByteArray}
    (h : files.locate path = .ok ⟨place, some (.file bytes)⟩) :
    files.readText path = (String.fromUTF8? bytes).elim (.error .notText) .ok := by
  simp only [readText, read, h, bind, Except.bind, pure, Except.pure]
  cases String.fromUTF8? bytes <;> rfl

/-- a text is read as it was written -/
theorem fromUTF8?_toUTF8 (text : String) : String.fromUTF8? text.toUTF8 = some text := by
  have hvalid : text.toUTF8.IsValidUTF8 := text.isValidUTF8
  rw [String.fromUTF8?, dif_pos hvalid]
  rfl

/-- **A write changes one place.** The path leads to that place afterwards. -/
theorem write_ok {files next : FileTree} {path : String} {bytes : ByteArray} (hfiles : files.WellFormed)
    (h : files.write path bytes = .ok next) :
    ∃ place, files.root.at? place ≠ some none ∧ Changes files.root next.root place bytes ∧ next.WellFormed ∧
      next.current = files.current ∧ next.locate path = .ok ⟨place, some (.file bytes)⟩ := by
  obtain ⟨location, hlocate, hfree, hends, rfl⟩ := write_cases h
  obtain ⟨hnul, -, hnames, -⟩ := locate_ok.1 hlocate
  obtain ⟨hwell, hput⟩ := hfiles.put (fun name => Path.pathName_of_mem_names hnul) hnames hfree (bare_file bytes)
    (by rw [Entry.WellFormed]; trivial)
  have hat : (files.root.put location.place (.file bytes)).at? location.place = some (some bytes) := by
    rw [hput, if_pos rfl, content]
  refine ⟨location.place, hfree, hput, hwell, rfl, ?_⟩
  have hthere := locate_of_dirs (b := { files with root := files.root.put location.place (.file bytes) })
    (Changes.grows hput hfree).dirs rfl hlocate (by rw [hat]; rfl) (fun _ => hends)
  rw [hthere, at?_eq_file.1 hat]

theorem makeDirectory_ok {files made : FileTree} {absolute : Bool} {names : List String} (hfiles : files.WellFormed)
    (hnames : ∀ name ∈ names, PathName name) (h : files.makeDirectory absolute names = .ok made) :
    made.WellFormed ∧ made.current = files.current ∧ Extends files.root made.root := by
  cases hlocate : files.locateNames absolute names with
  | error e =>
    rw [makeDirectory, hlocate] at h
    cases h
  | ok location =>
    have hentry := follow_entry hlocate
    rw [makeDirectory, hlocate] at h
    cases hnew : location.entry? with
    | some entry =>
      simp only [bind, Except.bind, hnew] at h
      cases h
    | none =>
      simp only [bind, Except.bind, hnew] at h
      cases h
      have hnone : files.root.at? location.place = none := by
        rw [at?, ← hentry, hnew]
        rfl
      obtain ⟨hwell, hput⟩ := hfiles.put hnames hlocate (by rw [hnone]; simp) bare_empty
        (by simp [Entry.WellFormed, WellFormedChildren])
      refine ⟨hwell, rfl, ?_⟩
      intro q
      by_cases hq : q = location.place
      · right
        rw [hq]
        exact ⟨hnone, by rw [hput, if_pos rfl, content]⟩
      · left
        show (files.root.put location.place (.directory [])).at? q = files.root.at? q
        rw [hput, if_neg hq]

theorem makeDirectories_ok {names : List String} {files made : FileTree} {absolute : Bool} (hfiles : files.WellFormed)
    (hnames : ∀ name ∈ names, PathName name) (h : files.makeDirectories absolute names = .ok made) :
    made.WellFormed ∧ made.current = files.current ∧ Extends files.root made.root := by
  induction names generalizing made with
  | nil =>
    rw [makeDirectories] at h
    cases h
    exact ⟨hfiles, rfl, Extends.refl _⟩
  | cons name outer ih =>
    have hall : ∀ inner ∈ (name :: outer).reverse, PathName inner := by
      intro inner hinner
      exact hnames inner (List.mem_reverse.1 hinner)
    rw [makeDirectories] at h
    split at h
    · rename_i last hlast
      cases h
      exact makeDirectory_ok hfiles hall hlast
    · cases houter : files.makeDirectories absolute outer with
      | error e =>
        rw [houter] at h
        cases h
      | ok inner =>
        obtain ⟨hwell, hcurrent, hextends⟩ := ih (fun n hn => hnames n (List.mem_cons_of_mem _ hn)) houter
        rw [houter] at h
        simp only [bind, Except.bind] at h
        split at h
        · rename_i last hlast
          cases h
          obtain ⟨hwell', hcurrent', hextends'⟩ := makeDirectory_ok hwell hall hlast
          exact ⟨hwell', hcurrent'.trans hcurrent, hextends.trans hextends'⟩
        · split_ifs at h
          cases h
          exact ⟨hwell, hcurrent, hextends⟩
    · split_ifs at h
      cases h
      exact ⟨hfiles, rfl, Extends.refl _⟩

theorem makeParents_ok {files made : FileTree} {path : String} (hfiles : files.WellFormed)
    (h : files.makeParents path = .ok made) :
    made.WellFormed ∧ made.current = files.current ∧ Extends files.root made.root := by
  unfold makeParents at h
  split_ifs at h with hnul
  refine makeDirectories_ok hfiles ?_ h
  intro name hname
  have hmem := List.mem_reverse.1 (List.mem_of_mem_tail hname)
  exact Path.pathName_of_mem_names (by simpa using hnul) hmem

end FileTree

end DocumentModels.Files
