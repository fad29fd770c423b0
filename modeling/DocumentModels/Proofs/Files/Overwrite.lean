/-
Writing over files that are there.

- `put_self`: a file that is given the bytes that it has leaves the tree as it was, to the order of the names in it.
- `put_put`, `put_comm`: of two writes to a file the later one stays, and writes to two files can change places.
- `changes_put`: writing over a file changes what stands at its place and nothing else.
- `makeParents_of_locate`: on the way to a file or directory that is there, no directory has to be made.
- `write_of_locate`: so writing over a file succeeds.
-/
import Mathlib.Tactic
import DocumentModels.Proofs.Files.Tree

namespace DocumentModels.Files

/-! ## Putting files over files -/

namespace Entry

theorem put_below {children : List (String × Entry)} {name : String} {child : Entry}
    (h : children.lookup name = some child) (rest : List String) (new : Entry) :
    (Entry.directory children).put (name :: rest) new = .directory (upsert name (child.put rest new) children) := by
  cases rest with
  | nil =>
    rw [put]
    cases child <;> rfl
  | cons next rest => exact put_cons h next rest new

theorem lookup?_below {children : List (String × Entry)} {name : String} {rest : List String} {entry : Entry}
    (h : (Entry.directory children).lookup? (name :: rest) = some entry) :
    ∃ child, children.lookup name = some child ∧ child.lookup? rest = some entry := by
  rw [lookup?] at h
  cases hchild : children.lookup name with
  | none =>
    rw [hchild] at h
    cases h
  | some child =>
    rw [hchild] at h
    exact ⟨child, rfl, h⟩

/-- **An entry that is put where it stands.** -/
theorem put_self {root entry : Entry} {place : List String} (h : root.lookup? place = some entry) :
    root.put place entry = root := by
  induction place generalizing root with
  | nil =>
    rw [lookup?_nil, Option.some.injEq] at h
    rw [← h]
    cases root <;> rfl
  | cons name rest ih =>
    cases root with
    | file bytes => rfl
    | directory children =>
      obtain ⟨child, hchild, hbelow⟩ := lookup?_below h
      rw [put_below hchild, ih hbelow, upsert_self hchild]

/-- **Of two entries that are put at a place, the later one stays.** -/
theorem put_put {root entry : Entry} {place : List String} (h : root.lookup? place = some entry) (first second : Entry) :
    (root.put place first).put place second = root.put place second := by
  induction place generalizing root with
  | nil => cases root <;> cases first <;> rfl
  | cons name rest ih =>
    cases root with
    | file bytes => rfl
    | directory children =>
      obtain ⟨child, hchild, hbelow⟩ := lookup?_below h
      have hput : (upsert name (child.put rest first) children).lookup name = some (child.put rest first) := by
        rw [lookup_upsert, if_pos rfl]
      rw [put_below hchild, put_below hput, put_below hchild, ih hbelow, upsert_upsert]

/-- **Entries are put over two files in any order.** -/
theorem put_comm {root : Entry} {p q : List String} {atP atQ : ByteArray} (hne : p ≠ q)
    (hp : root.lookup? p = some (.file atP)) (hq : root.lookup? q = some (.file atQ)) (first second : Entry) :
    (root.put p first).put q second = (root.put q second).put p first := by
  induction p generalizing root q with
  | nil =>
    -- a file at the top has nothing below it
    rw [lookup?_nil, Option.some.injEq] at hp
    subst hp
    cases q with
    | nil => exact absurd rfl hne
    | cons name rest => cases hq
  | cons a p ih =>
    cases root with
    | file bytes => cases hp
    | directory children =>
      cases q with
      | nil => cases hq
      | cons b q =>
        obtain ⟨childA, hchildA, hbelowA⟩ := lookup?_below hp
        obtain ⟨childB, hchildB, hbelowB⟩ := lookup?_below hq
        rw [put_below hchildA, put_below hchildB]
        by_cases hab : a = b
        · subst hab
          rw [hchildA, Option.some.injEq] at hchildB
          subst hchildB
          have hput : ∀ entry, (upsert a entry children).lookup a = some entry := by
            intro entry
            rw [lookup_upsert, if_pos rfl]
          have hrest : p ≠ q := fun h => hne (by rw [h])
          rw [put_below (hput _), put_below (hput _), upsert_upsert, upsert_upsert, ih hrest hbelowA hbelowB]
        · have hputA : (upsert a (childA.put p first) children).lookup b = some childB := by
            rw [lookup_upsert, if_neg (Ne.symm hab), hchildB]
          have hputB : (upsert b (childB.put q second) children).lookup a = some childA := by
            rw [lookup_upsert, if_neg hab, hchildA]
          rw [put_below hputA, put_below hputB, upsert_comm hab (by rw [hchildA]; rfl)]

/-- **Writing over a file changes its place alone.** -/
theorem changes_put {root : Entry} {place : List String} {old : ByteArray} (h : root.lookup? place = some (.file old))
    (bytes : ByteArray) : Changes root (root.put place (.file bytes)) place bytes := by
  have hhere : root.at? place = some (some old) := at?_eq_file.2 h
  rcases List.eq_nil_or_concat place with rfl | ⟨outer, name, rfl⟩
  · rw [lookup?_nil, Option.some.injEq] at h
    subst h
    intro q
    cases q with
    | nil => rfl
    | cons name rest => rfl
  · rw [List.concat_eq_append] at hhere ⊢
    have hdir : root.at? outer = some none := dir_of_below (by rw [hhere]; rfl)
    exact at?_put (bare_file bytes) _ root (by rw [List.dropLast_concat, hdir]) (by rw [hhere]; simp)

end Entry

open Entry

namespace FileTree

/-! ## The way to what is there -/

theorem follow_init {root : Entry} {names : List String} {last : String} {place : List String} {location : Location}
    (h : follow root place (names ++ [last]) = .ok location) :
    ∃ outer children, follow root place names = .ok ⟨outer, some (.directory children)⟩ := by
  induction names generalizing place with
  | nil =>
    obtain ⟨hdir, -⟩ := follow_cases h
    obtain ⟨children, hchildren⟩ := at?_eq_dir.1 hdir
    exact ⟨place, children, by rw [follow_nil, hchildren]⟩
  | cons name rest ih =>
    rw [List.cons_append] at h
    obtain ⟨hdir, ⟨rfl, hup⟩ | ⟨hdots, hshort, ⟨-, hnil, -⟩ | ⟨hname, hdown⟩⟩⟩ := follow_cases h
    · rw [follow_up hdir]
      exact ih hup
    · cases rest <;> cases hnil
    · rw [follow_down hdots hshort hname]
      exact ih hdown

/-- **No directory is made on the way to what is there.** -/
theorem makeParents_of_locate {files : FileTree} {path : String} {location : Location}
    (h : files.locate path = .ok location) : files.makeParents path = .ok files := by
  obtain ⟨hnul, -, hnames, -⟩ := locate_ok.1 h
  rw [makeParents, if_neg (by simpa using hnul)]
  rcases List.eq_nil_or_concat (Path.names path) with hnil | ⟨names, last, hlast⟩
  · rw [hnil]
    rfl
  · rw [hlast, List.concat_eq_append] at hnames ⊢
    rw [List.reverse_concat, List.tail_cons]
    obtain ⟨outer, children, hinit⟩ := follow_init hnames
    cases hreverse : names.reverse with
    | nil => rfl
    | cons name before =>
      have hback : (name :: before).reverse = names := by rw [← hreverse, List.reverse_reverse]
      have hthere : files.locateNames (Path.isAbsolute path) names = .ok ⟨outer, some (.directory children)⟩ := hinit
      have hmake : files.makeDirectory (Path.isAbsolute path) names = .error .exists := by
        rw [makeDirectory, hthere]
        rfl
      have hleads : files.leadsToDirectory (Path.isAbsolute path) names = true := by rw [leadsToDirectory, hthere]
      rw [makeDirectories, hback, hmake]
      exact if_pos hleads

/-! ## Reading -/

theorem read_ok {files : FileTree} {path : String} {bytes : ByteArray} :
    files.read path = .ok bytes ↔ ∃ place, files.locate path = .ok ⟨place, some (.file bytes)⟩ := by
  rw [read]
  cases files.locate path with
  | error e => simp [bind, Except.bind]
  | ok location =>
    obtain ⟨place, entry⟩ := location
    rcases entry with _ | (held | children)
    · simp [bind, Except.bind, throw, throwThe, MonadExceptOf.throw]
    · simp [bind, Except.bind, pure, Except.pure]
    · simp [bind, Except.bind, throw, throwThe, MonadExceptOf.throw]

theorem toUTF8_of_fromUTF8? {bytes : ByteArray} {text : String} (h : String.fromUTF8? bytes = some text) :
    bytes = text.toUTF8 := by
  rw [String.fromUTF8?] at h
  split_ifs at h with hvalid
  cases h
  rfl

theorem read_of_readText {files : FileTree} {path text : String} (h : files.readText path = .ok text) :
    files.read path = .ok text.toUTF8 := by
  rw [readText] at h
  cases hread : files.read path with
  | error e =>
    rw [hread] at h
    cases h
  | ok bytes =>
    cases htext : String.fromUTF8? bytes with
    | none =>
      rw [hread] at h
      simp only [bind, Except.bind, htext] at h
      cases h
    | some held =>
      rw [hread] at h
      simp only [bind, Except.bind, htext] at h
      cases h
      rw [toUTF8_of_fromUTF8? htext]

/-! ## Writing -/

def overwrite (files : FileTree) (place : List String) (bytes : ByteArray) : FileTree :=
  { files with root := files.root.put place (.file bytes) }

/-- **Writing over a file succeeds.** -/
theorem write_of_locate {files : FileTree} {path : String} {place : List String} {old : ByteArray}
    (h : files.locate path = .ok ⟨place, some (.file old)⟩) (bytes : ByteArray) :
    files.write path bytes = .ok (files.overwrite place bytes) := by
  simp only [write, h, bind, Except.bind, pure, Except.pure, overwrite]

/-- bytes written over themselves -/
theorem overwrite_self {files : FileTree} {path : String} {place : List String} {bytes : ByteArray}
    (h : files.locate path = .ok ⟨place, some (.file bytes)⟩) : files.overwrite place bytes = files := by
  rw [overwrite, put_self (locate_entry h).symm]

/-- of two writes to a file, the later one stays -/
theorem overwrite_overwrite {files : FileTree} {place : List String} {old : ByteArray}
    (h : files.root.lookup? place = some (.file old)) (first second : ByteArray) :
    (files.overwrite place first).overwrite place second = files.overwrite place second := by
  rw [overwrite, overwrite, overwrite, put_put h]

/-- writes to two files can change places -/
theorem overwrite_comm {files : FileTree} {p q : List String} {atP atQ : ByteArray} (hne : p ≠ q)
    (hp : files.root.lookup? p = some (.file atP)) (hq : files.root.lookup? q = some (.file atQ))
    (first second : ByteArray) :
    (files.overwrite p first).overwrite q second = (files.overwrite q second).overwrite p first := by
  simp only [overwrite, put_comm hne hp hq]

/-- a path to a file leads to a file at the same place when files have been written over -/
theorem locate_overwrite {files : FileTree} {path : String} {place q : List String} {old there bytes : ByteArray}
    (h : files.locate path = .ok ⟨place, some (.file old)⟩) (hthere : files.root.lookup? q = some (.file there)) :
    (files.overwrite q bytes).locate path
      = .ok ⟨place, some (.file (if place = q then bytes else old))⟩ := by
  have hchanges := changes_put hthere bytes
  have hhere : files.root.at? place = some (some old) := at?_eq_file.2 (locate_entry h).symm
  have hafter : (files.overwrite q bytes).root.at? place = some (some (if place = q then bytes else old)) := by
    rw [overwrite, hchanges place, hhere]
    split_ifs <;> rfl
  have hgrows : Grows files.root (files.overwrite q bytes).root :=
    hchanges.grows (by rw [at?_eq_file.2 hthere]; simp)
  have hlocate := locate_of_dirs hgrows.dirs rfl h (by rw [hafter]; rfl) fun _ => (locate_ok.1 h).2.2.2 ⟨old, rfl⟩
  rw [hlocate, at?_eq_file.1 hafter]

end FileTree

end DocumentModels.Files
