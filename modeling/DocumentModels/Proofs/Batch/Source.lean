/-
Which definition files a run reads, and what comes of each.

- `discover_ok`: the sources of a run are the definition files in the input directory, by name.
- `mem_discover`, `locate_source`: a source stands under its name in the input directory, and its path leads there.
- `discover_congr`: trees with the same definition files in the input directory have the same sources.
- `load_ok`: each source yields an entity or a failure, in order and independently of its siblings.
- `load_congr`: what is loaded depends on the texts of the sources alone.
-/
import Mathlib.Tactic
import DocumentModels.Batch.Source
import DocumentModels.Proofs.Files.Tree

namespace DocumentModels.Batch

open Files Entry

/-! ## Names of definition files -/

def entityOfName? (suffix name : String) : Option String := (stripSuffix? name suffix).filter (!·.isEmpty)

/-- the names of the definition files in a directory, in order -/
def sourceNames (suffix : String) (children : List (String × Entry)) : List String :=
  ((children.mergeSort fun a b => a.1 ≤ b.1).filter fun child => (entityOf? suffix child).isSome).map Prod.fst

theorem entityOf?_file (suffix name : String) (bytes : ByteArray) :
    entityOf? suffix (name, .file bytes) = entityOfName? suffix name := rfl

theorem eq_of_entityOfName? {suffix name entity : String} (h : entityOfName? suffix name = some entity) :
    name = entity ++ suffix := by
  obtain ⟨hstrip, -⟩ := Option.filter_eq_some_iff.1 h
  rw [stripSuffix?] at hstrip
  split_ifs at hstrip with hsuffix
  obtain ⟨before, hbefore⟩ := List.isSuffixOf_iff_suffix.1 hsuffix
  have hlength : name.length - suffix.length = before.length := by
    rw [← String.length_toList, ← String.length_toList, ← hbefore, List.length_append]
    omega
  rw [hlength, ← hbefore, List.take_left, Option.some.injEq] at hstrip
  apply String.toList_inj.1
  rw [String.toList_append, ← hstrip, String.toList_ofList, hbefore]

theorem sourceNames_sorted (suffix : String) (children : List (String × Entry)) :
    (sourceNames suffix children).Pairwise (· ≤ ·) := by
  have hsorted : (children.mergeSort fun a b => a.1 ≤ b.1).Pairwise fun a b => decide (a.1 ≤ b.1) = true := by
    apply List.pairwise_mergeSort
    · intro a b c hab hbc
      simp only [decide_eq_true_eq] at hab hbc ⊢
      exact String.le_trans hab hbc
    · intro a b
      simpa using String.le_total a.1 b.1
  rw [sourceNames, List.pairwise_map]
  refine (hsorted.filter _).imp ?_
  intro a b hab
  simpa using hab

theorem sourceNames_nodup {suffix : String} {children : List (String × Entry)}
    (h : (children.map Prod.fst).Nodup) : (sourceNames suffix children).Nodup := by
  have hsorted : ((children.mergeSort fun a b => a.1 ≤ b.1).map Prod.fst).Nodup :=
    ((List.mergeSort_perm children _).map Prod.fst).nodup_iff.2 h
  exact hsorted.sublist (List.filter_sublist.map Prod.fst)

theorem mem_sourceNames {suffix : String} {children : List (String × Entry)} (h : (children.map Prod.fst).Nodup)
    {name : String} :
    name ∈ sourceNames suffix children
      ↔ (entityOfName? suffix name).isSome = true ∧ ∃ bytes, children.lookup name = some (.file bytes) := by
  rw [sourceNames, List.mem_map]
  constructor
  · rintro ⟨⟨key, entry⟩, hmem, rfl⟩
    obtain ⟨hmem, hentity⟩ := List.mem_filter.1 hmem
    have hchild : (key, entry) ∈ children := List.mem_mergeSort.1 hmem
    cases entry with
    | file bytes => exact ⟨hentity, bytes, lookup_of_mem h hchild⟩
    | directory below => cases hentity
  · rintro ⟨hentity, bytes, hlookup⟩
    refine ⟨(name, .file bytes), ?_, rfl⟩
    rw [List.mem_filter, List.mem_mergeSort]
    exact ⟨mem_of_lookup hlookup, hentity⟩

/-- two directories list the definition files that they share alike -/
theorem filter_sourceNames_congr {suffix : String} {a b : List (String × Entry)} (ha : (a.map Prod.fst).Nodup)
    (hb : (b.map Prod.fst).Nodup) (shared : String → Bool)
    (h : ∀ name, shared name = true → (entityOfName? suffix name).isSome = true →
      ((∃ bytes, a.lookup name = some (.file bytes)) ↔ ∃ bytes, b.lookup name = some (.file bytes))) :
    (sourceNames suffix a).filter shared = (sourceNames suffix b).filter shared := by
  have hperm : ((sourceNames suffix a).filter shared).Perm ((sourceNames suffix b).filter shared) := by
    rw [List.perm_ext_iff_of_nodup ((sourceNames_nodup ha).filter _) ((sourceNames_nodup hb).filter _)]
    intro name
    rw [List.mem_filter, List.mem_filter, mem_sourceNames ha, mem_sourceNames hb, and_comm, and_comm (b := shared name)]
    exact and_congr_right fun hshared => and_congr_right (h name hshared)
  have ha' := (sourceNames_sorted suffix a).filter shared
  have hb' := (sourceNames_sorted suffix b).filter shared
  exact hperm.eq_of_pairwise (fun _ _ _ _ => String.le_antisymm) ha' hb'

/-- two directories with the same definition files list them alike -/
theorem sourceNames_congr {suffix : String} {a b : List (String × Entry)} (ha : (a.map Prod.fst).Nodup)
    (hb : (b.map Prod.fst).Nodup)
    (h : ∀ name, (entityOfName? suffix name).isSome = true →
      ((∃ bytes, a.lookup name = some (.file bytes)) ↔ ∃ bytes, b.lookup name = some (.file bytes))) :
    sourceNames suffix a = sourceNames suffix b := by
  have hall := filter_sourceNames_congr ha hb (fun _ => true) fun name _ => h name
  simpa using hall

/-! ## Sources -/

/-- the sources of the named files in a directory: entity and path -/
def sourcesOf (directory suffix : String) (names : List String) : List (String × String) :=
  names.filterMap fun name => (entityOfName? suffix name).map fun entity => (entity, Path.join directory name)

theorem discover_ok {files : FileTree} {directory : String} {place : List String} {children : List (String × Entry)}
    (h : files.locate directory = .ok ⟨place, some (.directory children)⟩) (suffix : String) :
    discover files directory suffix = .ok (sourcesOf directory suffix (sourceNames suffix children)) := by
  have hentry : files.entry? directory = some (.directory children) := by rw [FileTree.entry?, h]
  rw [discover, FileTree.isDirectory, FileTree.children, hentry]
  simp only [if_true]
  rw [sourcesOf, sourceNames, List.filterMap_map, List.filterMap_filter]
  congr 1
  refine List.filterMap_congr ?_
  rintro ⟨name, entry⟩ -
  cases entry with
  | file bytes =>
    rw [entityOf?_file, Function.comp_apply]
    cases entityOfName? suffix name <;> rfl
  | directory below => rfl

theorem directory_of_discover {files : FileTree} {directory suffix : String} {sources : List (String × String)}
    (h : discover files directory suffix = .ok sources) :
    ∃ place children, files.locate directory = .ok ⟨place, some (.directory children)⟩ := by
  unfold discover at h
  split_ifs at h with hdir
  rw [FileTree.isDirectory, FileTree.entry?] at hdir
  cases hlocate : files.locate directory with
  | error e =>
    rw [hlocate] at hdir
    cases hdir
  | ok location =>
    obtain ⟨place, entry⟩ := location
    rw [hlocate] at hdir
    rcases entry with _ | (bytes | children)
    · cases hdir
    · cases hdir
    · exact ⟨place, children, rfl⟩

theorem distinct_of_locate {files : FileTree} (hfiles : files.WellFormed) {directory : String} {place : List String}
    {children : List (String × Entry)} (h : files.locate directory = .ok ⟨place, some (.directory children)⟩) :
    (children.map Prod.fst).Nodup := by
  have hwell := wellFormed_lookup hfiles.root (FileTree.locate_entry h).symm
  rw [Entry.WellFormed] at hwell
  exact hwell.1

theorem lookup_file_iff {files : FileTree} {directory : String} {place : List String}
    {children : List (String × Entry)} (hdir : files.locate directory = .ok ⟨place, some (.directory children)⟩)
    (name : String) (bytes : ByteArray) :
    files.root.at? (place ++ [name]) = some (some bytes) ↔ children.lookup name = some (.file bytes) := by
  rw [at?_child (FileTree.locate_entry hdir).symm, Option.map_eq_some_iff]
  constructor
  · rintro ⟨entry, hentry, hbytes⟩
    cases entry with
    | file held =>
      rw [content, Option.some.injEq] at hbytes
      rw [hentry, hbytes]
    | directory below => cases hbytes
  · intro hentry
    exact ⟨.file bytes, hentry, rfl⟩

theorem mem_discover {files : FileTree} (hfiles : files.WellFormed) {directory suffix : String} {place : List String}
    {children : List (String × Entry)} (hdir : files.locate directory = .ok ⟨place, some (.directory children)⟩)
    {sources : List (String × String)} (h : discover files directory suffix = .ok sources) {source : String × String} :
    source ∈ sources ↔ ∃ name bytes, entityOfName? suffix name = some source.1 ∧
      source.2 = Path.join directory name ∧ children.lookup name = some (.file bytes) := by
  have hnames := distinct_of_locate hfiles hdir
  rw [discover_ok hdir, Except.ok.injEq] at h
  rw [← h, sourcesOf, List.mem_filterMap]
  constructor
  · rintro ⟨name, hname, hsource⟩
    obtain ⟨-, bytes, hlookup⟩ := (mem_sourceNames hnames).1 hname
    obtain ⟨entity, hentity, rfl⟩ := Option.map_eq_some_iff.1 hsource
    exact ⟨name, bytes, hentity, rfl, hlookup⟩
  · rintro ⟨name, bytes, hentity, hpath, hlookup⟩
    refine ⟨name, (mem_sourceNames hnames).2 ⟨by rw [hentity]; rfl, bytes, hlookup⟩, ?_⟩
    rw [hentity, Option.map_some, ← hpath]

theorem locate_source {files : FileTree} (hfiles : files.WellFormed) {directory suffix : String} {place : List String}
    {children : List (String × Entry)} (hdir : files.locate directory = .ok ⟨place, some (.directory children)⟩)
    {sources : List (String × String)} (h : discover files directory suffix = .ok sources) {source : String × String}
    (hsource : source ∈ sources) :
    ∃ bytes, files.locate source.2 = .ok ⟨place ++ [source.1 ++ suffix], some (.file bytes)⟩ := by
  obtain ⟨name, bytes, hentity, hpath, hlookup⟩ := (mem_discover hfiles hdir h).1 hsource
  refine ⟨bytes, ?_⟩
  rw [hpath, ← eq_of_entityOfName? hentity]
  exact FileTree.locate_join hfiles hdir hlookup

theorem readText_join {files : FileTree} (hfiles : files.WellFormed) {directory : String} {place : List String}
    {children : List (String × Entry)} (hdir : files.locate directory = .ok ⟨place, some (.directory children)⟩)
    {name text : String} (h : children.lookup name = some (.file text.toUTF8)) :
    files.readText (Path.join directory name) = .ok text := by
  rw [FileTree.readText_eq (FileTree.locate_join hfiles hdir h), FileTree.fromUTF8?_toUTF8]
  rfl

/-- **The same files are the same sources.** What else stands in the input directory does not matter. -/
theorem discover_congr {a b : FileTree} (ha : a.WellFormed) (hb : b.WellFormed) {directory suffix : String}
    {place : List String} {before after : List (String × Entry)}
    (hbefore : a.locate directory = .ok ⟨place, some (.directory before)⟩)
    (hafter : b.locate directory = .ok ⟨place, some (.directory after)⟩)
    (h : ∀ name, (entityOfName? suffix name).isSome = true →
      ((∃ bytes, before.lookup name = some (.file bytes)) ↔ ∃ bytes, after.lookup name = some (.file bytes))) :
    discover a directory suffix = discover b directory suffix := by
  rw [discover_ok hbefore, discover_ok hafter,
    sourceNames_congr (distinct_of_locate ha hbefore) (distinct_of_locate hb hafter) h]

/-! ## Loading -/

def failureOf? (files : FileTree) (source : String × String) : Option LoadFailure :=
  match loadFile files source.1 source.2 with
  | .ok _ => none
  | .error failure => some ⟨source.1, source.2, failure⟩

def entityOfSource? (files : FileTree) (source : String × String) : Option Entity :=
  (loadFile files source.1 source.2).toOption

theorem foldl_add (files : FileTree) (sources : List (String × String)) (loaded : Loaded) :
    sources.foldl (Loaded.add files) loaded
      = ⟨loaded.entities ++ sources.filterMap (entityOfSource? files),
          loaded.failures ++ sources.filterMap (failureOf? files)⟩ := by
  induction sources generalizing loaded with
  | nil => simp
  | cons source sources ih =>
    rw [List.foldl_cons, ih, List.filterMap_cons, List.filterMap_cons, Loaded.add, entityOfSource?, failureOf?]
    cases loadFile files source.1 source.2 with
    | ok entity => simp [Except.toOption]
    | error failure => simp [Except.toOption]

theorem load_ok {files : FileTree} {directory suffix : String} {loaded : Loaded} :
    load files directory suffix = .ok loaded ↔ ∃ sources, discover files directory suffix = .ok sources ∧
      loaded = ⟨sources.filterMap (entityOfSource? files), sources.filterMap (failureOf? files)⟩ := by
  rw [load]
  cases discover files directory suffix with
  | error failure => simp [bind, Except.bind]
  | ok sources =>
    simp only [bind, Except.bind, pure, Except.pure, foldl_add, Except.ok.injEq, exists_eq_left', List.nil_append]
    exact eq_comm

theorem loadFile_ok {files : FileTree} {entity path text : String} {definition : Json} {loaded : Entity}
    (htext : files.readText path = .ok text) (hjson : Json.read? text = some definition)
    (hentity : Entity.ofDefinition entity definition = .ok loaded) : loadFile files entity path = .ok loaded := by
  simp only [loadFile, htext, Except.mapError, bind, Except.bind, hjson, hentity, pure, Except.pure]

theorem loadFile_invalid {files : FileTree} {entity path text : String} (htext : files.readText path = .ok text)
    (hjson : Json.read? text = none) : loadFile files entity path = .error (.load path .invalidJson) := by
  simp only [loadFile, htext, Except.mapError, bind, Except.bind, hjson, throw, throwThe, MonadExceptOf.throw]

theorem loadFile_unread {files : FileTree} {entity path : String} {error : FileError}
    (htext : files.readText path = .error error) : loadFile files entity path = .error (.read error) := by
  simp only [loadFile, htext, Except.mapError, bind, Except.bind]

theorem loadFile_congr {a b : FileTree} {entity path : String} (h : a.readText path = b.readText path) :
    loadFile a entity path = loadFile b entity path := by
  rw [loadFile, loadFile, h]

theorem loadFile_cases (files : FileTree) (entity path : String) :
    (∃ cause, loadFile files entity path = .error (.read cause)) ∨
      (∃ what cause, loadFile files entity path = .error (.load what cause)) ∨
      ∃ definition loaded, Entity.ofDefinition entity definition = .ok loaded ∧
        loadFile files entity path = .ok loaded := by
  cases htext : files.readText path with
  | error cause => exact Or.inl ⟨cause, loadFile_unread htext⟩
  | ok text =>
    right
    cases hjson : Json.read? text with
    | none => exact Or.inl ⟨path, .invalidJson, loadFile_invalid htext hjson⟩
    | some definition =>
      cases hentity : Entity.ofDefinition entity definition with
      | ok loaded => exact Or.inr ⟨definition, loaded, hentity, loadFile_ok htext hjson hentity⟩
      | error error =>
        left
        rw [loadFile, htext]
        simp only [Except.mapError, bind, Except.bind, hjson, hentity]
        cases error <;> exact ⟨_, _, rfl⟩

/-- what comes of sources depends on their texts alone -/
theorem loaded_congr {a b : FileTree} {sources : List (String × String)}
    (h : ∀ source ∈ sources, a.readText source.2 = b.readText source.2) :
    Loaded.mk (sources.filterMap (entityOfSource? a)) (sources.filterMap (failureOf? a))
      = ⟨sources.filterMap (entityOfSource? b), sources.filterMap (failureOf? b)⟩ := by
  congr 1
  · refine List.filterMap_congr ?_
    intro source hsource
    rw [entityOfSource?, entityOfSource?, loadFile_congr (h source hsource)]
  · refine List.filterMap_congr ?_
    intro source hsource
    rw [failureOf?, failureOf?, loadFile_congr (h source hsource)]

/-- **Loading reads the sources alone.** Trees with the same sources and the same texts in them load the same. -/
theorem load_congr {a b : FileTree} {directory suffix : String} {sources : List (String × String)}
    (ha : discover a directory suffix = .ok sources) (hb : discover b directory suffix = .ok sources)
    (h : ∀ source ∈ sources, a.readText source.2 = b.readText source.2) :
    load a directory suffix = load b directory suffix := by
  rw [load_ok.2 ⟨sources, ha, rfl⟩, load_ok.2 ⟨sources, hb, rfl⟩, loaded_congr h]

end DocumentModels.Batch
