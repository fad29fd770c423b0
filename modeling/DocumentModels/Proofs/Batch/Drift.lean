/-
Whether a check right after a run finds every module up to date.

- `failureOf?_module`: a module is no definition, so a source that a module was written over fails to load.
- `ModulesWritten.load_eq`: as long as a run adds and alters no source, the sources load as before it.
- `ModulesWritten.sourcesKept`, `load_kept`: so they do as long as no module was written over a source or became one.
- `compare_text`: a module is up to date if and only if it has the checksum of the text at its path.
- `clean_iff_apart`: the exact condition. After a run without failure the check finds no failure and every module up to
  date if and only if modules at one place have one checksum and no module stands at the place of a source.
- `twins_overwritten`: entities whose names differ in case alone share a place, and the check after the run finds drift.
-/
import Mathlib.Tactic
import DocumentModels.Proofs.Batch.Modules

namespace DocumentModels.Batch

open Files Entry

/-! ## Modules are no definitions -/

theorem moduleText_first (entity : String) (fields : List (String × Spec)) (indexes : List Index) (timestamps : Bool) :
    ∃ rest, (Emit.moduleText entity fields indexes timestamps).toList = 'c' :: rest := by
  unfold Emit.moduleText
  simp only [String.toList_append, List.append_assoc]
  exact ⟨_, rfl⟩

theorem read?_module (settings : Settings) (entity : Entity) : Json.read? (moduleCode settings entity) = none := by
  obtain ⟨rest, hfirst⟩ : ∃ rest, (moduleCode settings entity).toList = 'c' :: rest := moduleText_first _ _ _ _
  have hstep : Json.Reader.step? Json.Reader.initial 'c' = none := by decide
  rw [Json.read?, hfirst, List.foldlM_cons, hstep]
  rfl

theorem failureOf?_module {files : FileTree} {settings : Settings} {entity : Entity} {source : String × String}
    (h : files.readText source.2 = .ok (moduleCode settings entity)) :
    failureOf? files source = some ⟨source.1, source.2, .load source.2 .invalidJson⟩ := by
  rw [failureOf?, loadFile_invalid h (read?_module settings entity)]

/-! ## Checks -/

/-- the check finds no failure and every entity up to date -/
structure Clean (report : DriftReport) (entities : List String) : Prop where
  failures : report.failures = []
  entities : report.entries.map (·.entity) = entities
  upToDate : ∀ entry ∈ report.entries, entry.status = .upToDate

def entryOf (files : FileTree) (settings : Settings) (entity : Entity) : DriftEntry :=
  ⟨entity.name, modulePath settings entity, compare files (Rendering.ofEntity settings entity)⟩

theorem entryOf_status (files : FileTree) (settings : Settings) (entity : Entity) :
    (entryOf files settings entity).status = compare files (Rendering.ofEntity settings entity) := by rw [entryOf]

theorem check_ok {files : FileTree} {settings : Settings} {loaded : Loaded}
    (h : load files settings.inputDir settings.inputSuffix = .ok loaded) :
    check files settings = .ok ⟨loaded.failures, loaded.entities.map (entryOf files settings)⟩ := by
  unfold check
  rw [h]
  simp only [bind, Except.bind]
  unfold entryOf modulePath
  rfl

theorem clean_iff {files : FileTree} {settings : Settings} {failures : List LoadFailure} {entities : List Entity} :
    Clean ⟨failures, entities.map (entryOf files settings)⟩ (entities.map (·.name))
      ↔ failures = [] ∧ ∀ entity ∈ entities, compare files (Rendering.ofEntity settings entity) = .upToDate := by
  constructor
  · intro h
    refine ⟨h.failures, ?_⟩
    intro entity hentity
    rw [← entryOf_status]
    exact h.upToDate _ (List.mem_map_of_mem hentity)
  · rintro ⟨hfailures, hcurrent⟩
    refine ⟨hfailures, ?_, ?_⟩
    · rw [List.map_map]
      rfl
    · intro entry hentry
      obtain ⟨entity, hentity, rfl⟩ := List.mem_map.1 hentry
      rw [entryOf_status]
      exact hcurrent entity hentity

theorem compare_text {files : FileTree} {settings : Settings} {entity : Entity} {text : String}
    (h : files.readText (modulePath settings entity) = .ok text) :
    compare files (Rendering.ofEntity settings entity) = .upToDate
      ↔ Digest.checksum (moduleCode settings entity) = Digest.checksum text := by
  unfold modulePath at h
  simp only [compare, h, Digest.verify, Rendering.checksum, moduleCode, beq_iff_eq]
  split_ifs with hsum
  · simp [hsum]
  · simp [hsum]

/-! ## A check after a run -/

section AfterRun

variable {settings : Settings} {files after : FileTree} {entities : List Entity}

/-- modules at one place have one checksum, and no module stands at the place of a source -/
structure Apart (settings : Settings) (files : FileTree) (entities : List Entity) (sources : List (String × String)) :
    Prop where
  modules : ∀ a ∈ entities, ∀ b ∈ entities,
    placeOf? files (modulePath settings a) = placeOf? files (modulePath settings b) →
      Digest.checksum (moduleCode settings a) = Digest.checksum (moduleCode settings b)
  sources : ∀ entity ∈ entities, ∀ source ∈ sources,
    placeOf? files (modulePath settings entity) ≠ placeOf? files source.2

/-- of the sources of two trees, the later tree has no other ones, and reads the same in those of the earlier -/
structure SourcesKept (before after : FileTree) (directory suffix : String) : Prop where
  none_added : ∀ old sources, discover before directory suffix = .ok old → discover after directory suffix = .ok sources →
    ∀ source ∈ sources, source ∈ old
  none_altered : ∀ old, discover before directory suffix = .ok old → ∀ source ∈ old,
    after.read source.2 = before.read source.2

theorem ModulesWritten.inputDir (hwritten : ModulesWritten settings files entities after) {directory : String}
    {place : List String} {before : List (String × Entry)}
    (hdir : files.locate directory = .ok ⟨place, some (.directory before)⟩) :
    ∃ children, after.locate directory = .ok ⟨place, some (.directory children)⟩ :=
  FileTree.locate_directory_of_dirs hwritten.grows.dirs hwritten.current hdir

/-- **Sources load as before,** as long as the run added and altered none. -/
theorem ModulesWritten.load_eq (hfiles : files.WellFormed) (hwritten : ModulesWritten settings files entities after)
    {directory suffix : String} {old : List (String × String)} (hbefore : discover files directory suffix = .ok old)
    (hkept : SourcesKept files after directory suffix) : load after directory suffix = load files directory suffix := by
  obtain ⟨place, before, hdir⟩ := directory_of_discover hbefore
  obtain ⟨children, hdir'⟩ := hwritten.inputDir hdir
  obtain ⟨sources, hafter⟩ : ∃ sources, discover after directory suffix = .ok sources := ⟨_, discover_ok hdir' suffix⟩
  have hnames : discover files directory suffix = discover after directory suffix := by
    refine discover_congr hfiles hwritten.wellFormed hdir hdir' ?_
    intro name hname
    constructor
    · rintro ⟨bytes, hlookup⟩
      obtain ⟨bytes', hthere⟩ := hwritten.grows.files _ _ ((lookup_file_iff hdir name bytes).2 hlookup)
      exact ⟨bytes', (lookup_file_iff hdir' name bytes').1 hthere⟩
    · rintro ⟨bytes, hlookup⟩
      obtain ⟨entity, hentity⟩ := Option.isSome_iff_exists.1 hname
      have hsource : (entity, Path.join directory name) ∈ sources :=
        (mem_discover hwritten.wellFormed hdir' hafter).2 ⟨name, bytes, hentity, rfl, hlookup⟩
      obtain ⟨name', bytes', hentity', -, hlookup'⟩ :=
        (mem_discover hfiles hdir hbefore).1 (hkept.none_added _ _ hbefore hafter _ hsource)
      have hsame : name' = name := (eq_of_entityOfName? hentity').trans (eq_of_entityOfName? hentity).symm
      exact ⟨bytes', hsame ▸ hlookup'⟩
  refine load_congr (hnames.symm.trans hbefore) hbefore ?_
  intro source hsource
  rw [FileTree.readText, FileTree.readText, hkept.none_altered _ hbefore source hsource]

/-- a run keeps the sources, as long as no module was written over a source or became one -/
theorem ModulesWritten.sourcesKept (hfiles : files.WellFormed) (hwritten : ModulesWritten settings files entities after)
    {directory suffix : String} {sources : List (String × String)} (hafter : discover after directory suffix = .ok sources)
    (hapart : ∀ entity ∈ entities, ∀ source ∈ sources,
      placeOf? after (modulePath settings entity) ≠ placeOf? after source.2) :
    SourcesKept files after directory suffix := by
  -- a definition file of the tree after the run was there before, with the same bytes
  have hkept : ∀ {place before children}, files.locate directory = .ok ⟨place, some (.directory before)⟩ →
      after.locate directory = .ok ⟨place, some (.directory children)⟩ →
        ∀ {name entity bytes}, entityOfName? suffix name = some entity →
          children.lookup name = some (.file bytes) → before.lookup name = some (.file bytes) := by
    intro place before children hdir hdir' name entity bytes hentity hlookup
    have hsource : (entity, Path.join directory name) ∈ sources :=
      (mem_discover hwritten.wellFormed hdir' hafter).2 ⟨name, bytes, hentity, rfl, hlookup⟩
    have hplace := placeOf?_ok (FileTree.locate_join hwritten.wellFormed hdir' hlookup)
    have hsame := hwritten.elsewhere (place ++ [name]) (by
      intro module hmodule hthere
      exact hapart module hmodule _ hsource (hthere.trans hplace.symm))
    rw [← lookup_file_iff hdir, ← hsame.file_iff, lookup_file_iff hdir']
    exact hlookup
  constructor
  · intro old sources' hbefore hafter' source hsource
    obtain ⟨place, before, hdir⟩ := directory_of_discover hbefore
    obtain ⟨children, hdir'⟩ := hwritten.inputDir hdir
    obtain ⟨name, bytes, hentity, hpath, hlookup⟩ := (mem_discover hwritten.wellFormed hdir' hafter').1 hsource
    exact (mem_discover hfiles hdir hbefore).2 ⟨name, bytes, hentity, hpath, hkept hdir hdir' hentity hlookup⟩
  · intro old hbefore source hsource
    obtain ⟨place, before, hdir⟩ := directory_of_discover hbefore
    obtain ⟨children, hdir'⟩ := hwritten.inputDir hdir
    obtain ⟨name, bytes, hentity, hpath, hlookup⟩ := (mem_discover hfiles hdir hbefore).1 hsource
    obtain ⟨bytes', hthere⟩ := hwritten.grows.files _ _ ((lookup_file_iff hdir name bytes).2 hlookup)
    have hlookup' := (lookup_file_iff hdir' name bytes').1 hthere
    have hbytes := hkept hdir hdir' hentity hlookup'
    rw [hlookup, Option.some.injEq, Entry.file.injEq] at hbytes
    subst hbytes
    rw [hpath, FileTree.read, FileTree.read, FileTree.locate_join hwritten.wellFormed hdir' hlookup',
      FileTree.locate_join hfiles hdir hlookup]

/-- **Sources load as before,** as long as no module was written over a source or became one. -/
theorem load_kept (hfiles : files.WellFormed) (hwritten : ModulesWritten settings files entities after)
    {directory suffix : String} {old sources : List (String × String)}
    (hbefore : discover files directory suffix = .ok old) (hafter : discover after directory suffix = .ok sources)
    (hapart : ∀ entity ∈ entities, ∀ source ∈ sources,
      placeOf? after (modulePath settings entity) ≠ placeOf? after source.2) :
    load after directory suffix = load files directory suffix :=
  hwritten.load_eq hfiles hbefore (hwritten.sourcesKept hfiles hafter hapart)

/-- a source that a module was written over fails to load -/
theorem ModulesWritten.overwritten (hwritten : ModulesWritten settings files entities after) {entity : Entity}
    (hentity : entity ∈ entities) {source : String × String}
    (hsame : placeOf? after (modulePath settings entity) = placeOf? after source.2) :
    ∃ failure, failureOf? after source = some failure := by
  obtain ⟨place, last, -, hplace, -, htext⟩ := hwritten.text hentity
  rw [readText_congr hplace (hsame ▸ hplace)] at htext
  exact ⟨_, failureOf?_module htext⟩

theorem ModulesWritten.checksum_eq (hwritten : ModulesWritten settings files entities after) {a b : Entity}
    (hmem : a ∈ entities) (ha : compare after (Rendering.ofEntity settings a) = .upToDate)
    (hb : compare after (Rendering.ofEntity settings b) = .upToDate)
    (hsame : placeOf? after (modulePath settings a) = placeOf? after (modulePath settings b)) :
    Digest.checksum (moduleCode settings a) = Digest.checksum (moduleCode settings b) := by
  obtain ⟨place, last, -, hplace, -, htext⟩ := hwritten.text hmem
  have htext' := htext
  rw [readText_congr hplace (hsame ▸ hplace)] at htext'
  exact ((compare_text htext).1 ha).trans ((compare_text htext').1 hb).symm

theorem ModulesWritten.upToDate (hwritten : ModulesWritten settings files entities after)
    {sources : List (String × String)} (hapart : Apart settings after entities sources) {entity : Entity}
    (hentity : entity ∈ entities) : compare after (Rendering.ofEntity settings entity) = .upToDate := by
  obtain ⟨place, last, hlast, hplace, hlastPlace, htext⟩ := hwritten.text hentity
  exact (compare_text htext).2 (hapart.modules entity hentity last hlast (hplace.trans hlastPlace.symm))

/-- the check after the run, given what was loaded before it -/
theorem clean_after_iff (hfiles : files.WellFormed) {loaded : Loaded} {old sources : List (String × String)}
    (hwritten : ModulesWritten settings files loaded.entities after)
    (hbefore : discover files settings.inputDir settings.inputSuffix = .ok old)
    (hload : load files settings.inputDir settings.inputSuffix = .ok loaded) (hfailures : loaded.failures = [])
    (hafter : discover after settings.inputDir settings.inputSuffix = .ok sources) :
    ∃ drift, check after settings = .ok drift ∧
      (Clean drift (loaded.entities.map (·.name)) ↔ Apart settings after loaded.entities sources) := by
  have hagain := load_ok.2 ⟨sources, hafter, rfl⟩
  refine ⟨_, check_ok hagain, ?_⟩
  constructor
  · intro hclean
    have hsources : ∀ entity ∈ loaded.entities, ∀ source ∈ sources,
        placeOf? after (modulePath settings entity) ≠ placeOf? after source.2 := by
      intro entity hentity source hsource hsame
      obtain ⟨failure, hfailure⟩ := hwritten.overwritten hentity hsame
      have hmem : failure ∈ sources.filterMap (failureOf? after) := List.mem_filterMap.2 ⟨source, hsource, hfailure⟩
      have hnone : sources.filterMap (failureOf? after) = [] := hclean.failures
      rw [hnone] at hmem
      cases hmem
    -- the same entities are loaded again, and each is up to date
    have hkept := load_kept hfiles hwritten hbefore hafter hsources
    rw [hagain, hload, Except.ok.injEq] at hkept
    rw [hkept, clean_iff] at hclean
    refine ⟨?_, hsources⟩
    intro a ha b hb hsame
    exact hwritten.checksum_eq ha (hclean.2 a ha) (hclean.2 b hb) hsame
  · intro hapart
    have hkept := load_kept hfiles hwritten hbefore hafter hapart.sources
    rw [hagain, hload, Except.ok.injEq] at hkept
    rw [hkept, clean_iff]
    exact ⟨hfailures, fun entity hentity => hwritten.upToDate hapart hentity⟩

/-- **When a check after a run is clean.** After a run in which no entity failed, the check reads the input directory and
finds no failure and every module up to date if and only if modules at one place have one checksum and no module stands
at the place of a source. -/
theorem clean_iff_apart {report : RunReport} (hfiles : files.WellFormed)
    (h : generate files settings = .ok (after, report)) (hfatal : report.hasFatal = false) :
    ∃ loaded sources drift, load files settings.inputDir settings.inputSuffix = .ok loaded ∧
      discover after settings.inputDir settings.inputSuffix = .ok sources ∧ check after settings = .ok drift ∧
      (Clean drift (report.entities.map (·.entity)) ↔ Apart settings after loaded.entities sources) := by
  cases hload : load files settings.inputDir settings.inputSuffix with
  | error failure =>
    rw [generate, hload] at h
    cases h
  | ok loaded =>
    rw [generate_ok hload, Except.ok.injEq, Prod.mk.injEq] at h
    obtain ⟨rfl, rfl⟩ := h
    obtain ⟨hfailures, hentities⟩ := hasFatal_eq_false.1 hfatal
    have hwritten := writeModules_ok hfiles hentities
    obtain ⟨old, hbefore, -⟩ := load_ok.1 hload
    obtain ⟨place, before, hdir⟩ := directory_of_discover hbefore
    obtain ⟨children, hdir'⟩ := hwritten.inputDir hdir
    have hafter := discover_ok hdir' settings.inputSuffix
    obtain ⟨drift, hcheck, hiff⟩ := clean_after_iff hfiles hwritten hbefore hload hfailures hafter
    refine ⟨loaded, _, drift, rfl, hafter, hcheck, ?_⟩
    rw [writeModules_entities]
    exact hiff

end AfterRun

/-! ## Names that differ in case alone -/

def plainBooks : Entity := ⟨"Books", []⟩

def datedBooks : Entity := ⟨"books", [("due", .leaf {} .date)]⟩

def plainText : String := "\x7b\"type\":\"object\",\"shape\":\x7b\x7d\x7d"

def datedText : String := "\x7b\"type\":\"object\",\"shape\":\x7b\"due\":\x7b\"type\":\"date\"\x7d\x7d\x7d"

def twinFiles : List (String × Entry) :=
  [("Books.zod.json", .file plainText.toUTF8), ("books.zod.json", .file datedText.toUTF8)]

/-- a directory with definitions of `Books` and `books` -/
def twins : FileTree := { root := .directory [("schema", .directory twinFiles)] }

def defaults : Settings := {}

theorem twins_wellFormed : twins.WellFormed := by
  have hproper : ∀ name ∈ ["schema", "Books.zod.json", "books.zod.json"], ProperName name := by decide
  refine ⟨?_, rfl⟩
  simp [twins, twinFiles, Entry.WellFormed, WellFormedChildren, hproper]

theorem locate_schema (children : List (String × Entry)) :
    FileTree.locate { root := .directory [("schema", .directory children)] } "schema"
      = .ok ⟨["schema"], some (.directory children)⟩ := by
  have hnames : Path.names "schema" = ["schema"] := by decide
  rw [FileTree.locate_ok, hnames]
  refine ⟨by decide, by decide, rfl, ?_⟩
  rintro ⟨bytes, hbytes⟩
  cases hbytes

theorem twins_directory : twins.locate "schema" = .ok ⟨["schema"], some (.directory twinFiles)⟩ := locate_schema twinFiles

/-- a definition without fields -/
theorem loadFile_plain {files : FileTree} {entity path : String} (htext : files.readText path = .ok plainText) :
    loadFile files entity path = .ok ⟨entity, []⟩ := by
  have hjson : Json.read? plainText = some (.object [("type", .string "object"), ("shape", .object [])]) := by cbv
  exact loadFile_ok htext hjson rfl

theorem plainBooks_loads : loadFile twins "Books" "schema/Books.zod.json" = .ok plainBooks :=
  loadFile_plain (@readText_join _ twins_wellFormed _ _ _ twins_directory "Books.zod.json" plainText rfl)

theorem datedBooks_loads : loadFile twins "books" "schema/books.zod.json" = .ok datedBooks := by
  have htext : twins.readText "schema/books.zod.json" = .ok datedText :=
    @readText_join _ twins_wellFormed _ _ _ twins_directory "books.zod.json" datedText rfl
  have hjson : Json.read? datedText = some (.object [("type", .string "object"),
      ("shape", .object [("due", .object [("type", .string "date")])])]) := by cbv
  exact loadFile_ok htext hjson rfl

theorem twins_load :
    load twins defaults.inputDir defaults.inputSuffix = .ok ⟨[plainBooks, datedBooks], []⟩ := by
  show load twins "schema" ".zod.json" = _
  rw [load_ok]
  refine ⟨[("Books", "schema/Books.zod.json"), ("books", "schema/books.zod.json")], ?_, ?_⟩
  · rw [discover_ok twins_directory, sourceNames, List.mergeSort_of_pairwise (by decide)]
    rfl
  · simp [entityOfSource?, failureOf?, plainBooks_loads, datedBooks_loads, Except.toOption]

theorem twins_written :
    (writeModules defaults twins [plainBooks, datedBooks]).2.all (fun report => !report.isFailed) = true := by
  decide +kernel

theorem twins_checksums :
    Digest.checksum (moduleCode defaults plainBooks) ≠ Digest.checksum (moduleCode defaults datedBooks) := by
  decide +kernel

/-- **A module is lost in a run without failure.** The modules of `Books` and `books` have one path; both are reported as
written, and the check right after the run is not clean. -/
theorem twins_overwritten :
    twins.WellFormed ∧ ∃ after report, generate twins defaults = .ok (after, report) ∧ report.hasFatal = false ∧
      ∃ drift, check after defaults = .ok drift ∧ ¬Clean drift (report.entities.map (·.entity)) := by
  obtain ⟨after, report, hgenerate, hfatal⟩ := generate_of_written twins_load twins_written
  obtain ⟨loaded, sources, drift, hload, -, hcheck, hiff⟩ := clean_iff_apart twins_wellFormed hgenerate hfatal
  refine ⟨twins_wellFormed, after, report, hgenerate, hfatal, drift, hcheck, ?_⟩
  rw [hiff]
  intro hapart
  have hentities : loaded.entities = [plainBooks, datedBooks] := by
    have hsame := hload.symm.trans twins_load
    rw [Except.ok.injEq] at hsame
    rw [hsame]
  have hpath : modulePath defaults plainBooks = modulePath defaults datedBooks := by decide +kernel
  refine twins_checksums (hapart.modules plainBooks ?_ datedBooks ?_ (by rw [hpath]))
  · rw [hentities]
    exact List.mem_cons_self
  · rw [hentities]
    exact List.mem_cons_of_mem _ List.mem_cons_self

end DocumentModels.Batch
