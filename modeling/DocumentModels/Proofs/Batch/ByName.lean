/-
An entity rendered by its name, and the runs over all definition files.

- `writeRenderings`, `entryOfRendering`: what a run and a check do with entities that are rendered already.
- `isFile_inputPath_iff`: the path that is put together from a name leads to a file just if discovery lists the name.
  Discovery goes the other way: it reads the input directory and takes the suffix off the names in it. There is one
  exception: where the path of the input directory is empty, discovery finds no directory, and the name is looked up in
  the current one.
- `ofName_source`: a listed entity is rendered from the file that the runs load.
- `byName_source`: so a run and a check use what rendering by name gives, and record the failures of that.
- `rendered_by_name`: both together.
- `unlisted_rendered`: the exception.
-/
import Mathlib.Tactic
import DocumentModels.Proofs.Batch.Accounting

namespace DocumentModels.Batch

open Files Entry

/-! ## Runs over rendered entities -/

/-- write rendered modules, one after the other -/
def writeRenderings : FileTree → List Rendering → FileTree × List EntityReport
  | files, [] => (files, [])
  | files, rendering :: rest =>
    let (next, outcome) := writeModule files rendering
    let (final, reports) := writeRenderings next rest
    (final, ⟨rendering.entity, outcome, rendering.translation.diagnostics⟩ :: reports)

def entryOfRendering (files : FileTree) (rendering : Rendering) : DriftEntry :=
  ⟨rendering.entity, rendering.path, compare files rendering⟩

theorem writeRenderings_cons (files : FileTree) (rendering : Rendering) (rest : List Rendering) :
    writeRenderings files (rendering :: rest)
      = ((writeRenderings (writeModule files rendering).1 rest).1,
        ⟨rendering.entity, (writeModule files rendering).2, rendering.translation.diagnostics⟩ ::
          (writeRenderings (writeModule files rendering).1 rest).2) := by
  rw [writeRenderings]

theorem ofEntity_entity (settings : Settings) (entity : Entity) :
    (Rendering.ofEntity settings entity).entity = entity.name := rfl

theorem writeModules_eq (settings : Settings) (files : FileTree) (entities : List Entity) :
    writeModules settings files entities = writeRenderings files (entities.map (Rendering.ofEntity settings)) := by
  induction entities generalizing files with
  | nil => rfl
  | cons entity rest ih =>
    rw [writeModules_cons, List.map_cons, writeRenderings_cons, ih, ofEntity_entity]

/-! ## The path of a name -/

/-- discovery lists the entity, at some path -/
def Listed (files : FileTree) (settings : Settings) (entity : String) : Prop :=
  ∃ sources path, discover files settings.inputDir settings.inputSuffix = .ok sources ∧ (entity, path) ∈ sources

/-- there is no path to an input directory, and a file in the current directory has the name of the entity's definition -/
def Astray (files : FileTree) (settings : Settings) (entity : String) : Prop :=
  settings.inputDir = "" ∧ files.isFile (entity ++ settings.inputSuffix) = true

theorem isFile_iff {files : FileTree} {path : String} :
    files.isFile path = true ↔ ∃ place bytes, files.locate path = .ok ⟨place, some (.file bytes)⟩ := by
  rw [FileTree.isFile, FileTree.entry?]
  cases files.locate path with
  | error e => simp
  | ok location =>
    obtain ⟨place, entry⟩ := location
    rcases entry with _ | (bytes | children) <;> simp

theorem entityOfName?_append {entity : String} (h : entity ≠ "") (suffix : String) :
    entityOfName? suffix (entity ++ suffix) = some entity := by
  have hsuffix : suffix.toList.isSuffixOf (entity ++ suffix).toList = true := by
    rw [List.isSuffixOf_iff_suffix, String.toList_append]
    exact List.suffix_append _ _
  have hlength : (entity ++ suffix).length - suffix.length = entity.toList.length := by
    rw [String.length_append, String.length_toList]
    omega
  rw [entityOfName?, stripSuffix?, if_pos hsuffix, hlength, String.toList_append, List.take_left, String.ofList_toList]
  simp [h]

section Name

variable {files : FileTree} {settings : Settings} {sources : List (String × String)} {entity : String}

/-- an empty path leads to no directory -/
theorem not_listed_of_empty (h : settings.inputDir = "") : ¬ Listed files settings entity := by
  rintro ⟨sources, path, hsources, -⟩
  obtain ⟨place, children, hdir⟩ := directory_of_discover hsources
  exact (FileTree.locate_ok.1 hdir).2.1 h

/-- the path of a source is the one that is put together from the name of its entity -/
theorem inputPath_source (hfiles : files.WellFormed)
    (h : discover files settings.inputDir settings.inputSuffix = .ok sources) {source : String × String}
    (hsource : source ∈ sources) : settings.inputPath source.1 = source.2 := by
  obtain ⟨place, children, hdir⟩ := directory_of_discover h
  obtain ⟨name, -, hname, hpath, -⟩ := (mem_discover hfiles hdir h).1 hsource
  rw [Settings.inputPath, hpath, eq_of_entityOfName? hname]

theorem isFile_listed (hfiles : files.WellFormed) (h : Listed files settings entity) :
    files.isFile (settings.inputPath entity) = true := by
  obtain ⟨sources, path, hsources, hmem⟩ := h
  obtain ⟨place, children, hdir⟩ := directory_of_discover hsources
  obtain ⟨bytes, hlocate⟩ := locate_source hfiles hdir hsources hmem
  rw [inputPath_source hfiles hsources hmem, isFile_iff]
  exact ⟨_, bytes, hlocate⟩

/-- a file that the path of a name leads to is listed, where there is a path to the input directory -/
theorem listed_of_isFile (hfiles : files.WellFormed) (hdirectory : settings.inputDir ≠ "") (hentity : entity ≠ "")
    (hslash : '/' ∉ entity.toList) (hsuffix : '/' ∉ settings.inputSuffix.toList)
    (h : files.isFile (settings.inputPath entity) = true) : Listed files settings entity := by
  obtain ⟨place, bytes, hlocate⟩ := isFile_iff.1 h
  have hname : entity ++ settings.inputSuffix ≠ "" := by simp [hentity]
  have hnoSlash : '/' ∉ (entity ++ settings.inputSuffix).toList := by simp [hslash, hsuffix]
  obtain ⟨outer, children, hdir, -, hlookup⟩ := FileTree.locate_of_join hdirectory hname hnoSlash hlocate
  refine ⟨_, settings.inputPath entity, discover_ok hdir _, ?_⟩
  rw [mem_discover hfiles hdir (discover_ok hdir _)]
  exact ⟨_, bytes, entityOfName?_append hentity _, rfl, hlookup⟩

/-- **The path of a name leads to a file just if discovery lists the name,** or reads no directory at all. -/
theorem isFile_inputPath_iff (hfiles : files.WellFormed) (hentity : entity ≠ "") (hslash : '/' ∉ entity.toList)
    (hsuffix : '/' ∉ settings.inputSuffix.toList) :
    files.isFile (settings.inputPath entity) = true ↔ Listed files settings entity ∨ Astray files settings entity := by
  by_cases hdirectory : settings.inputDir = ""
  · have hnoSlash : '/' ∉ (entity ++ settings.inputSuffix).toList := by simp [hslash, hsuffix]
    have hpath : settings.inputPath entity = entity ++ settings.inputSuffix := by
      rw [Settings.inputPath, Path.join, Path.isAbsolute_of_noSlash hnoSlash, hdirectory]
      simp
    simp [hpath, Astray, hdirectory, not_listed_of_empty hdirectory]
  · simp only [Astray, hdirectory, false_and, or_false]
    exact ⟨listed_of_isFile hfiles hdirectory hentity hslash hsuffix, isFile_listed hfiles⟩

/-! ## Rendering by name -/

theorem ofName_of_isFile (h : files.isFile (settings.inputPath entity) = true) :
    Rendering.ofName files settings entity
      = (loadFile files entity (settings.inputPath entity)).map (Rendering.ofEntity settings) := by
  rw [Rendering.ofName]
  simp only [h, if_true]
  cases loadFile files entity (settings.inputPath entity) <;> rfl

theorem ofName_of_noFile (h : files.isFile (settings.inputPath entity) = false) :
    Rendering.ofName files settings entity = .error (.entityNotFound entity) := by
  rw [Rendering.ofName]
  simp only [h]
  rfl

/-- a file that is there is found, whatever else is wrong with it -/
theorem loadFile_found (files : FileTree) (entity path other : String) :
    loadFile files entity path ≠ .error (.entityNotFound other) := by
  intro h
  obtain ⟨cause, hfails⟩ | ⟨what, cause, hfails⟩ | ⟨-, loaded, -, hloads⟩ := loadFile_cases files entity path
  · rw [hfails] at h
    cases h
  · rw [hfails] at h
    cases h
  · rw [hloads] at h
    cases h

/-- **Rendering by name says that there is no such entity just if the path of the name leads to no file.** -/
theorem ofName_notFound_iff :
    Rendering.ofName files settings entity = .error (.entityNotFound entity)
      ↔ files.isFile (settings.inputPath entity) = false := by
  constructor
  · intro h
    rw [Bool.eq_false_iff]
    intro hfile
    rw [ofName_of_isFile hfile] at h
    cases hload : loadFile files entity (settings.inputPath entity) with
    | ok loaded =>
      rw [hload] at h
      cases h
    | error failure =>
      rw [hload, Except.map, Except.error.injEq] at h
      exact loadFile_found _ _ _ _ (h ▸ hload)
  · exact ofName_of_noFile

/-- **A listed entity is rendered from the file that the runs load.** -/
theorem ofName_source (hfiles : files.WellFormed)
    (h : discover files settings.inputDir settings.inputSuffix = .ok sources) {source : String × String}
    (hsource : source ∈ sources) :
    Rendering.ofName files settings source.1
      = (loadFile files source.1 source.2).map (Rendering.ofEntity settings) := by
  rw [ofName_of_isFile (isFile_listed hfiles ⟨sources, source.2, h, hsource⟩), inputPath_source hfiles h hsource]

end Name

/-! ## Runs and names -/

/-- the sources of a run rendered by name, as far as that succeeds -/
def namedRenderings (files : FileTree) (settings : Settings) (sources : List (String × String)) : List Rendering :=
  sources.filterMap fun source => (Rendering.ofName files settings source.1).toOption

def failureFrom? (source : String × String) : Except Failure Rendering → Option LoadFailure
  | .ok _ => none
  | .error failure => some ⟨source.1, source.2, failure⟩

/-- the failures of the sources of a run to be rendered by name -/
def namedFailures (files : FileTree) (settings : Settings) (sources : List (String × String)) : List LoadFailure :=
  sources.filterMap fun source => failureFrom? source (Rendering.ofName files settings source.1)

/-- what rendering the sources of a run by name has to do with the run and the check -/
structure ByName (files : FileTree) (settings : Settings) (sources : List (String × String)) : Prop where
  /-- a run writes the renderings, and records the failures -/
  generate : Batch.generate files settings = .ok ((writeRenderings files (namedRenderings files settings sources)).1,
    ⟨namedFailures files settings sources, (writeRenderings files (namedRenderings files settings sources)).2⟩)
  /-- a check compares the renderings, and records the failures -/
  check : Batch.check files settings = .ok
    ⟨namedFailures files settings sources, (namedRenderings files settings sources).map (entryOfRendering files)⟩
  /-- an entity that renders by its name has this one rendering -/
  rendered : ∀ source ∈ sources, ∀ rendering, Rendering.ofName files settings source.1 = .ok rendering ↔
    rendering ∈ namedRenderings files settings sources ∧ rendering.entity = source.1
  /-- an entity that does not has this one failure -/
  failed : ∀ source ∈ sources, ∀ failure, Rendering.ofName files settings source.1 = .error failure ↔
    ⟨source.1, source.2, failure⟩ ∈ namedFailures files settings sources

section Run

variable {files : FileTree} {settings : Settings} {sources : List (String × String)}

theorem renderings_source (hfiles : files.WellFormed)
    (h : discover files settings.inputDir settings.inputSuffix = .ok sources) :
    (sources.filterMap (entityOfSource? files)).map (Rendering.ofEntity settings)
      = namedRenderings files settings sources := by
  rw [List.map_filterMap]
  refine List.filterMap_congr ?_
  intro source hsource
  rw [ofName_source hfiles h hsource, entityOfSource?]
  cases loadFile files source.1 source.2 <;> rfl

theorem failures_source (hfiles : files.WellFormed)
    (h : discover files settings.inputDir settings.inputSuffix = .ok sources) :
    sources.filterMap (failureOf? files) = namedFailures files settings sources := by
  refine List.filterMap_congr ?_
  intro source hsource
  rw [ofName_source hfiles h hsource, failureOf?]
  cases loadFile files source.1 source.2 <;> rfl

theorem ofName_entity (hfiles : files.WellFormed)
    (h : discover files settings.inputDir settings.inputSuffix = .ok sources) {source : String × String}
    (hsource : source ∈ sources) {rendering : Rendering}
    (hnamed : Rendering.ofName files settings source.1 = .ok rendering) : rendering.entity = source.1 := by
  rw [ofName_source hfiles h hsource] at hnamed
  cases hload : loadFile files source.1 source.2 with
  | error failure =>
    rw [hload] at hnamed
    cases hnamed
  | ok loaded =>
    rw [hload] at hnamed
    cases hnamed
    exact loadFile_name hload

theorem mem_namedRenderings {rendering : Rendering} :
    rendering ∈ namedRenderings files settings sources
      ↔ ∃ source ∈ sources, Rendering.ofName files settings source.1 = .ok rendering := by
  rw [namedRenderings, List.mem_filterMap]
  refine exists_congr fun source => and_congr_right fun _ => ?_
  cases Rendering.ofName files settings source.1 <;> simp [Except.toOption]

theorem mem_namedFailures {item : LoadFailure} :
    item ∈ namedFailures files settings sources
      ↔ ∃ source ∈ sources, ∃ failure, Rendering.ofName files settings source.1 = .error failure ∧
        item = ⟨source.1, source.2, failure⟩ := by
  rw [namedFailures, List.mem_filterMap]
  refine exists_congr fun source => and_congr_right fun _ => ?_
  cases Rendering.ofName files settings source.1 <;> simp [failureFrom?, eq_comm]

/-- **A run and a check use what rendering by name gives.** -/
theorem byName_source (hfiles : files.WellFormed)
    (h : discover files settings.inputDir settings.inputSuffix = .ok sources) : ByName files settings sources := by
  have hload := load_ok.2 ⟨sources, h, rfl⟩
  refine ⟨?_, ?_, ?_, ?_⟩
  · rw [generate_ok hload, writeModules_eq, renderings_source hfiles h, failures_source hfiles h]
  · rw [check_ok hload, ← renderings_source hfiles h, failures_source hfiles h, List.map_map]
    rfl
  · intro source hsource rendering
    rw [mem_namedRenderings]
    constructor
    · intro hnamed
      exact ⟨⟨source, hsource, hnamed⟩, ofName_entity hfiles h hsource hnamed⟩
    · rintro ⟨⟨other, hother, hnamed⟩, hentity⟩
      -- the rendering bears the name that it was rendered by
      rwa [← hentity, ofName_entity hfiles h hother hnamed]
  · intro source hsource failure
    rw [mem_namedFailures]
    constructor
    · intro hnamed
      exact ⟨source, hsource, failure, hnamed, rfl⟩
    · rintro ⟨other, -, failure', hnamed, hsame⟩
      simp only [LoadFailure.mk.injEq] at hsame
      obtain ⟨hname, -, rfl⟩ := hsame
      rw [hname]
      exact hnamed

end Run

/-- **An entity rendered by its name is the one that the runs use.** A run writes, and a check compares, what rendering the
sources by name gives: model, indexes, name, path, text and checksum. The failures that they record are those of rendering
by name. Where the suffix has no slash in it, rendering by a name without slash says that there is no such entity just if
discovery does not list it, but for one case: where the path of the input directory is empty, discovery finds no directory,
and a definition in the current directory is rendered all the same. -/
theorem rendered_by_name {files : FileTree} (hfiles : files.WellFormed) (settings : Settings) :
    (∀ sources, discover files settings.inputDir settings.inputSuffix = .ok sources → ByName files settings sources) ∧
      ('/' ∉ settings.inputSuffix.toList → ∀ entity, entity ≠ "" → '/' ∉ entity.toList →
        (Rendering.ofName files settings entity = .error (.entityNotFound entity) ↔
          ¬ Listed files settings entity ∧ ¬ Astray files settings entity)) := by
  refine ⟨fun sources hsources => byName_source hfiles hsources, ?_⟩
  intro hsuffix entity hentity hslash
  rw [ofName_notFound_iff, Bool.eq_false_iff, Ne, isFile_inputPath_iff hfiles hentity hslash hsuffix, not_or]

/-- in a directory with a definition, two files that are none and a directory whose name has the suffix, rendering by name
agrees with the runs, and the name of the directory is no entity -/
theorem mixed_by_name :
    mixed.WellFormed ∧
      ByName mixed defaults [("Books", "schema/Books.zod.json"), ("broken", "schema/broken.zod.json"),
        ("raw", "schema/raw.zod.json")] ∧
      Rendering.ofName mixed defaults "drafts" = .error (.entityNotFound "drafts") := by
  obtain ⟨hagree, hnames⟩ := rendered_by_name mixed_wellFormed defaults
  refine ⟨mixed_wellFormed, hagree _ mixed_sources, (hnames (by decide) "drafts" (by decide) (by decide)).2 ⟨?_, ?_⟩⟩
  · rintro ⟨sources, path, hsources, hmem⟩
    rw [show discover mixed defaults.inputDir defaults.inputSuffix = discover mixed "schema" ".zod.json" from rfl,
      mixed_sources, Except.ok.injEq] at hsources
    subst hsources
    simp at hmem
  · rintro ⟨hdirectory, -⟩
    exact absurd hdirectory (by decide)

/-! ## Without a path to the input directory -/

/-- a definition in the current directory -/
def loose : FileTree := { root := .directory [("books.zod.json", .file plainText.toUTF8)] }

theorem loose_locate : loose.locate "books.zod.json" = .ok ⟨["books.zod.json"], some (.file plainText.toUTF8)⟩ := by
  have hnames : Path.names "books.zod.json" = ["books.zod.json"] := by decide
  rw [FileTree.locate_ok, hnames]
  exact ⟨by decide, by decide, rfl, fun _ => by decide⟩

/-- **An entity that discovery does not list is rendered.** The path of the input directory is empty: discovery, and with it
every run, fails, while the definition in the current directory is found by name. -/
theorem unlisted_rendered :
    discover loose "" ".zod.json" = .error (.load "" .noDirectory) ∧
      ¬ Listed loose { inputDir := "" } "books" ∧
      ∃ rendering, Rendering.ofName loose { inputDir := "" } "books" = .ok rendering := by
  have hfile : loose.isFile (Settings.inputPath { inputDir := "" } "books") = true :=
    isFile_iff.2 ⟨_, _, loose_locate⟩
  have htext : loose.readText "books.zod.json" = .ok plainText := by
    rw [FileTree.readText_eq loose_locate, FileTree.fromUTF8?_toUTF8]
    rfl
  refine ⟨rfl, not_listed_of_empty rfl, Rendering.ofEntity { inputDir := "" } ⟨"books", []⟩, ?_⟩
  rw [ofName_of_isFile hfile]
  exact congrArg (Except.map _) (loadFile_plain htext)

end DocumentModels.Batch
