/-
Runs over modules that are there, and over modules that are up to date.

- `writeModule_of_locate`: a module whose path leads to a file is written over it, and nothing else changes.
- `writeModules_current`: modules that hold their text are written without a change to the tree.
- `current_of_compare`: a module that the check finds up to date holds its text, as long as its checksum tells it.
- `generate_of_no_drift`: when a check finds no drift, a run leaves the tree as it is and reports what the check read.
-/
import Mathlib.Tactic
import DocumentModels.Proofs.Batch.Drift
import DocumentModels.Proofs.Files.Overwrite

namespace DocumentModels.Batch

open Files Entry

/-! ## Writing over modules -/

section Current

variable {settings : Settings} {files : FileTree}

/-- **A module is written over the file at its path.** -/
theorem writeModule_of_locate {rendering : Rendering} {place : List String} {old : ByteArray}
    (h : files.locate rendering.path = .ok ⟨place, some (.file old)⟩) :
    writeModule files rendering
      = (files.overwrite place rendering.code.toUTF8, .written rendering.path rendering.checksum) := by
  rw [writeModule, FileTree.makeParents_of_locate h]
  simp only [FileTree.write_of_locate h]

/-- one module written over a file, then the others -/
theorem writeModules_of_locate {entity : Entity} {place : List String} {old : ByteArray}
    (h : files.locate (modulePath settings entity) = .ok ⟨place, some (.file old)⟩) (rest : List Entity) :
    writeModules settings files (entity :: rest)
      = ((writeModules settings (files.overwrite place (moduleCode settings entity).toUTF8) rest).1,
        reportOf settings entity ::
          (writeModules settings (files.overwrite place (moduleCode settings entity).toUTF8) rest).2) := by
  rw [writeModules_cons, writeModule_of_locate h]
  rfl

/-- **Modules that hold their text are written without a change.** -/
theorem writeModules_current {entities : List Entity}
    (h : ∀ entity ∈ entities, files.read (modulePath settings entity) = .ok (moduleCode settings entity).toUTF8) :
    writeModules settings files entities = (files, entities.map (reportOf settings)) := by
  induction entities with
  | nil => rfl
  | cons entity rest ih =>
    obtain ⟨place, hlocate⟩ := FileTree.read_ok.1 (h entity List.mem_cons_self)
    have hrest := ih fun other hother => h other (List.mem_cons_of_mem _ hother)
    rw [writeModules_of_locate hlocate, FileTree.overwrite_self hlocate, hrest]
    rfl

/-! ## Checks without drift -/

/-- the checksum of a module tells it from the text at its path -/
def ChecksumsTell (settings : Settings) (files : FileTree) (entities : List Entity) : Prop :=
  ∀ entity ∈ entities, ∀ text, files.readText (modulePath settings entity) = .ok text →
    Digest.checksum (moduleCode settings entity) = Digest.checksum text → text = moduleCode settings entity

theorem text_of_compare {entity : Entity} (h : compare files (Rendering.ofEntity settings entity) = .upToDate) :
    ∃ text, files.readText (modulePath settings entity) = .ok text ∧
      Digest.checksum (moduleCode settings entity) = Digest.checksum text := by
  cases htext : files.readText (modulePath settings entity) with
  | error e =>
    unfold modulePath at htext
    rw [compare, htext] at h
    cases h
  | ok text => exact ⟨text, rfl, (compare_text htext).1 h⟩

theorem current_of_compare {entities : List Entity} (htell : ChecksumsTell settings files entities) {entity : Entity}
    (hentity : entity ∈ entities) (h : compare files (Rendering.ofEntity settings entity) = .upToDate) :
    files.read (modulePath settings entity) = .ok (moduleCode settings entity).toUTF8 := by
  obtain ⟨text, htext, hsum⟩ := text_of_compare h
  rw [FileTree.read_of_readText htext, htell entity hentity text htext hsum]

theorem hasDrift_eq_false {failures : List LoadFailure} {entities : List Entity} :
    DriftReport.hasDrift ⟨failures, entities.map (entryOf files settings)⟩ = false
      ↔ ∀ entity ∈ entities, compare files (Rendering.ofEntity settings entity) = .upToDate := by
  rw [DriftReport.hasDrift, List.any_map, List.any_eq_false]
  simp [DriftEntry.isDrifted, entryOf_status]

/-- a report that the module of an entity was written, with the checksum of the bytes that are there -/
structure Confirms (settings : Settings) (files : FileTree) (entity : Entity) (report : EntityReport) : Prop where
  name : report.entity = entity.name
  outcome : ∃ bytes, files.read (modulePath settings entity) = .ok bytes ∧
    report.outcome = .written (modulePath settings entity) (Digest.sha256 bytes.toList)

theorem confirms_of_current {entity : Entity}
    (h : files.read (modulePath settings entity) = .ok (moduleCode settings entity).toUTF8) :
    Confirms settings files entity (reportOf settings entity) := by
  refine ⟨?_, (moduleCode settings entity).toUTF8, h, ?_⟩
  · rw [reportOf]
  · rw [reportOf, Digest.checksum]

/-- **Without drift, a run changes nothing.** When the check finds every module up to date, and checksums tell the modules
from the texts at their paths, a run leaves the whole tree as it is. It reports the same failures to load, and the module
of every entity that loads as written, with the checksum of the bytes that were there. -/
theorem generate_of_no_drift {drift : DriftReport} (h : check files settings = .ok drift) (hdrift : drift.hasDrift = false)
    (htell : ∀ loaded, load files settings.inputDir settings.inputSuffix = .ok loaded →
      ChecksumsTell settings files loaded.entities) :
    ∃ loaded report, load files settings.inputDir settings.inputSuffix = .ok loaded ∧
      generate files settings = .ok (files, report) ∧ report.failures = drift.failures ∧
      List.Forall₂ (Confirms settings files) loaded.entities report.entities := by
  cases hload : load files settings.inputDir settings.inputSuffix with
  | error failure =>
    rw [check, hload] at h
    cases h
  | ok loaded =>
    rw [check_ok hload, Except.ok.injEq] at h
    subst h
    rw [hasDrift_eq_false] at hdrift
    have hcurrent : ∀ entity ∈ loaded.entities,
        files.read (modulePath settings entity) = .ok (moduleCode settings entity).toUTF8 :=
      fun entity hentity => current_of_compare (htell loaded hload) hentity (hdrift entity hentity)
    refine ⟨loaded, ⟨loaded.failures, loaded.entities.map (reportOf settings)⟩, rfl, ?_, rfl, ?_⟩
    · rw [generate_ok hload, writeModules_current hcurrent]
    · rw [List.forall₂_map_right_iff, List.forall₂_same]
      intro entity hentity
      exact confirms_of_current (hcurrent entity hentity)

end Current

/-! ## One module for two definitions, beside them -/

def plainSchools : Entity := ⟨"écoles", []⟩

/-- the name in upper case; its module has the path and the text of the other one -/
def upperSchools : Entity := ⟨"Écoles", []⟩

/-- modules are written into the directory of the definitions -/
def beside : Settings := { outputDir := "schema" }

def schoolText : String := moduleCode beside plainSchools

def schoolFiles : List (String × Entry) :=
  [("Écoles.zod.json", .file plainText.toUTF8), ("écoles.generated.js", .file schoolText.toUTF8),
    ("écoles.zod.json", .file plainText.toUTF8)]

/-- a directory with two definitions and their module -/
def schools : FileTree := { root := .directory [("schema", .directory schoolFiles)] }

theorem schools_code : ∀ entity ∈ [upperSchools, plainSchools], moduleCode beside entity = schoolText := by
  rw [List.forall_mem_cons, List.forall_mem_singleton]
  have hupper : moduleCode beside upperSchools = schoolText := by decide +kernel
  exact ⟨hupper, rfl⟩

theorem schools_path : ∀ entity ∈ [upperSchools, plainSchools],
    modulePath beside entity = "schema/écoles.generated.js" := by
  rw [List.forall_mem_cons, List.forall_mem_singleton]
  have hupper : modulePath beside upperSchools = "schema/écoles.generated.js" := by decide +kernel
  have hplain : modulePath beside plainSchools = "schema/écoles.generated.js" := by decide +kernel
  exact ⟨hupper, hplain⟩

theorem schools_wellFormed : schools.WellFormed := by
  have hproper : ∀ name ∈ ["schema", "Écoles.zod.json", "écoles.generated.js", "écoles.zod.json"], ProperName name := by decide
  refine ⟨?_, rfl⟩
  simp [schools, schoolFiles, Entry.WellFormed, WellFormedChildren, hproper]

theorem schools_directory : schools.locate "schema" = .ok ⟨["schema"], some (.directory schoolFiles)⟩ :=
  locate_schema schoolFiles

theorem schools_module : schools.readText "schema/écoles.generated.js" = .ok schoolText :=
  @readText_join _ schools_wellFormed _ _ _ schools_directory "écoles.generated.js" schoolText rfl

theorem schools_load :
    load schools beside.inputDir beside.inputSuffix = .ok ⟨[upperSchools, plainSchools], []⟩ := by
  have hupper : loadFile schools "Écoles" "schema/Écoles.zod.json" = .ok upperSchools :=
    loadFile_plain (@readText_join _ schools_wellFormed _ _ _ schools_directory "Écoles.zod.json" plainText rfl)
  have hplain : loadFile schools "écoles" "schema/écoles.zod.json" = .ok plainSchools :=
    loadFile_plain (@readText_join _ schools_wellFormed _ _ _ schools_directory "écoles.zod.json" plainText rfl)
  show load schools "schema" ".zod.json" = _
  rw [load_ok]
  refine ⟨[("Écoles", "schema/Écoles.zod.json"), ("écoles", "schema/écoles.zod.json")], ?_, ?_⟩
  · rw [discover_ok schools_directory, sourceNames, List.mergeSort_of_pairwise (by decide)]
    rfl
  · simp [entityOfSource?, failureOf?, hupper, hplain, Except.toOption]

/-- both entities are up to date by one file, and a run writes it twice without a change -/
theorem schools_unchanged :
    ∃ drift, check schools beside = .ok drift ∧ drift.hasDrift = false ∧
      ∃ report, generate schools beside = .ok (schools, report) ∧
        List.Forall₂ (Confirms beside schools) [upperSchools, plainSchools] report.entities := by
  have hmodule : ∀ entity ∈ [upperSchools, plainSchools],
      schools.readText (modulePath beside entity) = .ok (moduleCode beside entity) := by
    intro entity hentity
    rw [schools_path entity hentity, schools_code entity hentity, schools_module]
  have hcheck : check schools beside = .ok ⟨[], [upperSchools, plainSchools].map (entryOf schools beside)⟩ :=
    check_ok schools_load
  have hdrift : DriftReport.hasDrift ⟨[], [upperSchools, plainSchools].map (entryOf schools beside)⟩ = false := by
    rw [hasDrift_eq_false]
    intro entity hentity
    rw [compare_text (hmodule entity hentity)]
  have hloaded : ∀ loaded, load schools beside.inputDir beside.inputSuffix = .ok loaded →
      loaded = ⟨[upperSchools, plainSchools], []⟩ := by
    intro loaded hload
    rw [schools_load, Except.ok.injEq] at hload
    exact hload.symm
  have htell : ∀ loaded, load schools beside.inputDir beside.inputSuffix = .ok loaded →
      ChecksumsTell beside schools loaded.entities := by
    intro loaded hload entity hentity text htext _
    rw [hloaded loaded hload] at hentity
    rw [hmodule entity hentity, Except.ok.injEq] at htext
    exact htext.symm
  obtain ⟨loaded, report, hload, hgenerate, -, hconfirms⟩ := generate_of_no_drift hcheck hdrift htell
  rw [hloaded loaded hload] at hconfirms
  exact ⟨_, hcheck, hdrift, report, hgenerate, hconfirms⟩

end DocumentModels.Batch
