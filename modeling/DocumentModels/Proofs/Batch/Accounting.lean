/-
Every definition file is accounted for, once.

- `Accounts`: what the failures and the entities of a report have to say about the sources of a run.
- `accounts_load`: one pass over the sources accounts for all of them.
- `RunReport.accounts`: so does a report on what was loaded, and its counts tell how many failed.
- `generate_accounts`, `build_accounts`, `check_accounts`: each kind of run accounts for the sources in its report.
- `every_source_accounted`: the three together, and that the bytes of one file matter to its own entity alone.
- `mixed_accounted`: a directory with a definition, two files that are none, and entries that are no definition files.
-/
import Mathlib.Tactic
import DocumentModels.Proofs.Batch.Drift
import DocumentModels.Proofs.Batch.Isolation

namespace DocumentModels.Batch

open Files Entry

/-! ## Sources that load, and sources that fail -/

def loads (files : FileTree) (source : String × String) : Bool := (loadFile files source.1 source.2).isOk

theorem names_entities (files : FileTree) (sources : List (String × String)) :
    (sources.filterMap (entityOfSource? files)).map (·.name) = (sources.filter (loads files)).map Prod.fst := by
  induction sources with
  | nil => rfl
  | cons source sources ih =>
    rw [List.filterMap_cons, List.filter_cons, entityOfSource?, loads]
    cases hload : loadFile files source.1 source.2 with
    | error failure => exact ih
    | ok entity => exact congrArg₂ List.cons (loadFile_name hload) ih

theorem names_failures (files : FileTree) (sources : List (String × String)) :
    (sources.filterMap (failureOf? files)).map (·.entity)
      = (sources.filter fun source => !loads files source).map Prod.fst := by
  induction sources with
  | nil => rfl
  | cons source sources ih =>
    rw [List.filterMap_cons, List.filter_cons, failureOf?, loads]
    cases hload : loadFile files source.1 source.2 with
    | error failure => exact congrArg (List.cons source.1) ih
    | ok entity => exact ih

theorem failureOf?_eq_some {files : FileTree} {source : String × String} {item : LoadFailure} :
    failureOf? files source = some item ↔
      ∃ failure, loadFile files source.1 source.2 = .error failure ∧ item = ⟨source.1, source.2, failure⟩ := by
  rw [failureOf?]
  cases loadFile files source.1 source.2 with
  | ok entity => simp
  | error failure => simp [eq_comm]

/-! ## Accounts -/

/-- what the failures and the entities of a report say about the sources of a run -/
structure Accounts (files : FileTree) (sources : List (String × String)) (failures : List LoadFailure)
    (entities : List String) : Prop where
  /-- every source is there once, and nothing else is -/
  once : (failures.map (·.entity) ++ entities).Perm (sources.map Prod.fst)
  failures_ordered : (failures.map (·.entity)).Sublist (sources.map Prod.fst)
  entities_ordered : entities.Sublist (sources.map Prod.fst)
  failed : ∀ source ∈ sources,
    source.1 ∈ failures.map (·.entity) ↔ ∃ failure, loadFile files source.1 source.2 = .error failure
  reason : ∀ item ∈ failures, (item.entity, item.path) ∈ sources ∧
    ∃ failure, loadFile files item.entity item.path = .error failure ∧ item.reason = failure.message

/-- **One pass accounts for every source.** -/
theorem accounts_load {files : FileTree} {directory suffix : String} {sources : List (String × String)} {loaded : Loaded}
    (hsources : discover files directory suffix = .ok sources) (hload : load files directory suffix = .ok loaded)
    (hnodup : (sources.map Prod.fst).Nodup) :
    Accounts files sources loaded.failures (loaded.entities.map (·.name)) := by
  obtain ⟨sources', hsources', rfl⟩ := load_ok.1 hload
  rw [hsources, Except.ok.injEq] at hsources'
  subst hsources'
  have hmem : ∀ item, item ∈ sources.filterMap (failureOf? files) ↔ ∃ source ∈ sources, ∃ failure,
      loadFile files source.1 source.2 = .error failure ∧ item = ⟨source.1, source.2, failure⟩ := by
    intro item
    simp only [List.mem_filterMap, failureOf?_eq_some]
  refine ⟨?_, ?_, ?_, ?_, ?_⟩
  · rw [names_failures, names_entities, ← List.map_append]
    exact (List.perm_append_comm.trans (List.filter_append_perm (loads files) sources)).map Prod.fst
  · rw [names_failures]
    exact List.filter_sublist.map Prod.fst
  · rw [names_entities]
    exact List.filter_sublist.map Prod.fst
  · intro source hsource
    constructor
    · intro hname
      obtain ⟨item, hitem, hsame⟩ := List.mem_map.1 hname
      obtain ⟨other, hother, failure, hfails, rfl⟩ := (hmem item).1 hitem
      rw [← List.inj_on_of_nodup_map hnodup hother hsource hsame]
      exact ⟨failure, hfails⟩
    · rintro ⟨failure, hfails⟩
      exact List.mem_map.2 ⟨_, (hmem _).2 ⟨source, hsource, failure, hfails, rfl⟩, rfl⟩
  · intro item hitem
    obtain ⟨source, hsource, failure, hfails, rfl⟩ := (hmem item).1 hitem
    exact ⟨hsource, failure, hfails, rfl⟩

namespace RunReport

/-- what a report says about the sources of a run, and its counts about how many failed -/
structure Accounts (files : FileTree) (sources : List (String × String)) (report : RunReport) : Prop
    extends Batch.Accounts files sources report.failures (report.entities.map (·.entity)) where
  total : report.successCount + report.failureCount = sources.length
  fatal : report.hasFatal = true ↔ 0 < report.failureCount

theorem counts_total (report : RunReport) :
    report.successCount + report.failureCount = report.failures.length + report.entities.length := by
  have hsplit : report.entities.length
      = report.entities.countP (·.isFailed) + report.entities.countP fun entity => !entity.isFailed := by
    simpa using List.length_eq_countP_add_countP (l := report.entities) fun entity => entity.isFailed
  rw [successCount, failureCount, hsplit]
  omega

theorem hasFatal_iff (report : RunReport) : report.hasFatal = true ↔ 0 < report.failureCount := by
  rw [hasFatal, failureCount, Bool.or_eq_true, List.any_eq_true, Nat.add_pos_iff_pos_or_pos, List.countP_pos_iff]
  simp [List.length_pos_iff]

/-- **A report on what was loaded accounts for every source.** -/
theorem accounts {files : FileTree} {sources : List (String × String)} {report : RunReport}
    (h : Batch.Accounts files sources report.failures (report.entities.map (·.entity))) :
    report.Accounts files sources := by
  refine ⟨h, ?_, report.hasFatal_iff⟩
  have hlength := h.once.length_eq
  simp only [List.length_append, List.length_map] at hlength
  rw [counts_total, hlength]

end RunReport

/-! ## Runs -/

section Run

variable {files : FileTree} {settings : Settings} {sources : List (String × String)} {loaded : Loaded}

theorem build_ok (h : load files settings.inputDir settings.inputSuffix = .ok loaded) :
    build files settings = .ok ((buildModels settings { timestamps := settings.timestamps } loaded.entities).1,
      ⟨loaded.failures, (buildModels settings { timestamps := settings.timestamps } loaded.entities).2⟩) := by
  rw [build, h]
  simp only [bind, Except.bind, pure, Except.pure]

theorem buildModels_entities (settings : Settings) (registry : Registry) (entities : List Entity) :
    (buildModels settings registry entities).2.map (·.entity) = entities.map (·.name) := by
  induction entities generalizing registry with
  | nil => rfl
  | cons entity rest ih =>
    rw [buildModels]
    exact congrArg (List.cons entity.name) (ih _)

theorem generate_accounts (hload : load files settings.inputDir settings.inputSuffix = .ok loaded)
    (h : Accounts files sources loaded.failures (loaded.entities.map (·.name))) :
    ∃ after report, generate files settings = .ok (after, report) ∧ report.Accounts files sources := by
  refine ⟨_, _, generate_ok hload, RunReport.accounts ?_⟩
  rw [writeModules_entities]
  exact h

theorem build_accounts (hload : load files settings.inputDir settings.inputSuffix = .ok loaded)
    (h : Accounts files sources loaded.failures (loaded.entities.map (·.name))) :
    ∃ registry report, build files settings = .ok (registry, report) ∧ report.Accounts files sources := by
  refine ⟨_, _, build_ok hload, RunReport.accounts ?_⟩
  rw [buildModels_entities]
  exact h

theorem check_accounts (hload : load files settings.inputDir settings.inputSuffix = .ok loaded)
    (h : Accounts files sources loaded.failures (loaded.entities.map (·.name))) :
    ∃ report, check files settings = .ok report ∧
      Accounts files sources report.failures (report.entries.map (·.entity)) := by
  refine ⟨_, check_ok hload, ?_⟩
  rw [List.map_map]
  exact h

end Run

/-- where the input directory exists, its definition files are found -/
theorem discover_of_directory {files : FileTree} {directory : String} (h : files.isDirectory directory = true)
    (suffix : String) : ∃ sources, discover files directory suffix = .ok sources := by
  rw [discover, if_pos h]
  exact ⟨_, rfl⟩

/-- **No definition file is lost or counted twice.** Where the input directory exists, a run that writes modules, one that
builds models and a check each report every discovered entity once, as a failure or by an entry, each part in the order of
discovery. The failures are those whose file does not load, with the reason of that; the counts of a report add up to the
number of sources. When one definition file is written over, whatever with, the same comes of all the others, in the same
order. -/
theorem every_source_accounted {files : FileTree} (hfiles : files.WellFormed) {settings : Settings}
    (hdirectory : files.isDirectory settings.inputDir = true) :
    ∃ sources, discover files settings.inputDir settings.inputSuffix = .ok sources ∧ (sources.map Prod.fst).Nodup ∧
      (∃ after report, generate files settings = .ok (after, report) ∧ report.Accounts files sources) ∧
      (∃ registry report, build files settings = .ok (registry, report) ∧ report.Accounts files sources) ∧
      (∃ report, check files settings = .ok report ∧
        Accounts files sources report.failures (report.entries.map (·.entity))) ∧
      ∃ loaded, load files settings.inputDir settings.inputSuffix = .ok loaded ∧
        ∀ source ∈ sources, ∀ bytes, ∃ next loaded', files.write source.2 bytes = .ok next ∧
          load next settings.inputDir settings.inputSuffix = .ok loaded' ∧
          loaded'.without source.1 = loaded.without source.1 := by
  obtain ⟨sources, hsources⟩ := discover_of_directory hdirectory settings.inputSuffix
  have hnodup := nodup_discover hfiles hsources
  have hload := load_ok.2 ⟨sources, hsources, rfl⟩
  have haccounts := accounts_load hsources hload hnodup
  exact ⟨sources, hsources, hnodup, generate_accounts hload haccounts, build_accounts hload haccounts,
    check_accounts hload haccounts, _, hload,
    fun source hsource bytes => load_write hfiles hsources hload hsource bytes⟩

/-! ## A directory with all kinds of entries -/

def mixedFiles : List (String × Entry) :=
  [(".zod.json", .file plainText.toUTF8), ("Books.zod.json", .file plainText.toUTF8),
    ("broken.zod.json", .file "[".toUTF8), ("drafts.zod.json", .directory []), ("notes.md", .file "notes".toUTF8),
    ("raw.zod.json", .file ⟨#[255]⟩)]

/-- a directory with one definition, a file that is no JSON and one that is no text -/
def mixed : FileTree := { root := .directory [("schema", .directory mixedFiles)] }

theorem mixed_wellFormed : mixed.WellFormed := by
  have hproper : ∀ name ∈ ["schema", ".zod.json", "Books.zod.json", "broken.zod.json", "drafts.zod.json", "notes.md",
      "raw.zod.json"], ProperName name := by decide
  refine ⟨?_, rfl⟩
  simp [mixed, mixedFiles, Entry.WellFormed, WellFormedChildren, hproper]

theorem mixed_directory : mixed.locate "schema" = .ok ⟨["schema"], some (.directory mixedFiles)⟩ := locate_schema mixedFiles

theorem mixed_sources :
    discover mixed "schema" ".zod.json" = .ok [("Books", "schema/Books.zod.json"), ("broken", "schema/broken.zod.json"),
      ("raw", "schema/raw.zod.json")] := by
  rw [discover_ok mixed_directory, sourceNames, List.mergeSort_of_pairwise (by decide)]
  rfl

theorem mixed_raw : mixed.readText "schema/raw.zod.json" = .error .notText := by
  have hlocate : mixed.locate (Path.join "schema" "raw.zod.json") = .ok ⟨["schema"] ++ ["raw.zod.json"], some (.file ⟨#[255]⟩)⟩ :=
    FileTree.locate_join mixed_wellFormed mixed_directory rfl
  have hbytes : String.fromUTF8? ⟨#[255]⟩ = none := by decide
  show mixed.readText (Path.join "schema" "raw.zod.json") = _
  rw [FileTree.readText_eq hlocate, hbytes]
  rfl

/-- **Three definition files, two failures.** In a directory with one definition, one file that is no JSON, one that is no
text and other entries, the report names the three files with the suffix and counts them. -/
theorem mixed_accounted :
    mixed.WellFormed ∧ mixed.isDirectory defaults.inputDir = true ∧
      ∃ after report, generate mixed defaults = .ok (after, report) ∧
        report.successCount + report.failureCount = 3 ∧ report.hasFatal = true ∧
        "Books" ∉ report.failures.map (·.entity) ∧ "broken" ∈ report.failures.map (·.entity) ∧
        "raw" ∈ report.failures.map (·.entity) := by
  have hdirectory : mixed.isDirectory defaults.inputDir = true := by
    show mixed.isDirectory "schema" = true
    rw [FileTree.isDirectory, FileTree.entry?, mixed_directory]
  obtain ⟨sources, hsources, -, ⟨after, report, hgenerate, haccounts⟩, -⟩ :=
    every_source_accounted mixed_wellFormed hdirectory
  have hsame : sources = [("Books", "schema/Books.zod.json"), ("broken", "schema/broken.zod.json"),
      ("raw", "schema/raw.zod.json")] := by
    rw [show discover mixed defaults.inputDir defaults.inputSuffix = discover mixed "schema" ".zod.json" from rfl,
      mixed_sources, Except.ok.injEq] at hsources
    exact hsources.symm
  subst hsame
  have hbooks : loadFile mixed "Books" "schema/Books.zod.json" = .ok ⟨"Books", []⟩ :=
    loadFile_plain (@readText_join _ mixed_wellFormed _ _ _ mixed_directory "Books.zod.json" plainText rfl)
  have hbroken : ∃ failure, loadFile mixed "broken" "schema/broken.zod.json" = .error failure :=
    ⟨_, loadFile_invalid (@readText_join _ mixed_wellFormed _ _ _ mixed_directory "broken.zod.json" "[" rfl) (by decide)⟩
  have hraw : ∃ failure, loadFile mixed "raw" "schema/raw.zod.json" = .error failure :=
    ⟨_, loadFile_unread mixed_raw⟩
  have hfailed := haccounts.failed
  simp only [List.forall_mem_cons] at hfailed
  obtain ⟨hbooks', hbroken', hraw', -⟩ := hfailed
  refine ⟨mixed_wellFormed, hdirectory, after, report, hgenerate, haccounts.total, ?_, ?_, hbroken'.2 hbroken, hraw'.2 hraw⟩
  · rw [haccounts.fatal, RunReport.failureCount]
    obtain ⟨item, hitem, -⟩ := List.mem_map.1 (hraw'.2 hraw)
    exact Nat.add_pos_left (List.length_pos_of_mem hitem) _
  · rw [hbooks', hbooks]
    rintro ⟨failure, ⟨⟩⟩

end DocumentModels.Batch
