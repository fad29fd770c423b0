/-
What a run of writes leaves on the disk.

- `writeModule_ok`: a written module stands at the place that its path leads to; everything elsewhere is kept, but for
  directories that are new.
- `writeModules_first`: a run in which every module was written begins with one such step.
- `writeModules_ok`: after a run in which every module was written, each path still leads to its place, a module that was
  written there last stands at it, and everything elsewhere is kept.
- `generate_ok`, `written_of_generate`: a run loads the sources and writes the modules of what it loaded.
-/
import Mathlib.Tactic
import DocumentModels.Batch.Run
import DocumentModels.Proofs.Batch.Source

namespace DocumentModels.Batch

open Files Entry

def placeOf? (files : FileTree) (path : String) : Option (List String) := (files.locate path).toOption.map (·.place)

theorem placeOf?_ok {files : FileTree} {path : String} {location : Location} (h : files.locate path = .ok location) :
    placeOf? files path = some location.place := by
  rw [placeOf?, h]
  rfl

theorem locate_of_placeOf? {files : FileTree} {path : String} {place : List String}
    (h : placeOf? files path = some place) : files.locate path = .ok ⟨place, files.root.lookup? place⟩ := by
  cases hlocate : files.locate path with
  | error e =>
    rw [placeOf?, hlocate] at h
    cases h
  | ok location =>
    obtain ⟨there, entry⟩ := location
    have hentry := FileTree.locate_entry hlocate
    rw [placeOf?_ok hlocate, Option.some.injEq] at h
    simp only at h hentry
    rw [hentry, h]

theorem readText_congr {files : FileTree} {p q : String} {place : List String} (hp : placeOf? files p = some place)
    (hq : placeOf? files q = some place) : files.readText p = files.readText q := by
  rw [FileTree.readText, FileTree.read, locate_of_placeOf? hp, FileTree.readText, FileTree.read,
    locate_of_placeOf? hq]

/-! ## One module -/

/-- what writing a text to a path does -/
structure Written (before after : FileTree) (path : String) (bytes : ByteArray) (place : List String) : Prop where
  wellFormed : after.WellFormed
  current : after.current = before.current
  grows : Grows before.root after.root
  stands : after.locate path = .ok ⟨place, some (.file bytes)⟩
  elsewhere : ∀ q, q ≠ place → Kept before.root after.root q

theorem writeModule_ok {files : FileTree} (hfiles : files.WellFormed) {rendering : Rendering}
    (h : ∀ failure, (writeModule files rendering).2 ≠ .failed failure) :
    ∃ place, Written files (writeModule files rendering).1 rendering.path rendering.code.toUTF8 place := by
  cases hmade : files.makeParents rendering.path with
  | error e =>
    refine absurd ?_ (h (.write rendering.path e))
    rw [writeModule, hmade]
  | ok made =>
    obtain ⟨hwell, hcurrent, hextends⟩ := FileTree.makeParents_ok hfiles hmade
    cases hnext : made.write rendering.path rendering.code.toUTF8 with
    | error e =>
      refine absurd ?_ (h (.write rendering.path e))
      rw [writeModule, hmade]
      simp only [hnext]
    | ok next =>
      obtain ⟨place, hfree, hchanges, hwell', hcurrent', hstands⟩ := FileTree.write_ok hwell hnext
      have hrun : (writeModule files rendering).1 = next := by
        rw [writeModule, hmade]
        simp only [hnext]
      rw [hrun]
      refine ⟨place, hwell', hcurrent'.trans hcurrent, hextends.grows.trans (hchanges.grows hfree), hstands, ?_⟩
      intro q hq
      have hkept : Kept made.root next.root q := Or.inl (by rw [hchanges q, if_neg hq])
      exact (hextends q).trans hkept

theorem outcome_of_writeModule {files : FileTree} {rendering : Rendering}
    (h : ∀ failure, (writeModule files rendering).2 ≠ .failed failure) :
    (writeModule files rendering).2 = .written rendering.path rendering.checksum := by
  unfold writeModule at h ⊢
  split at h
  · exact absurd rfl (h _)
  · split at h
    · rfl
    · exact absurd rfl (h _)

/-- a written file's path goes on leading to its place, as long as the tree grows -/
theorem Written.later {before after final : FileTree} {path : String} {bytes : ByteArray} {place : List String}
    (h : Written before after path bytes place) (hgrows : Grows after.root final.root)
    (hcurrent : final.current = after.current) :
    final.locate path = .ok ⟨place, final.root.lookup? place⟩ := by
  have hhere : after.root.at? place = some (some bytes) := at?_eq_file.2 (FileTree.locate_entry h.stands).symm
  obtain ⟨bytes', hthere⟩ := hgrows.files place bytes hhere
  refine FileTree.locate_of_dirs hgrows.dirs hcurrent h.stands (by rw [hthere]; rfl) ?_
  intro _
  exact (FileTree.locate_ok.1 h.stands).2.2.2 ⟨bytes, rfl⟩

/-! ## All modules -/

section Run

variable {settings : Settings}

def modulePath (settings : Settings) (entity : Entity) : String := (Rendering.ofEntity settings entity).path

def moduleCode (settings : Settings) (entity : Entity) : String := (Rendering.ofEntity settings entity).code

def reportOf (settings : Settings) (entity : Entity) : EntityReport :=
  ⟨entity.name, .written (modulePath settings entity) (Digest.checksum (moduleCode settings entity)),
    (Rendering.ofEntity settings entity).translation.diagnostics⟩

/-- what writing the modules of entities does -/
structure ModulesWritten (settings : Settings) (before : FileTree) (entities : List Entity) (after : FileTree) :
    Prop where
  wellFormed : after.WellFormed
  current : after.current = before.current
  grows : Grows before.root after.root
  /-- a module that was written to the place of the path stands there -/
  stands : ∀ entity ∈ entities, ∃ place, ∃ last ∈ entities, placeOf? after (modulePath settings last) = some place ∧
    after.locate (modulePath settings entity) = .ok ⟨place, some (.file (moduleCode settings last).toUTF8)⟩
  elsewhere : ∀ q, (∀ entity ∈ entities, placeOf? after (modulePath settings entity) ≠ some q) →
    Kept before.root after.root q

theorem writeModules_cons (files : FileTree) (entity : Entity) (rest : List Entity) :
    writeModules settings files (entity :: rest)
      = ((writeModules settings (writeModule files (Rendering.ofEntity settings entity)).1 rest).1,
        ⟨entity.name, (writeModule files (Rendering.ofEntity settings entity)).2,
          (Rendering.ofEntity settings entity).translation.diagnostics⟩ ::
          (writeModules settings (writeModule files (Rendering.ofEntity settings entity)).1 rest).2) := by
  rw [writeModules]

/-- the first step of a run in which every module was written, and the run that follows -/
theorem writeModules_first {files : FileTree} (hfiles : files.WellFormed) {entity : Entity} {rest : List Entity}
    (h : ∀ report ∈ (writeModules settings files (entity :: rest)).2, report.isFailed = false) :
    ∃ next place, Written files next (modulePath settings entity) (moduleCode settings entity).toUTF8 place ∧
      writeModules settings files (entity :: rest)
        = ((writeModules settings next rest).1, reportOf settings entity :: (writeModules settings next rest).2) ∧
      ∀ report ∈ (writeModules settings next rest).2, report.isFailed = false := by
  rw [writeModules_cons] at h ⊢
  have hfirst : ∀ failure, (writeModule files (Rendering.ofEntity settings entity)).2 ≠ .failed failure := by
    intro failure hfailed
    have hnot := h _ List.mem_cons_self
    rw [EntityReport.isFailed, hfailed] at hnot
    cases hnot
  obtain ⟨place, hwritten⟩ := writeModule_ok hfiles hfirst
  refine ⟨_, place, hwritten, ?_, fun report hreport => h report (List.mem_cons_of_mem _ hreport)⟩
  rw [outcome_of_writeModule hfirst]
  rfl

theorem ModulesWritten.cons {files next final : FileTree} {entity : Entity} {rest : List Entity} {place : List String}
    (hfirst : Written files next (modulePath settings entity) (moduleCode settings entity).toUTF8 place)
    (hrest : ModulesWritten settings next rest final) : ModulesWritten settings files (entity :: rest) final := by
  have hlocate := hfirst.later hrest.grows hrest.current
  have hplace := placeOf?_ok hlocate
  refine ⟨hrest.wellFormed, hrest.current.trans hfirst.current, hfirst.grows.trans hrest.grows, ?_, ?_⟩
  · intro other hother
    rcases List.mem_cons.1 hother with rfl | hother
    · by_cases hover : ∃ later ∈ rest, placeOf? final (modulePath settings later) = some place
      · -- overwritten: what stands at the place is what stands there for the later one
        obtain ⟨later, hlater, hsame⟩ := hover
        obtain ⟨place', last, hlast, hlastPlace, hstands⟩ := hrest.stands later hlater
        rw [placeOf?_ok hstands, Option.some.injEq] at hsame
        subst hsame
        refine ⟨place', last, List.mem_cons_of_mem _ hlast, hlastPlace, ?_⟩
        rw [hlocate, ← FileTree.locate_entry hstands]
      · refine ⟨place, other, List.mem_cons_self, hplace, ?_⟩
        have hkept := hrest.elsewhere place fun later hlater hsame => hover ⟨later, hlater, hsame⟩
        have hhere := at?_eq_file.2 (FileTree.locate_entry hfirst.stands).symm
        rw [hlocate, at?_eq_file.1 ((hkept.file_iff _).2 hhere)]
    · obtain ⟨place', last, hlast, hlastPlace, hstands⟩ := hrest.stands other hother
      exact ⟨place', last, List.mem_cons_of_mem _ hlast, hlastPlace, hstands⟩
  · intro q hq
    have hne : q ≠ place := by
      rintro rfl
      exact hq entity List.mem_cons_self hplace
    have hkept := hrest.elsewhere q fun later hlater => hq later (List.mem_cons_of_mem _ hlater)
    exact (hfirst.elsewhere q hne).trans hkept

theorem ModulesWritten.text {before after : FileTree} {entities : List Entity}
    (h : ModulesWritten settings before entities after) {entity : Entity} (hentity : entity ∈ entities) :
    ∃ place, ∃ last ∈ entities, placeOf? after (modulePath settings entity) = some place ∧
      placeOf? after (modulePath settings last) = some place ∧
      after.readText (modulePath settings entity) = .ok (moduleCode settings last) := by
  obtain ⟨place, last, hlast, hplace, hstands⟩ := h.stands entity hentity
  refine ⟨place, last, hlast, placeOf?_ok hstands, hplace, ?_⟩
  rw [FileTree.readText_eq hstands, FileTree.fromUTF8?_toUTF8]
  rfl

/-- **What a run of writes leaves.** -/
theorem writeModules_ok {files : FileTree} (hfiles : files.WellFormed) {entities : List Entity}
    (h : ∀ report ∈ (writeModules settings files entities).2, report.isFailed = false) :
    ModulesWritten settings files entities (writeModules settings files entities).1 := by
  induction entities generalizing files with
  | nil =>
    refine ⟨hfiles, rfl, Grows.refl _, ?_, ?_⟩
    · intro entity hentity
      cases hentity
    · intro q _
      exact Or.inl rfl
  | cons entity rest ih =>
    obtain ⟨next, place, hwritten, hrun, hothers⟩ := writeModules_first hfiles h
    rw [hrun]
    exact ModulesWritten.cons hwritten (ih hwritten.wellFormed hothers)

theorem writeModules_entities (files : FileTree) (entities : List Entity) :
    (writeModules settings files entities).2.map (·.entity) = entities.map (·.name) := by
  induction entities generalizing files with
  | nil => rfl
  | cons entity rest ih =>
    rw [writeModules_cons, List.map_cons, List.map_cons, ih]

/-! ## Runs -/

theorem generate_ok {files : FileTree} {loaded : Loaded}
    (h : load files settings.inputDir settings.inputSuffix = .ok loaded) :
    generate files settings = .ok ((writeModules settings files loaded.entities).1,
      ⟨loaded.failures, (writeModules settings files loaded.entities).2⟩) := by
  rw [generate, h]
  simp only [bind, Except.bind, pure, Except.pure]

theorem hasFatal_eq_false {report : RunReport} :
    report.hasFatal = false ↔ report.failures = [] ∧ ∀ entity ∈ report.entities, entity.isFailed = false := by
  rw [RunReport.hasFatal, Bool.or_eq_false_iff, List.any_eq_false]
  simp

theorem written_of_generate {files after : FileTree} {report : RunReport} (hfiles : files.WellFormed)
    (h : generate files settings = .ok (after, report)) (hfatal : report.hasFatal = false) :
    ∃ loaded, load files settings.inputDir settings.inputSuffix = .ok loaded ∧ report.failures = loaded.failures ∧
      writeModules settings files loaded.entities = (after, report.entities) ∧
      ModulesWritten settings files loaded.entities after := by
  cases hload : load files settings.inputDir settings.inputSuffix with
  | error failure =>
    rw [generate, hload] at h
    cases h
  | ok loaded =>
    rw [generate_ok hload, Except.ok.injEq, Prod.mk.injEq] at h
    obtain ⟨rfl, rfl⟩ := h
    exact ⟨loaded, rfl, rfl, rfl, writeModules_ok hfiles (hasFatal_eq_false.1 hfatal).2⟩

/-- a run in which every source loads and every module is written -/
theorem generate_of_written {files : FileTree} {entities : List Entity}
    (hload : load files settings.inputDir settings.inputSuffix = .ok ⟨entities, []⟩)
    (h : (writeModules settings files entities).2.all (fun report => !report.isFailed) = true) :
    ∃ after report, generate files settings = .ok (after, report) ∧ report.hasFatal = false := by
  refine ⟨_, _, generate_ok hload, ?_⟩
  rw [hasFatal_eq_false]
  refine ⟨rfl, ?_⟩
  intro report hreport
  simpa using List.all_eq_true.1 h report hreport

end Run

end DocumentModels.Batch
