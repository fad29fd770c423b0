/-
A run repeated.

Modules can have one place: then the last one that is written there stays. A second run writes all of them again, in the
same order.
- `writeModules_overwrite`: what a file holds does not matter to a run that writes over it.
- `writeModules_again`: modules written once more, over the tree that writing them left, leave that tree.
- `generate_again`: as long as no source is added or altered, a run repeated leaves the same tree and gives the same
  report.
- `twins_again`: this holds of two modules with one place.
-/
import Mathlib.Tactic
import DocumentModels.Proofs.Batch.Current

namespace DocumentModels.Batch

open Files Entry

section Rerun

variable {settings : Settings} {files after : FileTree} {entities : List Entity}

/-! ## Writing over files -/

/-- the paths of all modules lead to files -/
def Standing (settings : Settings) (files : FileTree) (entities : List Entity) : Prop :=
  ∀ entity ∈ entities, ∃ place bytes, files.locate (modulePath settings entity) = .ok ⟨place, some (.file bytes)⟩

theorem Standing.overwrite (h : Standing settings files entities) {q : List String} {held : ByteArray}
    (hheld : files.root.lookup? q = some (.file held)) (bytes : ByteArray) :
    Standing settings (files.overwrite q bytes) entities := by
  intro entity hentity
  obtain ⟨place, old, hlocate⟩ := h entity hentity
  exact ⟨place, _, FileTree.locate_overwrite hlocate hheld⟩

theorem ModulesWritten.standing (h : ModulesWritten settings files entities after) : Standing settings after entities := by
  intro entity hentity
  obtain ⟨place, last, -, -, hstands⟩ := h.stands entity hentity
  exact ⟨place, _, hstands⟩

/-- **What a file holds does not matter to a run that writes over it.** -/
theorem writeModules_overwrite (hstanding : Standing settings files entities) {q : List String} {held : ByteArray}
    (hheld : files.root.lookup? q = some (.file held)) (bytes : ByteArray)
    (hover : ∃ entity ∈ entities, placeOf? files (modulePath settings entity) = some q) :
    writeModules settings (files.overwrite q bytes) entities = writeModules settings files entities := by
  induction entities generalizing files held with
  | nil =>
    obtain ⟨entity, hentity, -⟩ := hover
    cases hentity
  | cons entity rest ih =>
    obtain ⟨place, old, hlocate⟩ := hstanding entity List.mem_cons_self
    have hold : files.root.lookup? place = some (.file old) := (FileTree.locate_entry hlocate).symm
    rw [writeModules_of_locate hlocate, writeModules_of_locate (FileTree.locate_overwrite hlocate hheld)]
    by_cases hplace : place = q
    · subst hplace
      rw [FileTree.overwrite_overwrite hold]
    · rw [FileTree.overwrite_comm (Ne.symm hplace) hheld hold]
      -- the other modules are written over both files
      have hrest : Standing settings (files.overwrite place (moduleCode settings entity).toUTF8) rest :=
        Standing.overwrite (fun other hother => hstanding other (List.mem_cons_of_mem _ hother)) hold _
      have hheld' : (files.overwrite place (moduleCode settings entity).toUTF8).root.lookup? q = some (.file held) := by
        rw [← at?_eq_file, FileTree.overwrite, changes_put hold, if_neg (Ne.symm hplace), at?_eq_file, hheld]
      rw [ih hrest hheld']
      obtain ⟨other, hother, hthere⟩ := hover
      rcases List.mem_cons.1 hother with rfl | hother
      · rw [placeOf?_ok hlocate, Option.some.injEq] at hthere
        exact absurd hthere hplace
      · refine ⟨other, hother, ?_⟩
        obtain ⟨place', old', hlocate'⟩ := hstanding other (List.mem_cons_of_mem _ hother)
        rw [placeOf?_ok hlocate'] at hthere
        rw [placeOf?_ok (FileTree.locate_overwrite hlocate' hold), hthere]

/-! ## Writing modules again -/

/-- **Modules written again change nothing.** After a run in which every module was written, a second run leaves the tree
of the first one and gives its reports, also when modules have one place. -/
theorem writeModules_again {reports : List EntityReport} (hfiles : files.WellFormed)
    (hrun : writeModules settings files entities = (after, reports))
    (hreports : ∀ report ∈ reports, report.isFailed = false) :
    writeModules settings after entities = (after, reports) := by
  induction entities generalizing files reports with
  | nil =>
    cases hrun
    rfl
  | cons entity rest ih =>
    obtain ⟨next, place, hwritten, hfirst, hothers⟩ := writeModules_first hfiles (by rw [hrun]; exact hreports)
    have hrest := writeModules_ok hwritten.wellFormed hothers
    cases hlater : writeModules settings next rest with
    | mk final others =>
      rw [hlater] at hfirst hothers hrest
      obtain ⟨rfl, rfl⟩ := Prod.mk.inj (hrun.symm.trans hfirst)
      have hagain := ih hwritten.wellFormed hlater hothers
      -- the module's path leads to the place where it was written
      have hhere := at?_eq_file.2 (FileTree.locate_entry hwritten.stands).symm
      obtain ⟨held, hheld⟩ := hrest.grows.files _ _ hhere
      have hlocate := hwritten.later hrest.grows hrest.current
      rw [at?_eq_file.1 hheld] at hlocate
      have hsame : writeModules settings (after.overwrite place (moduleCode settings entity).toUTF8) rest
          = writeModules settings after rest := by
        by_cases hover : ∃ later ∈ rest, placeOf? after (modulePath settings later) = some place
        · exact writeModules_overwrite hrest.standing (at?_eq_file.1 hheld) _ hover
        · -- nothing was written over the module, so that it still stands there
          have hkept := hrest.elsewhere place fun later hlater hthere => hover ⟨later, hlater, hthere⟩
          have hstill := (hkept.file_iff _).2 hhere
          rw [hheld, Option.some.injEq, Option.some.injEq] at hstill
          subst hstill
          rw [FileTree.overwrite_self hlocate]
      rw [writeModules_of_locate hlocate, hsame, hagain]

/-! ## Runs again -/

/-- **A run repeated changes nothing.** After a run without failure that neither added nor altered a source, a second run
leaves the tree of the first one and gives the same report, also when modules have one place. -/
theorem generate_again {report : RunReport} (hfiles : files.WellFormed)
    (h : generate files settings = .ok (after, report)) (hfatal : report.hasFatal = false)
    (hkept : SourcesKept files after settings.inputDir settings.inputSuffix) :
    generate after settings = .ok (after, report) := by
  obtain ⟨loaded, hload, hfailures, hrun, hwritten⟩ := written_of_generate hfiles h hfatal
  obtain ⟨old, hbefore, -⟩ := load_ok.1 hload
  have hagain := (hwritten.load_eq hfiles hbefore hkept).trans hload
  rw [generate_ok hagain, writeModules_again hfiles hrun (hasFatal_eq_false.1 hfatal).2, ← hfailures]

end Rerun

/-! ## Two modules with one place -/

theorem twins_kept {after : FileTree} (hwritten : ModulesWritten defaults twins [plainBooks, datedBooks] after) :
    SourcesKept twins after defaults.inputDir defaults.inputSuffix := by
  obtain ⟨children, hdir⟩ := hwritten.inputDir twins_directory
  refine hwritten.sourcesKept twins_wellFormed (discover_ok hdir _) ?_
  intro entity hentity source hsource hsame
  have hnames : ∀ entity ∈ [plainBooks, datedBooks],
      Path.names (modulePath defaults entity) = ["schema", "models", "books.generated.js"] := by
    intro entity hentity
    fin_cases hentity <;> decide +kernel
  have hmodule : placeOf? after (modulePath defaults entity) = some ["schema", "models", "books.generated.js"] := by
    obtain ⟨place, last, -, -, hstands⟩ := hwritten.stands entity hentity
    have hplace := FileTree.follow_place (FileTree.locate_ok.1 hstands).2.2.1 (by rw [hnames entity hentity]; decide)
    have hcurrent : after.current = [] := hwritten.current
    rw [hcurrent, ite_self, List.nil_append, hnames entity hentity] at hplace
    rw [placeOf?_ok hstands, hplace]
  obtain ⟨bytes, hlocate⟩ := locate_source hwritten.wellFormed hdir (discover_ok hdir _) hsource
  rw [hmodule, placeOf?_ok hlocate] at hsame
  simp at hsame

/-- the second module stays, and stays when both are written again -/
theorem twins_again :
    twins.WellFormed ∧ ∃ after report, generate twins defaults = .ok (after, report) ∧ report.hasFatal = false ∧
      SourcesKept twins after defaults.inputDir defaults.inputSuffix ∧ generate after defaults = .ok (after, report) := by
  obtain ⟨after, report, hgenerate, hfatal⟩ := generate_of_written twins_load twins_written
  obtain ⟨loaded, hload, -, -, hwritten⟩ := written_of_generate twins_wellFormed hgenerate hfatal
  rw [twins_load, Except.ok.injEq] at hload
  subst hload
  have hkept := twins_kept hwritten
  have hagain := generate_again twins_wellFormed hgenerate hfatal hkept
  exact ⟨twins_wellFormed, after, report, hgenerate, hfatal, hkept, hagain⟩

end DocumentModels.Batch
