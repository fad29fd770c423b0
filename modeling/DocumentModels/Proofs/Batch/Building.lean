/-
Building the models of a directory.

- `buildModels_step`: an entity that the registry admits is registered and reported as built; any other one is reported as
  failed and leaves no trace in the registry.
- `buildModels_models`: the models that a run adds are those of the entities that it reports as built, in order.
- `buildModels_reports`: an entity is reported as failed if and only if a pattern of its schema fails or its model name
  is taken by an earlier one that was built.
- `buildModels_drop`: without entities that failed, the others are built and reported as before.
- `build_agrees`: the three for a run over a directory; a definition file that failed can be taken away.
- `twins_refused`: of two entities with one model name the second fails, and can be taken away.
-/
import Mathlib.Tactic
import DocumentModels.Proofs.Batch.Accounting
import DocumentModels.Proofs.Model.Registration

namespace DocumentModels

/-- whether the model of an entity can be registered -/
def Registry.Admits (registry : Registry) (entity : Entity) : Prop :=
  Emit.modelName entity.name ∉ registry.names ∧ ¬entity.schema.PatternFails

namespace Batch

open Files Entry

/-! ## Reports -/

namespace EntityReport

/-- whether a model was registered for the entity -/
def isBuilt (report : EntityReport) : Bool :=
  match report.outcome with
  | .built => true
  | _ => false

/-- the report on an entity whose model was registered -/
def ofBuilt (entity : Entity) : EntityReport := ⟨entity.name, .built, entity.diagnostics⟩

/-- the report on an entity whose model could not be made -/
def ofRefused (entity : Entity) (error : ConstructionError) : EntityReport :=
  ⟨entity.name, .failed (.construction (Emit.modelName entity.name) error), entity.diagnostics⟩

/-- the model is the one that the report is about, and new -/
structure BuiltAs (report : EntityReport) (model : Collection) : Prop where
  name : model.name = report.modelName
  entity : model.entity = report.entity
  documents : model.documents = #[]

end EntityReport

open EntityReport

/-- names of the models that reports say were built, in order -/
def builtNames (reports : List EntityReport) : List String := (reports.filter (·.isBuilt)).map (·.modelName)

theorem builtNames_nil : builtNames [] = [] := rfl

theorem builtNames_built (entity : Entity) (reports : List EntityReport) :
    builtNames (ofBuilt entity :: reports) = Emit.modelName entity.name :: builtNames reports := rfl

theorem builtNames_refused (entity : Entity) (error : ConstructionError) (reports : List EntityReport) :
    builtNames (ofRefused entity error :: reports) = builtNames reports := rfl

/-- what a report says about an entity, where some model names are taken -/
structure Reported (taken : List String) (entity : Entity) (report : EntityReport) : Prop where
  name : report.entity = entity.name
  diagnostics : report.diagnostics = entity.diagnostics
  /-- the entity was built or failed -/
  built : report.isBuilt = !report.isFailed
  failed : report.isFailed = true ↔ entity.schema.PatternFails ∨ report.modelName ∈ taken

section Reported

variable {registry : Registry} {entity : Entity}

theorem reported_built (h : registry.Admits entity) : Reported registry.names entity (ofBuilt entity) := by
  refine ⟨rfl, rfl, rfl, ?_⟩
  constructor
  · rintro ⟨⟩
  · rintro (hfails | htaken)
    · exact absurd hfails h.2
    · exact absurd htaken h.1

theorem reported_refused (h : ¬registry.Admits entity) (error : ConstructionError) :
    Reported registry.names entity (ofRefused entity error) := by
  refine ⟨rfl, rfl, rfl, ?_⟩
  constructor
  · rintro -
    rw [Registry.Admits, not_and_or, not_not, not_not] at h
    exact h.symm
  · rintro -
    rfl

end Reported

/-! ## One step -/

section Steps

variable {settings : Settings} {registry next : Registry} {entity : Entity} {model : Collection}
  {error : ConstructionError}

def registration (settings : Settings) (registry : Registry) (entity : Entity) :
    Except ConstructionError (Registry × Collection) :=
  registry.register entity.name entity.schema (Index.infer entity.schema settings.textFields)

/-- a registered model is pushed -/
theorem buildModels_built (h : registration settings registry entity = .ok (next, model)) (rest : List Entity) :
    buildModels settings registry (entity :: rest)
      = ((buildModels settings next rest).1, ofBuilt entity :: (buildModels settings next rest).2) := by
  rw [registration] at h
  rw [buildModels, Entity.translate]
  simp only [h]
  rfl

theorem buildModels_refused (h : registration settings registry entity = .error error) (rest : List Entity) :
    buildModels settings registry (entity :: rest)
      = ((buildModels settings registry rest).1, ofRefused entity error :: (buildModels settings registry rest).2) := by
  rw [registration] at h
  rw [buildModels, Entity.translate]
  simp only [h]
  rfl

/-- **What one step does.** -/
theorem buildModels_step (settings : Settings) (registry : Registry) (entity : Entity) (rest : List Entity) :
    (registry.Admits entity ∧ ∃ model, BuiltAs (ofBuilt entity) model ∧
      buildModels settings registry (entity :: rest)
        = ((buildModels settings (registry.push model) rest).1,
          ofBuilt entity :: (buildModels settings (registry.push model) rest).2)) ∨
    (¬registry.Admits entity ∧ ∃ error,
      buildModels settings registry (entity :: rest)
        = ((buildModels settings registry rest).1, ofRefused entity error :: (buildModels settings registry rest).2)) := by
  have hadmits : (∃ next model, registration settings registry entity = .ok (next, model)) ↔ registry.Admits entity := by
    rw [registration, Registry.registrable_iff]
    exact ⟨fun h => ⟨h.1, h.2.1⟩, fun h => ⟨h.1, h.2, Index.infer_declared _ _⟩⟩
  cases hregister : registration settings registry entity with
  | error error =>
    refine Or.inr ⟨?_, error, buildModels_refused hregister rest⟩
    rw [← hadmits, hregister]
    rintro ⟨next, model, ⟨⟩⟩
  | ok result =>
    obtain ⟨next, model⟩ := result
    refine Or.inl ⟨hadmits.1 ⟨next, model, hregister⟩, model, ?_⟩
    obtain ⟨-, hnext, patterns, -, -, hmodel⟩ := Collection.register_eq_ok.1 hregister
    refine ⟨?_, ?_⟩
    · rw [hmodel]
      exact ⟨rfl, rfl, rfl⟩
    · rw [buildModels_built hregister, hnext]

end Steps

/-! ## A run -/

/-- **The models that a run adds are those of the entities reported as built.** -/
theorem buildModels_models (settings : Settings) (registry : Registry) (entities : List Entity) :
    ∃ added, (buildModels settings registry entities).1.models = registry.models ++ added ∧
      List.Forall₂ BuiltAs ((buildModels settings registry entities).2.filter (·.isBuilt)) added := by
  induction entities generalizing registry with
  | nil => exact ⟨[], (List.append_nil _).symm, .nil⟩
  | cons entity rest ih =>
    rcases buildModels_step settings registry entity rest with ⟨-, model, hbuilt, hrun⟩ | ⟨-, error, hrun⟩
    · obtain ⟨added, hmodels, hadded⟩ := ih (registry.push model)
      rw [hrun]
      refine ⟨model :: added, ?_, .cons hbuilt hadded⟩
      rw [hmodels, Registry.push, List.append_assoc]
      rfl
    · rw [hrun]
      exact ih registry

/-- names stay distinct -/
theorem buildModels_nodup (settings : Settings) (registry : Registry) (entities : List Entity)
    (h : registry.names.Nodup) : (buildModels settings registry entities).1.names.Nodup := by
  induction entities generalizing registry with
  | nil => exact h
  | cons entity rest ih =>
    rcases buildModels_step settings registry entity rest with ⟨⟨hnew, -⟩, model, hbuilt, hrun⟩ | ⟨-, error, hrun⟩
    · rw [hrun]
      apply ih
      rw [Registry.names_push, hbuilt.name, ← List.concat_eq_append]
      exact h.concat hnew
    · rw [hrun]
      exact ih registry h

/-- **Who fails.** -/
theorem buildModels_reports (settings : Settings) (registry : Registry) (entities : List Entity) (index : Nat) :
    Option.Rel (Reported (registry.names ++ builtNames ((buildModels settings registry entities).2.take index)))
      entities[index]? (buildModels settings registry entities).2[index]? := by
  induction entities generalizing registry index with
  | nil => exact .none
  | cons entity rest ih =>
    rcases buildModels_step settings registry entity rest with ⟨hadmits, model, hbuilt, hrun⟩ | ⟨hrefused, error, hrun⟩
    · rw [hrun]
      cases index with
      | zero =>
        rw [List.take_zero, builtNames_nil, List.append_nil]
        exact .some (reported_built hadmits)
      | succ index =>
        have hrest := ih (registry.push model) index
        rw [Registry.names_push, hbuilt.name, List.append_assoc] at hrest
        rw [List.take_succ_cons, builtNames_built]
        exact hrest
    · rw [hrun]
      cases index with
      | zero =>
        rw [List.take_zero, builtNames_nil, List.append_nil]
        exact .some (reported_refused hrefused error)
      | succ index =>
        rw [List.take_succ_cons, builtNames_refused]
        exact ih registry index

/-- **Entities that failed can be left out.** If all entities whose names are not kept failed, the others give the same
registry and the same reports without them. -/
theorem buildModels_drop (settings : Settings) (kept : String → Bool) (registry : Registry) (entities : List Entity)
    (h : ∀ report ∈ (buildModels settings registry entities).2, kept report.entity = false → report.isFailed = true) :
    buildModels settings registry (entities.filter fun entity => kept entity.name)
      = ((buildModels settings registry entities).1,
        (buildModels settings registry entities).2.filter fun report => kept report.entity) := by
  induction entities generalizing registry with
  | nil => rfl
  | cons entity rest ih =>
    cases hregister : registration settings registry entity with
    | error error =>
      rw [buildModels_refused hregister] at h ⊢
      have hrest := ih registry fun report hreport => h report (List.mem_cons_of_mem _ hreport)
      cases hkept : kept entity.name with
      | true => simp only [List.filter_cons, ofRefused, hkept, if_true, buildModels_refused hregister, hrest]
      | false => simp only [List.filter_cons, ofRefused, hkept, Bool.false_eq_true, if_false, hrest]
    | ok result =>
      obtain ⟨next, model⟩ := result
      rw [buildModels_built hregister] at h ⊢
      have hrest := ih next fun report hreport => h report (List.mem_cons_of_mem _ hreport)
      cases hkept : kept entity.name with
      | true => simp only [List.filter_cons, ofBuilt, hkept, if_true, buildModels_built hregister, hrest]
      | false => cases h _ List.mem_cons_self hkept

/-! ## A run over a directory -/

namespace RunReport

/-- whether the report says that an entity failed, to load or later -/
def Fails (report : RunReport) (entity : String) : Prop :=
  entity ∈ report.failures.map (·.entity) ∨ ∃ item ∈ report.entities, item.entity = entity ∧ item.isFailed = true

/-- the report but for what it says about one entity -/
def without (report : RunReport) (entity : String) : RunReport :=
  ⟨report.failures.filter fun item => item.entity ≠ entity, report.entities.filter fun item => item.entity ≠ entity⟩

theorem Fails.mem {report : RunReport} {entity : String} (h : report.Fails entity) :
    entity ∈ report.failures.map (·.entity) ++ report.entities.map (·.entity) := by
  rcases h with hload | ⟨item, hitem, rfl, -⟩
  · exact List.mem_append_left _ hload
  · exact List.mem_append_right _ (List.mem_map_of_mem hitem)

/-- where every name is there once, nothing else is reported about an entity that failed -/
theorem Fails.isFailed {report : RunReport} {entity : String} (h : report.Fails entity)
    (hnodup : (report.failures.map (·.entity) ++ report.entities.map (·.entity)).Nodup) {item : EntityReport}
    (hitem : item ∈ report.entities) (hname : item.entity = entity) : item.isFailed = true := by
  obtain ⟨-, hentities, hdisjoint⟩ := List.nodup_append.1 hnodup
  rcases h with hload | ⟨other, hother, hsame, hfailed⟩
  · exact absurd hname.symm (hdisjoint _ hload _ (List.mem_map_of_mem hitem))
  · rw [List.inj_on_of_nodup_map hentities hitem hother (hname.trans hsame.symm)]
    exact hfailed

end RunReport

section Build

variable {files : FileTree} {settings : Settings} {sources : List (String × String)} {registry : Registry}
  {report : RunReport}

/-- **A definition file that failed can be taken away.** -/
theorem build_remove (hfiles : files.WellFormed)
    (hsources : discover files settings.inputDir settings.inputSuffix = .ok sources)
    (h : build files settings = .ok (registry, report)) {entity : String} (hfails : report.Fails entity) :
    ∃ path, (entity, path) ∈ sources ∧ build (files.remove path) settings = .ok (registry, report.without entity) := by
  have hload := load_ok.2 ⟨sources, hsources, rfl⟩
  have hnodup := nodup_discover hfiles hsources
  obtain ⟨_, _, hbuild, haccounts⟩ := build_accounts hload (accounts_load hsources hload hnodup)
  rw [h, Except.ok.injEq, Prod.mk.injEq] at hbuild
  obtain ⟨rfl, rfl⟩ := hbuild
  obtain ⟨⟨name, path⟩, hsource, rfl⟩ := List.mem_map.1 (haccounts.once.subset hfails.mem)
  refine ⟨path, hsource, ?_⟩
  rw [build_ok hload, Except.ok.injEq, Prod.mk.injEq] at h
  obtain ⟨rfl, rfl⟩ := h
  rw [build_ok (load_remove hfiles hsources hload hsource), Loaded.without, RunReport.without]
  -- every report on the entity says that it failed, so the others are built without it all the same
  rw [buildModels_drop settings (fun name' => decide (name' ≠ name))]
  intro item hitem hname
  exact hfails.isFailed (haccounts.once.nodup_iff.2 hnodup) hitem (by simpa using hname)

/-- **Registry and report agree, and failures are isolated.** In every run that builds models:
- the models are new ones, of the entities that the report says were built, in order, and have distinct names;
- each entity that loads is reported in order, and has failed if and only if a pattern somewhere in its schema does not
  compile or an earlier entity that was built has the same model name;
- without the definition file of an entity that failed, to load or later, the run makes the same registry and reports the
  same about all other entities. -/
theorem build_agrees (hfiles : files.WellFormed) (h : build files settings = .ok (registry, report)) :
    List.Forall₂ BuiltAs (report.entities.filter (·.isBuilt)) registry.models ∧ registry.names.Nodup ∧
      ∃ sources loaded, discover files settings.inputDir settings.inputSuffix = .ok sources ∧
        load files settings.inputDir settings.inputSuffix = .ok loaded ∧
        (∀ index : Nat, Option.Rel (Reported (builtNames (report.entities.take index)))
          loaded.entities[index]? report.entities[index]?) ∧
        ∀ entity, report.Fails entity → ∃ path, (entity, path) ∈ sources ∧
          build (files.remove path) settings = .ok (registry, report.without entity) := by
  cases hload : load files settings.inputDir settings.inputSuffix with
  | error failure =>
    rw [build, hload] at h
    cases h
  | ok loaded =>
    obtain ⟨sources, hsources, -⟩ := load_ok.1 hload
    have hremove := fun entity => @build_remove _ _ _ _ _ hfiles hsources h entity
    rw [build_ok hload, Except.ok.injEq, Prod.mk.injEq] at h
    obtain ⟨rfl, rfl⟩ := h
    obtain ⟨added, hmodels, hadded⟩ :=
      buildModels_models settings { timestamps := settings.timestamps } loaded.entities
    rw [List.nil_append] at hmodels
    refine ⟨?_, ?_, sources, loaded, hsources, rfl, ?_, hremove⟩
    · rw [hmodels]
      exact hadded
    · exact buildModels_nodup settings { timestamps := settings.timestamps } loaded.entities List.nodup_nil
    · exact buildModels_reports settings { timestamps := settings.timestamps } loaded.entities

end Build

theorem twins_built :
    (buildModels defaults { timestamps := defaults.timestamps } [plainBooks, datedBooks]).1.names = ["Books"] ∧
      (buildModels defaults { timestamps := defaults.timestamps } [plainBooks, datedBooks]).2.map
        (fun item => (item.entity, item.isFailed)) = [("Books", false), ("books", true)] := by
  decide +kernel

/-- **The second of two entities with one model name fails,** and its definition file can be taken away. -/
theorem twins_refused :
    twins.WellFormed ∧ ∃ registry report, build twins defaults = .ok (registry, report) ∧ registry.names = ["Books"] ∧
      report.Fails "books" ∧ ∃ path, build (twins.remove path) defaults = .ok (registry, report.without "books") := by
  have hbuild := build_ok twins_load
  obtain ⟨hnames, houtcomes⟩ := twins_built
  have hfails : RunReport.Fails ⟨[], (buildModels defaults { timestamps := defaults.timestamps }
      [plainBooks, datedBooks]).2⟩ "books" := by
    have hmem : ("books", true) ∈ (buildModels defaults { timestamps := defaults.timestamps }
        [plainBooks, datedBooks]).2.map (fun item => (item.entity, item.isFailed)) := by
      rw [houtcomes]
      decide
    obtain ⟨item, hitem, hsame⟩ := List.mem_map.1 hmem
    rw [Prod.mk.injEq] at hsame
    exact Or.inr ⟨item, hitem, hsame⟩
  obtain ⟨-, -, sources, loaded, -, -, -, hremove⟩ := build_agrees twins_wellFormed hbuild
  obtain ⟨path, -, hwithout⟩ := hremove "books" hfails
  exact ⟨twins_wellFormed, _, _, hbuild, hnames, hfails, path, hwithout⟩

end Batch

end DocumentModels
