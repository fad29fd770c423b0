/-
Runs over all definition files: write modules, build live models, or compare with the modules on disk.

Entities are processed one after the other, and a failure of one never keeps its siblings from being processed.
-/
import DocumentModels.Batch.Report
import DocumentModels.Diff.Unified
import DocumentModels.Model.Registry

namespace DocumentModels.Batch

open Files

/-! ## Writing modules -/

/-- write a rendered module, making the directories on the way to it -/
def writeModule (files : FileTree) (rendering : Rendering) : FileTree × Outcome :=
  match files.makeParents rendering.path with
  | .error e => (files, .failed (.write rendering.path e))
  | .ok made =>
    match made.write rendering.path rendering.code.toUTF8 with
    | .ok next => (next, .written rendering.path rendering.checksum)
    | .error e => (made, .failed (.write rendering.path e))

def writeModules (settings : Settings) : FileTree → List Entity → FileTree × List EntityReport
  | files, [] => (files, [])
  | files, entity :: rest =>
    let rendering := Rendering.ofEntity settings entity
    let (next, outcome) := writeModule files rendering
    let (final, reports) := writeModules settings next rest
    (final, ⟨entity.name, outcome, rendering.translation.diagnostics⟩ :: reports)

/-- write one module for each definition file that loads -/
def generate (files : FileTree) (settings : Settings) : Except Failure (FileTree × RunReport) := do
  let loaded ← load files settings.inputDir settings.inputSuffix
  let (final, reports) := writeModules settings files loaded.entities
  return (final, ⟨loaded.failures, reports⟩)

/-! ## Building models -/

def buildModels (settings : Settings) : Registry → List Entity → Registry × List EntityReport
  | registry, [] => (registry, [])
  | registry, entity :: rest =>
    let translation := entity.translate
    let indexes := Index.infer translation.schema settings.textFields
    let (next, outcome) :=
      match registry.register entity.name translation.schema indexes with
      | .ok (next, _) => (next, Outcome.built)
      | .error e => (registry, .failed (.construction (Emit.modelName entity.name) e))
    let (final, reports) := buildModels settings next rest
    (final, ⟨entity.name, outcome, translation.diagnostics⟩ :: reports)

/-- build a live model for each definition file that loads -/
def build (files : FileTree) (settings : Settings) : Except Failure (Registry × RunReport) := do
  let loaded ← load files settings.inputDir settings.inputSuffix
  let (registry, reports) := buildModels settings { timestamps := settings.timestamps } loaded.entities
  return (registry, ⟨loaded.failures, reports⟩)

/-! ## Comparing with the disk -/

/-- compare a rendered module with the file at its path; a file that is no text counts as missing -/
def compare (files : FileTree) (rendering : Rendering) : DriftStatus :=
  match files.readText rendering.path with
  | .ok onDisk =>
    if Digest.verify rendering.checksum onDisk then .upToDate
    else .changed (Diff.unified "on disk" "generated" onDisk rendering.code)
  | .error _ => .missing

/-- compare the modules of all definition files that load with what is on disk -/
def check (files : FileTree) (settings : Settings) : Except Failure DriftReport := do
  let loaded ← load files settings.inputDir settings.inputSuffix
  let entries := loaded.entities.map fun entity =>
    let rendering := Rendering.ofEntity settings entity
    DriftEntry.mk entity.name rendering.path (compare files rendering)
  return ⟨loaded.failures, entries⟩

end DocumentModels.Batch
