/-
Reports of runs, for a program to look at and for an operator to read.
-/
import DocumentModels.Batch.Rendering

namespace DocumentModels.Batch

/-- what became of an entity -/
inductive Outcome where
  /-- its module was written -/
  | written (path checksum : String)
  /-- its live model was registered -/
  | built
  | failed (failure : Failure)

structure EntityReport where
  entity : String
  outcome : Outcome
  diagnostics : List Diagnostic

/-- report of a run that writes modules or builds models -/
structure RunReport where
  failures : List LoadFailure
  entities : List EntityReport

def line (text : String) : String := text ++ "\n"

/-- one line for each definition file that could not be loaded -/
def failureLines (failures : List LoadFailure) : String :=
  String.join (failures.map fun item => line ("❌ " ++ item.entity ++ " - " ++ item.reason))

namespace EntityReport

def modelName (report : EntityReport) : String := Emit.modelName report.entity

def isFailed (report : EntityReport) : Bool :=
  match report.outcome with
  | .failed _ => true
  | _ => false

def outcomeLine (report : EntityReport) : String :=
  match report.outcome with
  | .written path checksum => "✅ " ++ report.modelName ++ " -> " ++ path ++ " (" ++ Digest.short checksum ++ ")"
  | .built => "✅ " ++ report.modelName ++ " - model registered"
  | .failed failure => "❌ " ++ report.modelName ++ " - " ++ failure.message

def text (report : EntityReport) : String :=
  line report.outcomeLine
    ++ String.join ((Diagnostic.warnings report.diagnostics).map fun item => line ("   ⚠️  " ++ item.line))
    ++ String.join ((Diagnostic.infos report.diagnostics).map fun item => line ("   ℹ️  " ++ item.line))

end EntityReport

namespace RunReport

/-- whether an entity failed to load, or later -/
def hasFatal (report : RunReport) : Bool := !report.failures.isEmpty || report.entities.any (·.isFailed)

def successCount (report : RunReport) : Nat := report.entities.countP (!·.isFailed)

/-- number of entities that failed to load, or later -/
def failureCount (report : RunReport) : Nat := report.failures.length + report.entities.countP (·.isFailed)

def warningCount (report : RunReport) : Nat :=
  (report.entities.flatMap fun entity => Diagnostic.warnings entity.diagnostics).length

def text (report : RunReport) : String :=
  failureLines report.failures ++ String.join (report.entities.map (·.text))
    ++ line ("\n" ++ toString report.successCount ++ " succeeded, " ++ toString report.warningCount ++ " warning(s), "
      ++ toString report.failureCount ++ " failed")

end RunReport

/-- how the module on disk compares with the one that would be written -/
inductive DriftStatus where
  | upToDate
  | missing
  | changed (diff : String)
  deriving DecidableEq

/-- comparison for one entity -/
structure DriftEntry where
  entity : String
  path : String
  status : DriftStatus

/-- comparison for all entities -/
structure DriftReport where
  failures : List LoadFailure
  entries : List DriftEntry

namespace DriftEntry

/-- whether the module has to be written again -/
def isDrifted (entry : DriftEntry) : Bool := entry.status ≠ .upToDate

def text (verbose : Bool) (entry : DriftEntry) : String :=
  match entry.status with
  | .upToDate => if verbose then line ("✅ " ++ entry.entity ++ " - up to date") else ""
  | .missing => line ("❌ " ++ entry.entity ++ " - " ++ entry.path ++ " not generated")
  | .changed diff =>
    line ("⚠️  " ++ entry.entity ++ " - " ++ entry.path ++ " is stale") ++ (if verbose then diff else "")

end DriftEntry

namespace DriftReport

def drifted (report : DriftReport) : List DriftEntry := report.entries.filter (·.isDrifted)

def hasDrift (report : DriftReport) : Bool := report.entries.any (·.isDrifted)

def text (verbose : Bool) (report : DriftReport) : String :=
  failureLines report.failures ++ String.join (report.entries.map (·.text verbose))
    ++ (if report.hasDrift then line ("\n❌ " ++ toString report.drifted.length ++ " module(s) out of date")
      else line "\n✅ No drift detected - modules are in sync")

end DriftReport

end DocumentModels.Batch
