/-
Running commands.

A run is a function of the files, the user's directory of settings and the environment. What it prints, how it ends and
the files it leaves are in its result. The log is left out, and so is what the readers of words and of settings say about
bad ones.
-/
import DocumentModels.Batch.Run
import DocumentModels.CommandLine.Invocation
import DocumentModels.Emit.Validator
import DocumentModels.Settings.Load

namespace DocumentModels.CommandLine

open Files

/-- what a run is given -/
structure World where
  files : FileTree
  /-- the user's directory of settings -/
  userDir : Option String
  /-- the environment -/
  environment : List (String × String)

/-- why a run is given up -/
inductive Complaint where
  /-- the words are no command line -/
  | usage
  /-- the settings cannot be loaded -/
  | settings
  | failure (failure : Failure)
  /-- there is something where a settings file is to be written -/
  | taken (path : String)
  | unwritable (path : String) (cause : FileError)

namespace Complaint

/-- wording of a complaint; a failure of the file system is followed by what the system said -/
def message : Complaint → String
  | usage => "no such command"
  | settings => "loading configuration"
  | failure (.read cause) => (Failure.read cause).message ++ ": " ++ cause.message
  | failure (.write path cause) => (Failure.write path cause).message ++ ": " ++ cause.message
  | failure other => other.message
  | taken path => path ++ " already exists"
  | unwritable path cause => "writing " ++ path ++ ": " ++ cause.message

/-- the line that is printed -/
def text (complaint : Complaint) : String := "❌ Error: " ++ complaint.message

end Complaint

/-- what a run leaves behind -/
structure Result where
  files : FileTree
  /-- what it prints -/
  output : String := ""
  /-- whether nothing is left to be done -/
  clean : Bool := true
  /-- why it was given up -/
  complaint : Option Complaint := none

def Result.exitCode (result : Result) : Nat :=
  match result.complaint with
  | some .usage => 2
  | some _ => 1
  | none => if result.clean then 0 else 1

open Batch (line)

def inspectionText (rendering : Batch.Rendering) : String :=
  let indexes :=
    if rendering.indexes.isEmpty then line "Indexes: none"
    else line "Indexes:" ++ String.join (rendering.indexes.map fun index => line ("  └─ " ++ index.line))
  line ("📋 " ++ rendering.modelName ++ " (" ++ rendering.entity ++ ")")
    ++ line rendering.translation.schema.json.pretty ++ line "" ++ indexes
    ++ Diagnostic.report rendering.translation.diagnostics
    ++ "\n" ++ Digest.short rendering.checksum ++ " -> " ++ rendering.path

def inspectionJson (rendering : Batch.Rendering) : Json :=
  .object [
    ("schema", rendering.translation.schema.json),
    ("indexes", .array (rendering.indexes.map Index.json)),
    ("diagnostics", .array (rendering.translation.diagnostics.map Diagnostic.json)),
    ("path", .string rendering.path),
    ("checksum", .string rendering.checksum)]

/-- settings with the directories that a command gives -/
def withDirectories (settings : Settings) (input output : Option String) : Settings :=
  { settings with inputDir := input.getD settings.inputDir, outputDir := output.getD settings.outputDir }

def showEntity (settings : Settings) (files : FileTree) (entity : String) (text : Batch.Rendering → String) : Result :=
  match Batch.Rendering.ofName files settings entity with
  | .ok rendering => { files, output := line (text rendering) }
  | .error failure => { files, complaint := some (.failure failure) }

/-- do what is asked for -/
def perform (settings : Settings) (files : FileTree) : Command → Result
  | .generate input output =>
    let settings := withDirectories settings input output
    let heading := line ("🔧 Generating models from " ++ settings.inputDir ++ "\n")
    match Batch.generate files settings with
    | .ok (files, report) => { files, output := heading ++ report.text, clean := !report.hasFatal }
    | .error failure => { files, output := heading, complaint := some (.failure failure) }
  | .check verbose =>
    let heading := line ("🔍 Checking generated modules in " ++ settings.outputDir ++ "\n")
    match Batch.check files settings with
    | .ok report =>
      { files, output := heading ++ report.text verbose, clean := !report.hasDrift && report.failures.isEmpty }
    | .error failure => { files, output := heading, complaint := some (.failure failure) }
  | .inspect entity .json => showEntity settings files entity fun rendering => (inspectionJson rendering).pretty
  | .inspect entity .text => showEntity settings files entity inspectionText
  | .validator entity =>
    showEntity settings files entity fun rendering => (Emit.validator rendering.translation.schema).pretty
  | .showSettings => { files, output := settings.toml }
  | .initSettings path =>
    if files.contains path then { files, complaint := some (.taken path) }
    else
      match ({} : Settings).save files path with
      | .ok files => { files, output := line ("✅ Configuration written to " ++ path) }
      | .error cause => { files, complaint := some (.unwritable path cause) }

/-- read the words, load the settings and do what is asked for -/
def run (world : World) (words : List String) : Result :=
  match Invocation.read? words with
  | none => { files := world.files, complaint := some .usage }
  | some invocation =>
    match Settings.load? world.files world.userDir world.environment invocation.settingsFile with
    | none => { files := world.files, complaint := some .settings }
    | some settings => perform settings world.files invocation.command

end DocumentModels.CommandLine
