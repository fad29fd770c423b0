/-
The program: reads the files that a command may look at, runs it, and writes the files that it changed.
-/
import DocumentModels.CommandLine.Run

open DocumentModels Files CommandLine

namespace DocumentModels.Program

/-- lines for an operator who gave no command -/
def usage : String :=
  "Usage: modelgen [--config FILE] COMMAND\n\n"
    ++ "  generate [--input DIR] [--output DIR]\n"
    ++ "  check [--verbose]\n"
    ++ "  inspect ENTITY [--format text|json]\n"
    ++ "  validator ENTITY\n"
    ++ "  config show\n"
    ++ "  config init FILE\n"

/-- the paths on the way to a path, the shortest first -/
def stages (path : String) : List String :=
  let start := if Path.isAbsolute path then "/" else ""
  let names := Path.names path
  (List.range names.length).map fun last => start ++ "/".intercalate (names.take (last + 1))

/-- copy what is at a path into the tree: a file with its bytes, a directory without its entries -/
def copyEntry (files : FileTree) (path : String) : IO FileTree := do
  let place := (← IO.currentDir) / path
  if ← place.isDir then
    return (files.makeDirectories (Path.isAbsolute path) (Path.names path).reverse).toOption.getD files
  else
    try
      return (files.write path (← IO.FS.readBinFile place)).toOption.getD files
    catch _ => return files

def copyPath (files : FileTree) (path : String) : IO FileTree :=
  (stages path).foldlM copyEntry files

def copyDirectory (files : FileTree) (path : String) : IO FileTree := do
  let files ← copyPath files path
  try
    let entries ← ((← IO.currentDir) / path).readDir
    entries.foldlM (fun files entry => copyEntry files (Path.join path entry.fileName)) files
  catch _ => return files

/-- the paths of settings files that a command line may mean -/
def settingsPaths (userDir settingsFile : Option String) : List String :=
  let named := Settings.localFiles ++ settingsFile.toList
  named ++ named.map (· ++ String.ofList Settings.fileExtension)
    ++ userDir.toList.map fun directory => Path.join directory Settings.userFile

/-- copy what a command reads or writes -/
def copyFor (files : FileTree) (settings : Settings) (command : Command) : IO FileTree := do
  match command with
  | .showSettings => return files
  | .initSettings path => copyPath files path
  | .generate input output => copyModules (withDirectories settings input output)
  | .check _ | .inspect _ _ | .validator _ => copyModules settings
where
  /-- copy definitions and the modules that follow from them -/
  copyModules (settings : Settings) : IO FileTree := do
    let files ← copyDirectory files settings.inputDir
    let entities := ((Batch.discover files settings.inputDir settings.inputSuffix).toOption.getD []).map Prod.fst
    entities.foldlM (fun files entity => copyPath files (settings.outputPath entity)) files

def fileList (files : FileTree) : List (String × ByteArray) :=
  (files.root.walk "").filterMap fun path => (files.read path).toOption.map (path, ·)

def writeChanges (before after : FileTree) : IO Unit :=
  for (path, bytes) in fileList after do
    match before.read path with
    | .ok old => if old.data ≠ bytes.data then IO.FS.writeBinFile path bytes
    | .error _ =>
      IO.FS.createDirAll ("/" ++ "/".intercalate (Path.names path).dropLast)
      IO.FS.writeBinFile path bytes

def readEnvironment : IO (List (String × String)) := do
  let bytes ← try IO.FS.readBinFile "/proc/self/environ" catch _ => pure .empty
  return (Path.splitChars '\x00' (Text.decodeLossy bytes.toList).toList).map fun entry =>
    let name := entry.takeWhile (· ≠ '=')
    (String.ofList name, String.ofList (entry.drop (name.length + 1)))

def userDirectory (environment : List (String × String)) : Option String :=
  let base := ((environment.lookup "XDG_CONFIG_HOME").filter Path.isAbsolute).or
    ((environment.lookup "HOME").map (Path.join · ".config"))
  base.map (Path.join · "modelgen")

end DocumentModels.Program

open Program in
/-- run the command line and say how it ended -/
def main (words : List String) : IO UInt32 := do
  let environment ← readEnvironment
  let userDir := userDirectory environment
  let current := Path.names (← IO.currentDir).toString
  let start ← copyPath { FileTree.empty with current } ("/" ++ "/".intercalate current)
  let invocation := Invocation.read? words
  let files ← (settingsPaths userDir (invocation.bind (·.settingsFile))).foldlM copyPath start
  let settings := invocation.bind fun invocation => Settings.load? files userDir environment invocation.settingsFile
  let files ←
    match settings, invocation with
    | some settings, some invocation => copyFor files settings invocation.command
    | _, _ => pure files
  let result := run ⟨files, userDir, environment⟩ words
  IO.print result.output
  writeChanges files result.files
  match result.complaint with
  | some .usage => IO.eprint usage
  | some complaint => IO.eprintln complaint.text
  | none => pure ()
  return UInt32.ofNat result.exitCode
