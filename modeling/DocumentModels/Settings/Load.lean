/-
Loading and saving settings.

Files in fixed places are layered in a fixed order, then a file that was asked for, then the environment. A file in a
fixed place may be missing, but a broken one makes loading fail.

Settings files are TOML here. The other formats that settings may be written in (JSON, JSON5, YAML, INI, RON) are left out: a
file that has one of their extensions counts as missing, and a name is not tried with them.
-/
import DocumentModels.Files.Tree
import DocumentModels.Settings.Environment
import DocumentModels.Text.Utf8
import DocumentModels.Toml.Reader
import DocumentModels.Toml.Writer

namespace DocumentModels.Settings

open Files Toml

/-- the files of fixed places, earliest first -/
def localFiles : List String := ["modelgen.toml", ".modelgen.toml", "config/modelgen.toml"]

def userFile : String := "modelgen.toml"

def fileExtension : List Char := ".toml".toList

/-- whether a path names a settings file: its last name goes beyond the extension -/
def hasExtension (path : String) : Bool :=
  match (Path.names path).getLast? with
  | some name => fileExtension.isSuffixOf name.toList && name.toList ≠ fileExtension
  | none => false

/-- the path of the file that a name stands for: itself, or with the extension added -/
def findFile? (files : FileTree) (name : String) : Option String :=
  if files.isFile name then if hasExtension name then some name else none
  else
    let longer := name ++ String.ofList fileExtension
    if !name.isEmpty && files.isFile longer then some longer else none

/-- the text of a settings file, without a byte order mark and with wrong bytes replaced -/
def fileText? (files : FileTree) (name : String) : Option String := do
  let path ← findFile? files name
  match files.read path with
  | .ok bytes =>
    let bytes := bytes.toList
    some (Text.decodeLossy (if [0xEF, 0xBB, 0xBF].isPrefixOf bytes then bytes.drop 3 else bytes))
  | .error _ => none

/-- the layer of a file; a missing one is empty unless it is required, a broken one fails -/
def fileLayer? (files : FileTree) (required : Bool) (name : String) : Option Layer :=
  match fileText? files name with
  | some text => Toml.read? text
  | none => if required then none else some []

/-- load the settings; `userDir` is the user's directory of settings, `path` a file that has to be there -/
def load? (files : FileTree) (userDir : Option String) (environment : List (String × String))
    (path : Option String) : Option Settings := do
  let user := (userDir.map fun dir => Path.join dir userFile).filter files.contains
  let optional ← (localFiles ++ user.toList).mapM (fileLayer? files false)
  let required ← path.toList.mapM (fileLayer? files true)
  ofLayer? (mergeLayers (optional ++ required ++ [environmentLayer environment]))

def toml (settings : Settings) : String :=
  "[input]\ndir = " ++ stringText settings.inputDir ++ "\nsuffix = " ++ stringText settings.inputSuffix
    ++ "\n\n[output]\ndir = " ++ stringText settings.outputDir ++ "\nsuffix = " ++ stringText settings.outputSuffix
    ++ "\ntimestamps = " ++ toString settings.timestamps
    ++ "\n\n[indexes]\ntext_fields = " ++ listText settings.textFields ++ "\n"

def save (settings : Settings) (files : FileTree) (path : String) : Except FileError FileTree :=
  files.write path settings.toml.toUTF8

end DocumentModels.Settings
