/-
The settings of a run: where definitions are found, where modules are written, and how.
-/
import DocumentModels.Files.Path
import DocumentModels.Text.Case

namespace DocumentModels

/-- the six settings and what they are when nothing sets them -/
structure Settings where
  /-- directory that holds one definition file an entity -/
  inputDir : String := "schema"
  /-- end of a definition file's name; what stands before it is the entity -/
  inputSuffix : String := ".zod.json"
  /-- directory that modules are written into -/
  outputDir : String := "schema/models"
  /-- what follows the entity in lower case in a module's file name -/
  outputSuffix : String := ".generated.js"
  /-- whether models stamp their documents -/
  timestamps : Bool := true
  /-- top-level fields that share the text index -/
  textFields : List String := []
  deriving DecidableEq

namespace Settings

def outputPath (settings : Settings) (entity : String) : String :=
  Files.Path.join settings.outputDir (Text.lower entity ++ settings.outputSuffix)

def inputPath (settings : Settings) (entity : String) : String :=
  Files.Path.join settings.inputDir (entity ++ settings.inputSuffix)

end Settings

end DocumentModels
