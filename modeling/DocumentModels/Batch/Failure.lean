/-
What can go wrong in a run, and how it is said.
-/
import DocumentModels.Definition.Fault
import DocumentModels.Files.Tree
import DocumentModels.Model.Collection

namespace DocumentModels

/-- why a definition file cannot be loaded -/
inductive LoadCause where
  | noDirectory
  | invalidJson
  | noSchema
  | definition (error : DefinitionError)

/-- wording of a cause; what the reader of JSON says about a broken text, which would follow, is left out -/
def LoadCause.message : LoadCause → String
  | noDirectory => "input directory not found"
  | invalidJson => "invalid JSON"
  | noSchema => "no schema object exported"
  | definition error => error.message

/-- a failure of one step of a run -/
inductive Failure where
  | load (path : String) (cause : LoadCause)
  | write (path : String) (cause : Files.FileError)
  | construction (model : String) (cause : ConstructionError)
  | entityNotFound (entity : String)
  | read (cause : Files.FileError)

def Failure.message : Failure → String
  | load path cause => "Failed to load " ++ path ++ ": " ++ cause.message
  | write path cause => "Failed to write " ++ path ++ ": " ++ cause.message
  | construction model cause => "Cannot construct model " ++ model ++ ": " ++ cause.message
  | entityNotFound entity => "Entity not found: " ++ entity
  | read cause => "IO error: " ++ cause.message

end DocumentModels
