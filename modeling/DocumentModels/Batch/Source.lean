/-
Definition files: which ones there are, and the entities in them.

Files are taken from one directory, in the order of their names; the entity is what stands before the suffix. A file
that cannot be loaded is reported and its siblings are loaded all the same.
-/
import DocumentModels.Batch.Failure
import DocumentModels.Definition.Entity
import DocumentModels.Json.Reader

namespace DocumentModels.Batch

open Files

/-- what stands before a suffix -/
def stripSuffix? (text suffix : String) : Option String :=
  if suffix.toList.isSuffixOf text.toList then
    some (String.ofList (text.toList.take (text.length - suffix.length)))
  else none

/-- the entity of a directory entry: of a file whose name goes beyond the suffix -/
def entityOf? (suffix : String) (entry : String × Entry) : Option String :=
  if entry.2.isFile then (stripSuffix? entry.1 suffix).filter (!·.isEmpty) else none

/-- the definition files of a directory: entity and path, in order of file names -/
def discover (files : FileTree) (directory suffix : String) : Except Failure (List (String × String)) :=
  if files.isDirectory directory then
    .ok ((files.children directory).filterMap fun entry =>
      (entityOf? suffix entry).map fun entity => (entity, Path.join directory entry.1))
  else .error (.load directory .noDirectory)

def loadFile (files : FileTree) (entity path : String) : Except Failure Entity := do
  let text ← (files.readText path).mapError .read
  match Json.read? text with
  | none => throw (.load path .invalidJson)
  | some definition =>
    match Entity.ofDefinition entity definition with
    | .ok loaded => return loaded
    | .error (.noSchema name) => throw (.load name .noSchema)
    | .error error => throw (.load path (.definition error))

/-- a definition file that could not be loaded -/
structure LoadFailure where
  entity : String
  path : String
  failure : Failure

namespace LoadFailure

def reason (item : LoadFailure) : String := item.failure.message

end LoadFailure

/-- the entities and the failures of one pass over a directory -/
structure Loaded where
  entities : List Entity := []
  failures : List LoadFailure := []

def Loaded.add (files : FileTree) (loaded : Loaded) (source : String × String) : Loaded :=
  match loadFile files source.1 source.2 with
  | .ok entity => { loaded with entities := loaded.entities ++ [entity] }
  | .error failure => { loaded with failures := loaded.failures ++ [⟨source.1, source.2, failure⟩] }

def load (files : FileTree) (directory suffix : String) : Except Failure Loaded := do
  return (← discover files directory suffix).foldl (Loaded.add files) {}

end DocumentModels.Batch
