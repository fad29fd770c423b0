/-
Indexes of a document model.

A few field names are recognized at top level and indexed in a fixed direction, in a fixed order, whatever the type of
the field. Configured text fields that are declared follow, each once.
-/
import DocumentModels.Schema.Spec

namespace DocumentModels

/-- how an index orders its field -/
inductive Direction where
  | ascending
  | descending
  | text
  deriving DecidableEq

/-- an index on one top-level field -/
structure Index where
  field : String
  direction : Direction
  deriving DecidableEq

namespace Direction

def name : Direction → String
  | ascending => "ascending"
  | descending => "descending"
  | text => "text"

def ofName? (name : String) : Option Direction := [ascending, descending, text].find? (·.name == name)

def shortName : Direction → String
  | ascending => "asc"
  | descending => "desc"
  | text => "text"

end Direction

namespace Index

/-- one line for an operator -/
def line (index : Index) : String := index.field ++ " (" ++ index.direction.shortName ++ ")"

def json (index : Index) : Json :=
  .object [("field", .string index.field), ("direction", .string index.direction.name)]

def isText (index : Index) : Bool := index.direction = .text

/-- the recognized field names with their directions, in order of declaration -/
def recognized : List Index :=
  [⟨"email", .ascending⟩, ⟨"status", .ascending⟩, ⟨"createdAt", .descending⟩, ⟨"role", .ascending⟩,
    ⟨"category", .ascending⟩]

/-- add an index if its field is declared and the index is not there yet -/
def addIfNew (schema : Schema) (indexes : List Index) (index : Index) : List Index :=
  if schema.hasField index.field ∧ index ∉ indexes then indexes ++ [index] else indexes

/-- the indexes of a schema: the recognized names, then the configured text fields -/
def infer (schema : Schema) (textFields : List String) : List Index :=
  (recognized ++ textFields.map fun field => Index.mk field .text).foldl (addIfNew schema) []

end Index

end DocumentModels
