/-
Live models: a schema with its compiled patterns, the documents inserted so far, and a map from values to positions for
every index with a direction.

The counter of keys has 64 bits. Its addition wraps, as that of a build without overflow checks does: after the last number
it begins again at 0.
-/
import DocumentModels.Model.Validation
import DocumentModels.Schema.Index
import DocumentModels.Emit.Name

namespace DocumentModels

/-- positions of the documents that have a value, by the compact text of the value -/
abbrev PositionMap := List (String × List Nat)

/-- a live model -/
structure Collection where
  /-- name of the model -/
  name : String
  /-- name of the entity -/
  entity : String
  schema : Schema
  indexes : List Index
  timestamps : Bool
  patterns : PatternTable
  documents : Array Json := #[]
  /-- one map for each field that has an index with a direction -/
  positions : List (String × PositionMap)
  /-- the next key that is given to a document without one -/
  nextId : UInt64 := 1

/-- why a model cannot be made -/
inductive ConstructionError where
  | nameTaken
  | badPattern (path : String)
  | unknownField (field : String)
  deriving DecidableEq

/-- wording of an error; what the reader of patterns says about a bad pattern, which would follow its path, is left out -/
def ConstructionError.message : ConstructionError → String
  | nameTaken => "model already registered"
  | badPattern path => "invalid match pattern at " ++ path
  | unknownField field => "index on unknown field '" ++ field ++ "'"

/-! ## Patterns -/

namespace Spec

mutual

/-- the patterns of a position at a path and of its parts, each with its path, in order -/
def patterns (path : String) : Spec → List (String × String)
  | .leaf rules _ => (rules.pattern.map fun p => (path, p)).toList
  | .array rules element => (rules.pattern.map fun p => (path, p)).toList ++ patterns (path ++ ".$") element
  | .object rules fields => (rules.pattern.map fun p => (path, p)).toList ++ fieldPatterns path fields

def fieldPatterns (parent : String) : List (String × Spec) → List (String × String)
  | [] => []
  | (name, spec) :: rest => patterns (fieldPath parent name) spec ++ fieldPatterns parent rest

end

end Spec

namespace PatternTable

/-- add the pattern that stands at a path, unless it is there -/
def add (table : PatternTable) (item : String × String) : Except ConstructionError PatternTable :=
  match table.lookup item.2 with
  | some _ => .ok table
  | none =>
    match Pattern.parse? item.2 with
    | some expr => .ok (table ++ [(item.2, expr)])
    | none => .error (.badPattern item.1)

def ofSchema (schema : Schema) : Except ConstructionError PatternTable :=
  (Spec.fieldPatterns "" schema.fields).foldlM add []

end PatternTable

/-! ## Position maps -/

namespace PositionMap

/-- add a position at the end of the list of a key -/
def push (map : PositionMap) (key : String) (position : Nat) : PositionMap :=
  match map with
  | [] => [(key, [position])]
  | (k, list) :: rest => if k = key then (k, list ++ [position]) :: rest else (k, list) :: push rest key position

def get (map : PositionMap) (key : String) : List Nat := (map.lookup key).getD []

end PositionMap

namespace Collection

/-- give a field an empty map, unless it has one -/
def addMap (maps : List (String × PositionMap)) (index : Index) : List (String × PositionMap) :=
  if index.isText ∨ (maps.lookup index.field).isSome then maps else maps ++ [(index.field, [])]

def make (name entity : String) (schema : Schema) (indexes : List Index) (timestamps : Bool) :
    Except ConstructionError Collection := do
  let patterns ← PatternTable.ofSchema schema
  match indexes.find? fun index => !schema.hasField index.field with
  | some index => throw (.unknownField index.field)
  | none =>
    return { name, entity, schema, indexes, timestamps, patterns, positions := indexes.foldl addMap [] }

/-- the stored form of a document, or the rules that it breaks -/
def validate (model : Collection) (document : Json) : Except (List Violation) Members :=
  model.schema.validate model.patterns document

/-! ## Inserting -/

/-- member that holds the key of a document -/
def idKey : String := "_id"

/-- members that hold when a document was made and last changed -/
def stampKeys : List String := ["createdAt", "updatedAt"]

/-- the member of a name, unless it is null -/
def carried? (document : Json) (name : String) : Option Json := (document.get? name).filter (!·.isNull)

/-- the key of a document: the one it carries, else the next one -/
def idOf (model : Collection) (document : Json) : Json :=
  (carried? document idKey).getD (Json.ofNat model.nextId.toNat)

def hasId (model : Collection) (id : Json) : Bool :=
  model.documents.any fun stored => (stored.get? idKey).any (·.same id)

/-- the counter once a key is used -/
def bumped (nextId : UInt64) (id : Json) : UInt64 :=
  match id with
  | .number n =>
    match n.toNat? with
    | some used => if nextId.toNat ≤ used then UInt64.ofNat used + 1 else nextId
    | none => nextId
  | _ => nextId

/-- give a stamp to a document that lacks it: the one it came with, else the present time -/
def stamp (now : String) (document : Json) (stored : Members) (key : String) : Members :=
  if (stored.lookup key).isSome then stored else stored ++ [(key, (carried? document key).getD (.string now))]

/-- what is stored for a document: its key, its fields, and its stamps if the model has them -/
def storedForm (model : Collection) (now : String) (document id : Json) (fields : Members) : Members :=
  let keyed := Members.overlay [(idKey, id)] fields
  if model.timestamps then stampKeys.foldl (stamp now document) keyed else keyed

def note (position : Nat) (stored : Members) (entry : String × PositionMap) : String × PositionMap :=
  match stored.lookup entry.1 with
  | some value => (entry.1, entry.2.push value.compact position)
  | none => entry

/-- validate and store a document; the stored form is returned with the new state -/
def insert (model : Collection) (now : String) (document : Json) :
    Except (List Violation) (Collection × Json) := do
  let fields ← model.validate document
  let id := model.idOf document
  if model.hasId id then throw [⟨idKey, .duplicateKey id⟩]
  let stored := model.storedForm now document id fields
  let next := { model with
    documents := model.documents.push (.object stored)
    positions := model.positions.map (note model.documents.size stored)
    nextId := bumped model.nextId id }
  return (next, .object stored)

/-! ## Looking up -/

/-- the documents whose member is equal to a value; an indexed field is looked up by the text of the value -/
def find (model : Collection) (field : String) (value : Json) : List Json :=
  match model.positions.lookup field with
  | some map => (map.get value.compact).filterMap fun position => model.documents[position]?
  | none => model.documents.toList.filter fun document => (document.get? field).any (·.same value)

/-- whether a text occurs inside another -/
def occursIn (part : List Char) : List Char → Bool
  | [] => part.isEmpty
  | c :: rest => part.isPrefixOf (c :: rest) || occursIn part rest

def textFields (model : Collection) : List String := (model.indexes.filter (·.isText)).map Index.field

/-- the documents in which a text-indexed field contains a term, whatever the case; an empty term finds nothing -/
def search (model : Collection) (term : String) : List Json :=
  let term := Text.lower term
  if term.isEmpty then []
  else
    model.documents.toList.filter fun document =>
      model.textFields.any fun field =>
        ((document.get? field).bind Json.asString?).any fun text => occursIn term.toList (Text.lower text).toList

end Collection

end DocumentModels
