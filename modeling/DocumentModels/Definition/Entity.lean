/-
Entities: the fields of one document type, with the modifiers of every position gathered.

A field keeps which modifiers its node was under and the value of the outermost default, which is the one that fills a
missing value. Anything that admits absence, null or a default makes the field not required.
-/
import DocumentModels.Definition.Decode

namespace DocumentModels

/-- the modifiers gathered around one position -/
structure Modifiers where
  optional : Bool := false
  nullable : Bool := false
  default : Option Json := none

namespace Modifiers

/-- add a layer that lies inside those gathered so far; the outermost default stays -/
def add (outer : Modifiers) : Modifier → Modifiers
  | .optional => { outer with optional := true }
  | .nullable => { outer with nullable := true }
  | .default value => { outer with default := outer.default.or (some value) }

/-- whether a value must be given -/
def required (modifiers : Modifiers) : Bool :=
  !modifiers.optional && !modifiers.nullable && modifiers.default.isNone

end Modifiers

namespace Node

def modifiers (node : Node) : Modifiers := node.layers.foldl Modifiers.add {}

end Node

/-- one position of an entity: its modifiers, and a leaf, an array, an object or a union -/
inductive Field where
  | leaf (modifiers : Modifiers) (leaf : Leaf)
  | array (modifiers : Modifiers) (element : Field)
  | object (modifiers : Modifiers) (fields : List (String × Field))
  | union (modifiers : Modifiers) (options : List Field)

namespace Field

def modifiers : Field → Modifiers
  | .leaf m _ | .array m _ | .object m _ | .union m _ => m

def required (field : Field) : Bool := field.modifiers.required

mutual

/-- the field of a node that lies inside the given modifiers -/
def within (outer : Modifiers) : Node → Field
  | .modified modifier inner => within (outer.add modifier) inner
  | .leaf l => .leaf outer l
  | .array element => .array outer (within {} element)
  | .object shape => .object outer (ofShape shape)
  | .union options => .union outer (ofOptions options)

def ofShape : List (String × Node) → List (String × Field)
  | [] => []
  | (name, node) :: rest => (name, within {} node) :: ofShape rest

def ofOptions : List Node → List Field
  | [] => []
  | node :: rest => within {} node :: ofOptions rest

end

def ofNode (node : Node) : Field := within {} node

end Field

/-- a named document type and its fields, in order -/
structure Entity where
  name : String
  fields : List (String × Field)

namespace Entity

/-- the entity of a node, which must be an object without modifier -/
def ofNode (name : String) : Node → Except DefinitionError Entity
  | .object shape => .ok ⟨name, Field.ofShape shape⟩
  | .modified _ _ => .error (.invalidNode "$" (.primaryModified name))
  | .leaf l => .error (.invalidNode "$" (.primaryNotObject name l.typeName))
  | .array _ => .error (.invalidNode "$" (.primaryNotObject name NodeKind.array.name))
  | .union _ => .error (.invalidNode "$" (.primaryNotObject name NodeKind.union.name))

/-- the node that a document is about: itself, or the first member that is a node -/
def primary? (definition : Json) : Option Json :=
  if Node.isNode definition then some definition
  else (definition.asObject?.getD []).findSome? fun member => if Node.isNode member.2 then some member.2 else none

def ofDefinition (name : String) (definition : Json) : Except DefinitionError Entity := do
  match primary? definition with
  | none => throw (.noSchema name)
  | some primary => ofNode name (← Node.decode primary)

end Entity

end DocumentModels
