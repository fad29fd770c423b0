/-
Type nodes: what a definition file says about one position of a document.

A node is a leaf (a scalar type with its rules), an array, an object with a shape, a union, or a node under a modifier.
Modifiers may be stacked in any order and number.
-/
import DocumentModels.Json.Basic

namespace DocumentModels

/-- rules collected from the checks of a string node -/
structure StringRules where
  minLength : Option Nat := none
  maxLength : Option Nat := none
  pattern : Option String := none
  email : Bool := false
  deriving DecidableEq

/-- rules collected from the checks of a number node -/
structure NumberRules where
  min : Option Number := none
  max : Option Number := none
  integer : Bool := false
  deriving DecidableEq

/-- a type without parts -/
inductive Leaf where
  | string (rules : StringRules)
  | number (rules : NumberRules)
  | boolean
  | date
  | enum (members : List String)
  | literal (value : Json)
  /-- a kind of node that has no counterpart in a document model, such as a tuple -/
  | unmodeled (typeName : String)

/-- a layer around a node -/
inductive Modifier where
  | optional
  | nullable
  | default (value : Json)

inductive Node where
  | modified (modifier : Modifier) (inner : Node)
  | leaf (leaf : Leaf)
  | array (element : Node)
  | object (shape : List (String × Node))
  | union (options : List Node)

/-- the kinds of node that a definition can name and this library models -/
inductive NodeKind where
  | optional | nullable | default
  | string | number | boolean | date | enum | literal
  | array | object | union
  deriving DecidableEq

namespace NodeKind

def name : NodeKind → String
  | optional => "optional"
  | nullable => "nullable"
  | default => "default"
  | string => "string"
  | number => "number"
  | boolean => "boolean"
  | date => "date"
  | enum => "enum"
  | literal => "literal"
  | array => "array"
  | object => "object"
  | union => "union"

def all : List NodeKind :=
  [optional, nullable, default, string, number, boolean, date, enum, literal, array, object, union]

def ofName? (tag : String) : Option NodeKind := all.find? (·.name == tag)

end NodeKind

namespace Leaf

def typeName : Leaf → String
  | .string _ => NodeKind.string.name
  | .number _ => NodeKind.number.name
  | .boolean => NodeKind.boolean.name
  | .date => NodeKind.date.name
  | .enum _ => NodeKind.enum.name
  | .literal _ => NodeKind.literal.name
  | .unmodeled typeName => typeName

end Leaf

namespace Node

/-- the node under all modifiers -/
def core : Node → Node
  | .modified _ inner => inner.core
  | node => node

/-- the modifiers around a node, outermost first -/
def layers : Node → List Modifier
  | .modified modifier inner => modifier :: inner.layers
  | _ => []

end Node

end DocumentModels
