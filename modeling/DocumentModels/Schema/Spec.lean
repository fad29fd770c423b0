/-
The vocabulary of document models: what a model declares about one position of a document.
-/
import DocumentModels.Json.Printer

namespace DocumentModels

/-- a type without parts; `mixed` admits any value -/
inductive BaseType where
  | string | number | boolean | date | mixed
  deriving DecidableEq

/-- what is declared about a position besides its type -/
structure Rules where
  required : Bool
  /-- `none` is no default; a default of null, false, zero or the empty string is a default -/
  default : Option Json := none
  min : Option Number := none
  max : Option Number := none
  integer : Bool := false
  minLength : Option Nat := none
  maxLength : Option Nat := none
  pattern : Option String := none
  enumValues : Option (List Json) := none

/-- type and rules of one position -/
inductive Spec where
  | leaf (rules : Rules) (type : BaseType)
  | array (rules : Rules) (element : Spec)
  | object (rules : Rules) (fields : List (String × Spec))

namespace BaseType

def tag : BaseType → String
  | string => "String"
  | number => "Number"
  | boolean => "Boolean"
  | date => "Date"
  | mixed => "Mixed"

end BaseType

namespace Spec

def rules : Spec → Rules
  | .leaf r _ | .array r _ | .object r _ => r

def tag : Spec → String
  | .leaf _ type => type.tag
  | .array _ _ => "Array"
  | .object _ _ => "Object"

/-- whether a default of this value is plausible; null always is -/
def acceptsDefault : Spec → Json → Bool
  | _, .null => true
  | .leaf _ .mixed, _ => true
  | .leaf _ .string, .string _ => true
  | .leaf _ .number, .number _ => true
  | .leaf _ .boolean, .bool _ => true
  | .leaf _ .date, .string _ => true
  | .leaf _ .date, .number _ => true
  | .array _ _, .array _ => true
  | .object _ _, .object _ => true
  | _, _ => false

def element? : Spec → Option Spec
  | .array _ element => some element
  | _ => none

/-- the fields of an object, or of the objects in an array -/
def nestedFields? : Spec → Option (List (String × Spec))
  | .object _ fields => some fields
  | .array _ element => element.nestedFields?
  | .leaf _ _ => none

end Spec

/-- a named document model: its fields, in order -/
structure Schema where
  name : String
  fields : List (String × Spec)

namespace Schema

def fieldNames (schema : Schema) : List String := schema.fields.map Prod.fst

def hasField (schema : Schema) (name : String) : Bool := schema.fieldNames.contains name

end Schema

/-! ## JSON form -/

namespace Rules

/-- the rules in their fixed order; only `required` is always there -/
def members (rules : Rules) : Members :=
  [("required", .bool rules.required)]
    ++ (rules.default.map fun v => ("default", v)).toList
    ++ (rules.min.map fun n => ("min", Json.number n)).toList
    ++ (rules.max.map fun n => ("max", Json.number n)).toList
    ++ (if rules.integer then [("integer", .bool true)] else [])
    ++ (rules.minLength.map fun n => ("min_length", Json.ofNat n)).toList
    ++ (rules.maxLength.map fun n => ("max_length", Json.ofNat n)).toList
    ++ (rules.pattern.map fun p => ("pattern", Json.string p)).toList
    ++ (rules.enumValues.map fun vs => ("enum_values", Json.array vs)).toList

end Rules

namespace Spec

mutual

/-- type, parts and rules of a position as members of an object -/
def members : Spec → Members
  | .leaf rules type => ("type", .string type.tag) :: rules.members
  | .array rules element => ("type", .string "Array") :: ("of", .object element.members) :: rules.members
  | .object rules fields => ("type", .string "Object") :: ("of", .array (fieldItems fields)) :: rules.members

/-- the fields of an object, each an object that begins with its name -/
def fieldItems : List (String × Spec) → List Json
  | [] => []
  | (name, spec) :: rest => .object (("name", .string name) :: spec.members) :: fieldItems rest

end

end Spec

def Schema.json (schema : Schema) : Json :=
  .object [("name", .string schema.name), ("fields", .array (Spec.fieldItems schema.fields))]

end DocumentModels
