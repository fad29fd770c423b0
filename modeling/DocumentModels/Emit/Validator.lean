/-
Collection validators: the rules of a document model as a `$jsonSchema` document for the database.

Fields that the database or the time stamps manage are left out at top level. A field that is not required may be
stored as null, so its type and its admitted values include null. A name that is declared twice has one validator, the last
one.
-/
import DocumentModels.Schema.Spec

namespace DocumentModels.Emit

/-- top-level fields that are managed for the application -/
def managedFields : List String := ["_id", "createdAt", "updatedAt"]

/-- name of a leaf's type in the database; a mixed field has none -/
def bsonName? : BaseType → Option String
  | .string => some "string"
  | .number => some "number"
  | .boolean => some "bool"
  | .date => some "date"
  | .mixed => none

def bsonType (name : String) (nullable : Bool) : Members :=
  [("bsonType", if nullable then .array [.string name, .string "null"] else .string name)]

/-- the admitted values, with null if the field may be null -/
def admitted (values : List Json) (nullable : Bool) : List Json :=
  if nullable && !Json.null.isIn values then values ++ [.null] else values

def ruleMembers (rules : Rules) (nullable : Bool) : Members :=
  (rules.enumValues.map fun values => ("enum", Json.array (admitted values nullable))).toList
    ++ (rules.min.map fun n => ("minimum", Json.number n)).toList
    ++ (rules.max.map fun n => ("maximum", Json.number n)).toList
    ++ (if rules.integer then [("multipleOf", Json.ofNat 1)] else [])
    ++ (rules.minLength.map fun n => ("minLength", Json.ofNat n)).toList
    ++ (rules.maxLength.map fun n => ("maxLength", Json.ofNat n)).toList
    ++ (rules.pattern.map fun p => ("pattern", Json.string p)).toList

def requiredNames (fields : List (String × Spec)) : List String :=
  (fields.filter fun field => field.2.rules.required).map Prod.fst

/-- the `required` member, if a field is required -/
def requiredMember (fields : List (String × Spec)) : Members :=
  let names := requiredNames fields
  if names.isEmpty then [] else [("required", .array (names.map .string))]

mutual

def positionMembers (nullable : Bool) : Spec → Members
  | .leaf rules type =>
    (match bsonName? type with
      | some name => bsonType name nullable
      | none => [])
      ++ ruleMembers rules nullable
  | .array rules element =>
    bsonType "array" nullable ++ [("items", .object (positionMembers false element))] ++ ruleMembers rules nullable
  | .object rules fields =>
    bsonType "object" nullable ++ requiredMember fields
      ++ [("properties", .object (Members.overlay [] (propertyMembers fields)))]
      ++ ruleMembers rules nullable

def propertyMembers : List (String × Spec) → Members
  | [] => []
  | (name, spec) :: rest =>
    (name, .object (positionMembers (!spec.rules.required) spec)) :: propertyMembers rest

end

def objectValidator (fields : List (String × Spec)) : Json :=
  .object (bsonType "object" false ++ requiredMember fields
    ++ [("properties", .object (Members.overlay [] (propertyMembers fields)))])

def validator (schema : Schema) : Json :=
  .object [("$jsonSchema", objectValidator (schema.fields.filter fun field => !managedFields.contains field.1))]

end DocumentModels.Emit
