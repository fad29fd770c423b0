/-
From entities to document models.

Every field becomes a position of the same name, in the same order and nesting. Objects and arrays keep their parts;
an enum becomes a string with its members, a literal a type with one admitted value, a union a field of any value and a
node without counterpart a plain string. Nothing fails: what cannot be kept is reported as a finding.
-/
import DocumentModels.Definition.Entity
import DocumentModels.Schema.Spec
import DocumentModels.Schema.Diagnostic

namespace DocumentModels

/-- pattern that stands for an email check -/
def emailPattern : String := "^[^\\s@]+@[^\\s@]+\\.[^\\s@]+$"

/-- path of a part of `parent`; names are joined by a dot, an element's brackets are written directly after -/
def joinPath (parent name : String) : String :=
  if parent.isEmpty then name
  else if name.toList.head? = some '[' then parent ++ name
  else parent ++ "." ++ name

def elementName : String := "[]"

namespace Modifiers

/-- the rules that follow from modifiers alone -/
def rules (modifiers : Modifiers) : Rules := { required := modifiers.required, default := modifiers.default }

end Modifiers

namespace Leaf

def literalType : Json → BaseType
  | .string _ => .string
  | .number _ => .number
  | .bool _ => .boolean
  | _ => .mixed

def spec (rules : Rules) : Leaf → Spec
  | .string r =>
    .leaf { rules with
      minLength := r.minLength, maxLength := r.maxLength
      pattern := if r.email then some emailPattern else r.pattern } .string
  | .number r => .leaf { rules with min := r.min, max := r.max, integer := r.integer } .number
  | .boolean => .leaf rules .boolean
  | .date => .leaf rules .date
  | .enum members => .leaf { rules with enumValues := some (members.map .string) } .string
  | .literal value => .leaf { rules with enumValues := some [value] } (literalType value)
  | .unmodeled _ => .leaf rules .string

/-- what is found about a leaf itself -/
def findings : Leaf → List Finding
  | .enum [] => [.emptyEnum]
  | .unmodeled typeName => [.unhandledType typeName]
  | _ => []

end Leaf

namespace Field

mutual

def spec : Field → Spec
  | .leaf modifiers l => l.spec modifiers.rules
  | .array modifiers element => .array modifiers.rules element.spec
  | .object modifiers fields => .object modifiers.rules (specs fields)
  | .union modifiers _ => .leaf modifiers.rules .mixed

/-- the positions that fields declare, in order -/
def specs : List (String × Field) → List (String × Spec)
  | [] => []
  | (name, field) :: rest => (name, field.spec) :: specs rest

end

/-- the finding about the default of a field, if it does not fit the type -/
def defaultFindings (field : Field) : List Finding :=
  match field.modifiers.default with
  | some value => if field.spec.acceptsDefault value then [] else [.defaultTypeMismatch field.spec.tag]
  | none => []

mutual

/-- what is found in a field at a path: first in its parts, then about the field itself, its default last -/
def diagnose (entity path : String) : Field → List Diagnostic
  | .leaf modifiers l =>
    (l.findings ++ defaultFindings (.leaf modifiers l)).map (⟨entity, path, ·⟩)
  | .array modifiers element =>
    diagnose entity (joinPath path elementName) element
      ++ (defaultFindings (.array modifiers element)).map (⟨entity, path, ·⟩)
  | .object modifiers fields =>
    diagnoseFields entity path fields ++ (defaultFindings (.object modifiers fields)).map (⟨entity, path, ·⟩)
  | .union modifiers options =>
    (.unionFallback options.length :: defaultFindings (.union modifiers options)).map (⟨entity, path, ·⟩)

/-- what is found in the fields under a path, in order -/
def diagnoseFields (entity parent : String) : List (String × Field) → List Diagnostic
  | [] => []
  | (name, field) :: rest =>
    diagnose entity (joinPath parent name) field ++ diagnoseFields entity parent rest

end

end Field

/-- a document model with what was found on the way to it -/
structure Translation where
  schema : Schema
  diagnostics : List Diagnostic

namespace Entity

def schema (entity : Entity) : Schema := ⟨entity.name, Field.specs entity.fields⟩

def diagnostics (entity : Entity) : List Diagnostic := Field.diagnoseFields entity.name "" entity.fields

def translate (entity : Entity) : Translation := ⟨entity.schema, entity.diagnostics⟩

end Entity

end DocumentModels
