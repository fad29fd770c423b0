/-
Findings about a translation: fallbacks and doubtful declarations, each at the path of a field.
-/
import DocumentModels.Json.Basic

namespace DocumentModels

/-- how grave a finding is -/
inductive Severity where
  | info
  | warning
  deriving DecidableEq

/-- what was found -/
inductive Finding where
  /-- a union became a field of any value -/
  | unionFallback (branches : Nat)
  /-- a kind of node without counterpart became a string -/
  | unhandledType (typeName : String)
  /-- a default does not fit the type of its field -/
  | defaultTypeMismatch (expected : String)
  /-- an enum has no members -/
  | emptyEnum
  deriving DecidableEq

namespace Severity

def name : Severity → String
  | info => "info"
  | warning => "warning"

end Severity

namespace Finding

def code : Finding → String
  | unionFallback _ => "I001"
  | unhandledType _ => "W001"
  | defaultTypeMismatch _ => "W002"
  | emptyEnum => "W003"

def kindName : Finding → String
  | unionFallback _ => "UnionFallback"
  | unhandledType _ => "UnhandledType"
  | defaultTypeMismatch _ => "DefaultTypeMismatch"
  | emptyEnum => "EmptyEnum"

def severity : Finding → Severity
  | unionFallback _ => .info
  | _ => .warning

def message : Finding → String
  | unionFallback branches => "union of " ++ toString branches ++ " branches stored as Mixed"
  | unhandledType typeName => "unhandled type `" ++ typeName ++ "` translated to String"
  | defaultTypeMismatch expected => "default value is not a " ++ expected
  | emptyEnum => "enum has no members; every value will be rejected"

end Finding

/-- a finding, placed in an entity -/
structure Diagnostic where
  entity : String
  path : String
  finding : Finding
  deriving DecidableEq

namespace Diagnostic

def severity (item : Diagnostic) : Severity := item.finding.severity

/-- one line for an operator -/
def line (item : Diagnostic) : String :=
  "[" ++ item.finding.code ++ "] " ++ item.severity.name ++ ": " ++ item.entity ++ "." ++ item.path ++ ": "
    ++ item.finding.message

def json (item : Diagnostic) : Json :=
  .object [("entity", .string item.entity), ("field_path", .string item.path), ("code", .string item.finding.kindName),
    ("message", .string item.finding.message)]

/-- the findings that are warnings, in order -/
def warnings (items : List Diagnostic) : List Diagnostic := items.filter (·.severity = .warning)

/-- the findings that are only informative, in order -/
def infos (items : List Diagnostic) : List Diagnostic := items.filter (·.severity = .info)

/-- all lines, each ended -/
def report (items : List Diagnostic) : String := String.join (items.map fun item => item.line ++ "\n")

end Diagnostic

end DocumentModels
