/-
The canonical JSON form of a type node.

Every kind of node is written with its `type` first and its own members after it; rules are written as `min`, `max`,
`regex`, `email` and `int` checks. A node without checks has no `checks` member.
-/
import DocumentModels.Definition.Node

namespace DocumentModels.Node

/-- a JSON object that begins with its `type` -/
def tagged (typeName : String) (members : Members) : Json := .object (("type", .string typeName) :: members)

def numberCheck (kind : String) (value : Number) : Json :=
  .object [("kind", .string kind), ("value", .number value)]

def checksMember (checks : List Json) : Members := if checks.isEmpty then [] else [("checks", .array checks)]

def stringChecks (rules : StringRules) : List Json :=
  (rules.minLength.map fun n => numberCheck "min" (.int n)).toList
    ++ (rules.maxLength.map fun n => numberCheck "max" (.int n)).toList
    ++ (rules.pattern.map fun p => Json.object [("kind", .string "regex"), ("regex", .string p)]).toList
    ++ (if rules.email then [.object [("kind", .string "email")]] else [])

def numberChecks (rules : NumberRules) : List Json :=
  (rules.min.map (numberCheck "min")).toList
    ++ (rules.max.map (numberCheck "max")).toList
    ++ (if rules.integer then [.object [("kind", .string "int")]] else [])

def leafDocument : Leaf → Json
  | .string rules => tagged NodeKind.string.name (checksMember (stringChecks rules))
  | .number rules => tagged NodeKind.number.name (checksMember (numberChecks rules))
  | .boolean => tagged NodeKind.boolean.name []
  | .date => tagged NodeKind.date.name []
  | .enum members => tagged NodeKind.enum.name [("entries", .array (members.map .string))]
  | .literal value => tagged NodeKind.literal.name [("value", value)]
  | .unmodeled typeName => tagged typeName []

mutual

def document : Node → Json
  | .modified .optional inner => tagged NodeKind.optional.name [("innerType", inner.document)]
  | .modified .nullable inner => tagged NodeKind.nullable.name [("innerType", inner.document)]
  | .modified (.default value) inner =>
    tagged NodeKind.default.name [("defaultValue", value), ("innerType", inner.document)]
  | .leaf l => leafDocument l
  | .array element => tagged NodeKind.array.name [("element", element.document)]
  | .object shape => tagged NodeKind.object.name [("shape", .object (shapeDocument shape))]
  | .union options => tagged NodeKind.union.name [("options", .array (optionDocuments options))]

def shapeDocument : List (String × Node) → Members
  | [] => []
  | (name, node) :: rest => (name, node.document) :: shapeDocument rest

def optionDocuments : List Node → List Json
  | [] => []
  | node :: rest => node.document :: optionDocuments rest

end

end DocumentModels.Node
