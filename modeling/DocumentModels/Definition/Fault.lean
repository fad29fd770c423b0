/-
What can be wrong with a definition, and how it is said.
-/
namespace DocumentModels

/-- a fault of one node -/
inductive NodeFault where
  | notObject
  | noType
  | noDefaultValue
  | noInnerType
  | noLiteralValue
  | literalNotScalar
  | noElement
  | shapeNotObject
  | noOptions
  | noEntries
  | memberNotString
  | checksNotArray
  | checkNotObject
  | checkWithoutKind
  | checkNotNumeric (kind : String)
  | lengthNotNatural (kind : String)
  | noPattern
  /-- the node that stands for the whole entity is not an object -/
  | primaryNotObject (entity typeName : String)
  /-- the node that stands for the whole entity is under a modifier -/
  | primaryModified (entity : String)
  deriving DecidableEq

namespace NodeFault

def message : NodeFault → String
  | notObject => "expected a type node object"
  | noType => "missing string `type` tag"
  | noDefaultValue => "`default` node without `defaultValue`"
  | noInnerType => "modifier node without `innerType`"
  | noLiteralValue => "`literal` node without `value`"
  | literalNotScalar => "literal value must be a scalar"
  | noElement => "`array` node without `element`"
  | shapeNotObject => "`shape` must be an object"
  | noOptions => "`union` node without `options`"
  | noEntries => "`enum` node without `entries`"
  | memberNotString => "enum members must be strings"
  | checksNotArray => "`checks` must be an array"
  | checkNotObject => "check must be an object"
  | checkWithoutKind => "check without `kind`"
  | checkNotNumeric kind => "`" ++ kind ++ "` check needs a numeric `value`"
  | lengthNotNatural kind => "`" ++ kind ++ "` length must be a non-negative integer"
  | noPattern => "`regex` check without `regex`"
  | primaryNotObject entity typeName =>
    "primary schema of `" ++ entity ++ "` is `" ++ typeName ++ "`, expected `object`"
  | primaryModified entity => "primary schema of `" ++ entity ++ "` is wrapped in a modifier, expected `object`"

end NodeFault

/-- why a definition is refused -/
inductive DefinitionError where
  /-- the document holds no type node -/
  | noSchema (entity : String)
  /-- a node is malformed; the path leads to it from `$` -/
  | invalidNode (path : String) (fault : NodeFault)
  deriving DecidableEq

namespace DefinitionError

def message : DefinitionError → String
  | noSchema entity => "Failed to load " ++ entity ++ ": no schema object exported"
  | invalidNode path fault => "Invalid type node at " ++ path ++ ": " ++ fault.message

end DefinitionError

end DocumentModels
