/-
Names that follow from the name of an entity.
-/
import DocumentModels.Text.Case

namespace DocumentModels.Emit

/-- whether the character can stand inside an identifier -/
def isIdentifierChar (c : Char) : Bool := c.isAlphanum || c = '_' || c = '$'

/-- name of a model: the entity's name with its first character in upper case -/
def modelName (entity : String) : String := Text.capitalized entity

/-- identifier of an entity's schema: other characters become underscores, and no digit stands first -/
def schemaIdentifier (entity : String) : String :=
  let chars := entity.toList.map fun c => if isIdentifierChar c then c else '_'
  let lead :=
    match chars with
    | [] => ['_']
    | c :: _ => if c.isDigit then ['_'] else []
  String.ofList (lead ++ chars) ++ "Schema"

end DocumentModels.Emit
