/-
Emitted modules: the source text that declares a document model.

A module declares the schema with one entry a field, then its indexes, then exports the model. Entries keep the order of
the fields and options a fixed order; an entry is written on one line unless one of its options spans lines.
-/
import DocumentModels.Emit.Literal
import DocumentModels.Schema.Index

namespace DocumentModels

def BaseType.expression : BaseType → String
  | .mixed => "mongoose.Schema.Types.Mixed"
  | type => type.tag

/-- how a direction is written as the value of a key -/
def Direction.keyLiteral : Direction → String
  | .ascending => "1"
  | .descending => "-1"
  | .text => "'text'"

namespace Emit

/-- spaces at the start of a line -/
def indent (depth : Nat) : String := "".pushn ' ' (2 * depth)

/-- lines between braces, the closing one a level further out -/
def braces (depth : Nat) (lines : String) : String := "\x7b\n" ++ lines ++ indent (depth - 1) ++ "\x7d"

def constraintOptions (rules : Rules) : List String :=
  (rules.minLength.map fun n => "minlength: " ++ toString n).toList
    ++ (rules.maxLength.map fun n => "maxlength: " ++ toString n).toList
    ++ (rules.min.map fun n => "min: " ++ n.text).toList
    ++ (rules.max.map fun n => "max: " ++ n.text).toList
    ++ (if rules.integer then ["validate: Number.isInteger"] else [])
    ++ (rules.pattern.map fun p => "match: " ++ regexLiteral p).toList
    ++ (rules.enumValues.map fun values => "enum: " ++ (Json.array values).compact).toList

/-- the options that say whether a value must be given and what fills a missing one -/
def modifierOptions (rules : Rules) : List String :=
  ("required: " ++ toString rules.required) :: (rules.default.map fun value => "default: " ++ value.compact).toList

/-- whether no rule on values is declared -/
def isBare (rules : Rules) : Bool := (constraintOptions rules).isEmpty

/-- options between braces, on one line unless one of them spans lines -/
def optionsText (depth : Nat) (options : List String) : String :=
  if options.any (·.toList.contains '\n') then
    "\x7b\n" ++ String.join (options.map fun option => indent (depth + 1) ++ option ++ ",\n") ++ indent depth ++ "\x7d"
  else "\x7b " ++ ", ".intercalate options ++ " \x7d"

/-- all options of a field whose type is written as `type` -/
def fieldOptions (depth : Nat) (rules : Rules) (type : String) : String :=
  optionsText depth (("type: " ++ type) :: constraintOptions rules ++ modifierOptions rules)

/-- the options of an array's element whose type is written as `type` -/
def elementOptions (depth : Nat) (rules : Rules) (type : String) : String :=
  optionsText depth (("type: " ++ type) :: constraintOptions rules)

mutual

def fieldLines (depth : Nat) : List (String × Spec) → String
  | [] => ""
  | (name, spec) :: rest =>
    indent depth ++ objectKey name ++ ": " ++ fieldText depth spec ++ ",\n" ++ fieldLines depth rest

/-- what is declared about a field whose key stands at a depth -/
def fieldText (depth : Nat) : Spec → String
  | .leaf rules type => fieldOptions depth rules type.expression
  | .array rules element => fieldOptions depth rules ("[" ++ elementText (depth + 1) element ++ "]")
  | .object rules fields => fieldOptions depth rules (braces (depth + 2) (fieldLines (depth + 2) fields))

/-- what is declared about the element of an array that stands at a depth -/
def elementText (depth : Nat) : Spec → String
  | .leaf rules type =>
    if isBare rules then type.expression else elementOptions depth rules type.expression
  | .array rules element =>
    if isBare rules then "[" ++ elementText depth element ++ "]"
    else elementOptions depth rules ("[" ++ elementText (depth + 1) element ++ "]")
  | .object _ fields => braces (depth + 1) (fieldLines (depth + 1) fields)

end

/-- test that a field is part of the schema -/
def pathGuard (ident : String) (index : Index) : String := ident ++ ".path(" ++ singleQuoted index.field ++ ")"

def indexKey (index : Index) : String := objectKey index.field ++ ": " ++ index.direction.keyLiteral

/-- a statement that declares one index over the given keys, if all of them are part of the schema -/
def indexStatement (ident : String) (indexes : List Index) : String :=
  "if (" ++ " && ".intercalate (indexes.map (pathGuard ident)) ++ ") " ++ ident ++ ".index(\x7b "
    ++ ", ".intercalate (indexes.map indexKey) ++ " \x7d);\n"

/-- the statements of an index list: one for each key with a direction, then one for all text keys together -/
def indexStatements (ident : String) (indexes : List Index) : String :=
  let keyed := indexes.filter (!·.isText)
  let text := indexes.filter (·.isText)
  String.join (keyed.map fun index => indexStatement ident [index])
    ++ (if text.isEmpty then "" else indexStatement ident text)

def indexSection (ident : String) (indexes : List Index) : String :=
  if indexes.isEmpty then "" else "\n// Indexes\n" ++ indexStatements ident indexes

def moduleText (entity : String) (fields : List (String × Spec)) (indexes : List Index) (timestamps : Bool) : String :=
  let ident := schemaIdentifier entity
  "const mongoose = require('mongoose');\n\n"
    ++ "const " ++ ident ++ " = new mongoose.Schema(" ++ braces 1 (fieldLines 1 fields) ++ ", \x7b\n"
    ++ indent 1 ++ "timestamps: " ++ toString timestamps ++ "\n\x7d);\n"
    ++ indexSection ident indexes
    ++ "\nmodule.exports = mongoose.model(" ++ singleQuoted (modelName entity) ++ ", " ++ ident ++ ");\n"

end Emit

end DocumentModels
