/-
Literals of the emitted modules: object keys, quoted strings and regular expressions.
-/
import DocumentModels.Emit.Name
import DocumentModels.Json.Printer

namespace DocumentModels.Emit

/-- whether the name can be an object key without quotes -/
def isIdentifier (name : String) : Bool :=
  match name.toList with
  | [] => false
  | c :: rest => (c.isAlpha || c = '_' || c = '$') && rest.all isIdentifierChar

/-- an object key, quoted only when it has to be -/
def objectKey (name : String) : String := if isIdentifier name then name else Json.quote name

def singleQuotedChar (c : Char) : List Char :=
  if c = '\\' then ['\\', '\\']
  else if c = '\'' then ['\\', '\'']
  else if c = '\n' then ['\\', 'n']
  else [c]

def singleQuoted (s : String) : String := String.ofList ('\'' :: s.toList.flatMap singleQuotedChar ++ ['\''])

/-- the body of a regular expression: slashes and line feeds are escaped, what a backslash escapes is kept -/
def regexBody : List Char → List Char
  | [] => []
  | ['\\'] => ['\\']
  | '\\' :: c :: rest => '\\' :: c :: regexBody rest
  | c :: rest =>
    if c = '/' then '\\' :: '/' :: regexBody rest
    else if c = '\n' then '\\' :: 'n' :: regexBody rest
    else c :: regexBody rest

/-- a regular expression between slashes; the empty one is an empty group -/
def regexLiteral (pattern : String) : String :=
  if pattern.isEmpty then "/(?:)/" else String.ofList ('/' :: regexBody pattern.toList ++ ['/'])

end DocumentModels.Emit
