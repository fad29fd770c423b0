/-
Settings from environment variables.

A variable counts if its name begins with `MODELGEN__`, in any case; two underscores part a section from a key. A value
is read as a flag, an integer or a number if it looks like one; only the list of text fields is cut at commas.
-/
import DocumentModels.Settings.Layer
import DocumentModels.Toml.Scalar

namespace DocumentModels.Settings

open Toml

/-- what the names of the variables begin with, in lower case -/
def variableStart : List Char := "modelgen__".toList

/-- replace every pair of underscores by a dot -/
def dotted : List Char → List Char
  | [] => []
  | '_' :: '_' :: rest => '.' :: dotted rest
  | c :: rest => c :: dotted rest

/-- the dotted name of a variable -/
def variableName? (name : String) : Option String :=
  let chars := (Text.lower name).toList
  if variableStart.isPrefixOf chars then some (String.ofList (dotted (chars.drop variableStart.length))) else none

/-- an integer of 64 bits with an optional sign -/
def integer? (chars : List Char) : Option Int :=
  let (negative, digits) := signed chars
  if digits ≠ [] ∧ digits.all Char.isDigit then
    let n := natOf 10 digits
    bounded? (if negative then -(n : Int) else n)
  else none

/-- the exponent part of a number, which may be missing -/
def exponentPart? (chars : List Char) : Option Int :=
  match chars with
  | [] => some 0
  | c :: rest =>
    let (negative, digits) := signed rest
    if (c = 'e' ∨ c = 'E') ∧ digits ≠ [] ∧ digits.all Char.isDigit then
      some (if negative then -(natOf 10 digits : Int) else natOf 10 digits)
    else none

/-- a number with an optional sign, fraction and exponent; digits may be missing on one side of the point -/
def number? (chars : List Char) : Option FloatValue := do
  let (negative, body) := signed chars
  let word := String.ofList (body.map Char.toLower)
  if word = "inf" ∨ word = "infinity" then return .infinite negative
  if word = "nan" then return .nan
  let whole := body.takeWhile Char.isDigit
  let rest := body.dropWhile Char.isDigit
  let (fraction, rest) :=
    match rest with
    | '.' :: rest => (rest.takeWhile Char.isDigit, rest.dropWhile Char.isDigit)
    | rest => ([], rest)
  guard (whole ++ fraction ≠ [])
  let exponent ← exponentPart? rest
  return FloatValue.ofDecimal negative (natOf 10 (whole ++ fraction)) (exponent - fraction.length)

/-- name of the setting whose value is cut at commas -/
def listName : String := "indexes.text_fields"

def variableValue (name text : String) : Value :=
  let word := Text.lower text
  if word = "true" then .boolean true
  else if word = "false" then .boolean false
  else
    match integer? text.toList with
    | some i => .integer i
    | none =>
      match number? text.toList with
      | some x => .float x
      | none =>
        if name = listName then
          .array ((Files.Path.splitChars ',' text.toList).map fun item => .string (String.ofList item))
        else .string text

def environmentLayer (environment : List (String × String)) : Layer :=
  environment.filterMap fun entry => (variableName? entry.1).map fun name => (name, variableValue name entry.2)

end DocumentModels.Settings
