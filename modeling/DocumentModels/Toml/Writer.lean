/-
TOML text of strings and lists.

A string is written in the plainest form that needs no escape: between double quotes, single quotes, triple double
quotes or triple single quotes, tried in this order. If control characters force escapes, the form with double quotes is
taken, a triple one if the text spans lines.
-/
namespace DocumentModels.Toml

def longestRun (c : Char) (chars : List Char) : Nat :=
  (chars.foldl (fun (best, run) d => if d = c then (max best (run + 1), run + 1) else (best, 0)) (0, 0)).1

def isControl (c : Char) : Bool := (c.toNat < 32 && c ≠ '\t' && c ≠ '\n') || c.toNat = 127

/-- how a string is written -/
inductive Form where
  | basic
  | literal
  | longBasic
  | longLiteral
  deriving DecidableEq

def formOf (chars : List Char) : Form :=
  let control := chars.any isControl
  let backslash := chars.contains '\\'
  let newline := chars.contains '\n'
  let double := longestRun '"' chars
  let single := longestRun '\'' chars
  if !control && !backslash && double = 0 && !newline then .basic
  else if !control && single = 0 && !newline then .literal
  else if !control && !backslash && double ≤ 2 then .longBasic
  else if !control && single ≤ 2 then .longLiteral
  else if newline then .longBasic
  else .basic

def hex4 (n : Nat) : String :=
  let digits := (Nat.toDigits 16 n).map Char.toUpper
  "".pushn '0' (4 - digits.length) ++ String.ofList digits

/-- the characters between double quotes; `quotes` were written without escape just before -/
def escaped (long : Bool) (quotes : Nat) : List Char → String
  | [] => ""
  | c :: rest =>
    if c = '"' then
      if (if long then 2 else 0) < quotes + 1 then "\\\"" ++ escaped long 0 rest else "\"" ++ escaped long (quotes + 1) rest
    else
      let text :=
        if c = '\x08' then "\\b"
        else if c = '\t' then "\\t"
        else if c = '\n' then (if long then "\n" else "\\n")
        else if c = '\x0c' then "\\f"
        else if c = '\r' then "\\r"
        else if c = '\\' then "\\\\"
        else if isControl c then "\\u" ++ hex4 c.toNat
        else String.singleton c
      text ++ escaped long 0 rest

def stringText (s : String) : String :=
  let chars := s.toList
  let lead := if chars.contains '\n' then "\n" else ""
  match formOf chars with
  | .basic => "\"" ++ escaped false 0 chars ++ "\""
  | .literal => "'" ++ s ++ "'"
  | .longBasic => "\"\"\"" ++ lead ++ escaped true 0 chars ++ "\"\"\""
  | .longLiteral => "'''" ++ lead ++ s ++ "'''"

/-- a list of strings: on one line if it has at most one item, else one item a line -/
def listText : List String → String
  | [] => "[]"
  | [item] => "[" ++ stringText item ++ "]"
  | items => "[\n" ++ String.join (items.map fun item => "    " ++ stringText item ++ ",\n") ++ "]"

end DocumentModels.Toml
