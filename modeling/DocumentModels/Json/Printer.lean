/-
JSON text of a value: compact, or laid out over lines with two spaces of indentation a level.

Strings escape the quote, the backslash and the control characters below U+0020; everything else is written as it is.
-/
import DocumentModels.Json.Number

namespace DocumentModels.Json

def hexDigit (n : Nat) : Char := (Nat.toDigits 16 n).headD '0'

/-- a character inside a string -/
def escapeChar (c : Char) : String :=
  if c = '"' then "\\\""
  else if c = '\\' then "\\\\"
  else if c = '\x08' then "\\b"
  else if c = '\x0c' then "\\f"
  else if c = '\n' then "\\n"
  else if c = '\r' then "\\r"
  else if c = '\t' then "\\t"
  else if c.toNat < 32 then "\\u00" ++ String.singleton (hexDigit (c.toNat / 16)) ++ String.singleton (hexDigit (c.toNat % 16))
  else String.singleton c

def quote (s : String) : String := "\"" ++ String.join (s.toList.map escapeChar) ++ "\""

mutual

/-- text without spaces -/
def compact : Json → String
  | .null => "null"
  | .bool true => "true"
  | .bool false => "false"
  | .number n => n.text
  | .string s => quote s
  | .array items => "[" ++ ",".intercalate (compactItems items) ++ "]"
  | .object members => "\x7b" ++ ",".intercalate (compactMembers members) ++ "\x7d"

def compactItems : List Json → List String
  | [] => []
  | item :: rest => item.compact :: compactItems rest

def compactMembers : List (String × Json) → List String
  | [] => []
  | (name, value) :: rest => (quote name ++ ":" ++ value.compact) :: compactMembers rest

end

/-- start of a line at a level -/
def newline (level : Nat) : String := "\n" ++ "".pushn ' ' (2 * level)

/-- entries between brackets, each on a line of its own -/
def block (opening closing : String) (level : Nat) (entries : List String) : String :=
  if entries.isEmpty then opening ++ closing
  else
    opening ++ ",".intercalate (entries.map (newline (level + 1) ++ ·)) ++ newline level ++ closing

mutual

/-- text over lines, for a value that starts at a level -/
def prettyAt (level : Nat) : Json → String
  | .array items => block "[" "]" level (prettyItems (level + 1) items)
  | .object members => block "\x7b" "\x7d" level (prettyMembers (level + 1) members)
  | value => value.compact

def prettyItems (level : Nat) : List Json → List String
  | [] => []
  | item :: rest => item.prettyAt level :: prettyItems level rest

def prettyMembers (level : Nat) : List (String × Json) → List String
  | [] => []
  | (name, value) :: rest => (quote name ++ ": " ++ value.prettyAt level) :: prettyMembers level rest

end

/-- text over lines -/
def pretty (value : Json) : String := value.prettyAt 0

end DocumentModels.Json
