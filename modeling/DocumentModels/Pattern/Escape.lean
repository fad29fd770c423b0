/-
Escapes of patterns, and the sets of characters that a pattern can name.
-/
import DocumentModels.Pattern.Property
import DocumentModels.Pattern.Script
import DocumentModels.Pattern.Syntax

namespace DocumentModels.Pattern

/-- the modes of a pattern, which groups can change -/
structure Flags where
  caseless : Bool := false
  multiLine : Bool := false
  dotAll : Bool := false
  swapGreed : Bool := false
  unicode : Bool := true
  crlf : Bool := false
  /-- blanks and comments between items are skipped -/
  verbose : Bool := false

/-- whether the character is a blank -/
def isSpace (c : Char) : Bool :=
  (0x09 ≤ c.toNat && c.toNat ≤ 0x0D)
    || [0x20, 0x85, 0xA0, 0x1680, 0x2028, 0x2029, 0x202F, 0x205F, 0x3000].contains c.toNat
    || (0x2000 ≤ c.toNat && c.toNat ≤ 0x200A)

/-- skip blanks, and comments from a hash to the end of the line -/
def skipBlanks (inComment : Bool) : List Char → List Char
  | [] => []
  | c :: rest =>
    if inComment then skipBlanks (c ≠ '\n') rest
    else if isSpace c then skipBlanks false rest
    else if c = '#' then skipBlanks true rest
    else c :: rest

/-- skip blanks and comments if the mode says so -/
def Flags.skip (flags : Flags) (chars : List Char) : List Char :=
  if flags.verbose then skipBlanks false chars else chars

/-- what an escape stands for -/
inductive Atom where
  /-- a character; `byte` if it was written as two hexadecimal digits -/
  | char (c : Char) (byte : Bool)
  | set (chars : CharSet)
  | look (test : Look)

/-! ## Named sets -/

/-- name of a property or value without case, blanks, underscores, hyphens and a leading `is` -/
def normalName (name : List Char) : String :=
  let lowered := name.map Char.toLower
  let (stripped, body) :=
    match lowered with
    | 'i' :: 's' :: rest => (true, rest)
    | chars => (false, chars)
  let kept := body.filter fun c => c ≠ ' ' ∧ c ≠ '_' ∧ c ≠ '-' ∧ c.toNat < 128
  if stripped ∧ kept = ['c'] then "isc" else String.ofList kept

/-- the set of a single name: a property, a general category or a script -/
def namedSet? (name : List Char) : Option CharSet :=
  let name := normalName name
  let property := if name = "cf" ∨ name = "sc" ∨ name = "lc" then none else property? name
  property.orElse fun _ => (category? name).orElse fun _ => script? name

def valueSet? (property value : List Char) : Option CharSet :=
  let value := normalName value
  match normalName property with
  | "generalcategory" | "gc" => category? value
  | "script" | "sc" => script? value
  | "scriptextensions" | "scx" => scriptExtensions? value
  | _ => none

/-- cut at the first place where `mark` stands -/
def cutAt? (mark : List Char) : List Char → Option (List Char × List Char)
  | [] => none
  | c :: rest =>
    if mark.isPrefixOf (c :: rest) then some ([], (c :: rest).drop mark.length)
    else (cutAt? mark rest).map fun (before, after) => (c :: before, after)

/-- the set between the braces of a class escape, and whether its complement is meant -/
def bracedSet? (text : List Char) : Option (CharSet × Bool) :=
  match cutAt? ['!', '='] text with
  | some (property, value) => (valueSet? property value).map (·, true)
  | none =>
    match (cutAt? [':'] text).orElse fun _ => cutAt? ['='] text with
    | some (property, value) => (valueSet? property value).map (·, false)
    | none => (namedSet? text).map (·, false)

/-! ## Classes of one letter -/

def asciiDigit : CharSet := .range 0x30 0x39
def asciiBlank : CharSet := .ranges [⟨0x09, 0x0D, 1⟩, ⟨0x20, 0x20, 1⟩]
def asciiWord : CharSet := .ranges [⟨0x61, 0x7A, 1⟩, ⟨0x41, 0x5A, 1⟩, ⟨0x30, 0x39, 1⟩, ⟨0x5F, 0x5F, 1⟩]

def anyDigit : CharSet := .union asciiDigit (NamedRanges.get categoryTable "nd")

def anyBlank : CharSet := .union asciiBlank (NamedRanges.get propertyTable "whitespace")

/-- what words are made of -/
def anyWord : CharSet :=
  .anyOf [asciiWord, alphabetic, categories ["mn", "mc", "me", "nd", "pc"], NamedRanges.get propertyTable "joincontrol"]

/-- bytes past ASCII -/
def highBytes : List Nat := (List.range 128).map (· + 128)

/-- the complement of a set; outside Unicode mode a complement within bytes, which may not leave ASCII -/
def Flags.negate? (flags : Flags) (negated : Bool) (set : CharSet) : Option CharSet :=
  let result := if negated then (if flags.unicode then .compl set else .diff (.range 0 0xFF) set) else set
  if !flags.unicode && highBytes.any result.contains then none else some result

def Flags.fold (flags : Flags) (set : CharSet) : CharSet :=
  if flags.caseless then (if flags.unicode then .caseless set else .asciiCaseless set) else set

/-- the class of `d`, `s` or `w` -/
def Flags.letterClass? (flags : Flags) (c : Char) : Option CharSet :=
  let pick (all ascii : CharSet) (negated : Bool) := flags.negate? negated (if flags.unicode then all else ascii)
  match c with
  | 'd' => pick anyDigit asciiDigit false
  | 'D' => pick anyDigit asciiDigit true
  | 's' => pick anyBlank asciiBlank false
  | 'S' => pick anyBlank asciiBlank true
  | 'w' => pick anyWord asciiWord false
  | 'W' => pick anyWord asciiWord true
  | _ => none

/-! ## Reading an escape -/

def hexDigit? (c : Char) : Option Nat :=
  if c.isDigit then some (c.toNat - '0'.toNat)
  else if 'a' ≤ c ∧ c ≤ 'f' then some (c.toNat - 'a'.toNat + 10)
  else if 'A' ≤ c ∧ c ≤ 'F' then some (c.toNat - 'A'.toNat + 10)
  else none

/-- the character of a code point, which may not be a surrogate -/
def charOf? (code : Nat) : Option Char := if code.isValidChar then some (Char.ofNat code) else none

def hexDigits? (flags : Flags) : Nat → Nat → List Char → Option (Nat × List Char)
  | 0, value, rest => some (value, rest)
  | _ + 1, _, [] => none
  | count + 1, value, c :: rest => do
    let digit ← hexDigit? c
    hexDigits? flags count (value * 16 + digit) (flags.skip rest)

/-- the text up to a closing brace, and what follows it -/
def braced? (flags : Flags) (chars : List Char) : Option (List Char × List Char) :=
  match chars.dropWhile (· ≠ '\x7d') with
  | [] => none
  | _ :: rest =>
    let inside := chars.takeWhile (· ≠ '\x7d')
    some (if flags.verbose then inside.filter (!isSpace ·) else inside, rest)

/-- read a character in hexadecimal: a fixed number of digits, or any number between braces -/
def hexChar? (flags : Flags) (count : Nat) (chars : List Char) : Option (Atom × List Char) :=
  match flags.skip chars with
  | '\x7b' :: rest => do
    let (digits, rest) ← braced? flags rest
    guard (digits ≠ [])
    let values ← digits.mapM hexDigit?
    let c ← charOf? (values.foldl (fun n d => n * 16 + d) 0)
    return (.char c false, flags.skip rest)
  | chars => do
    let (value, rest) ← hexDigits? flags count 0 chars
    let c ← charOf? value
    return (.char c (count == 2), rest)

/-- read the rest of a class escape, after its `p` or `P` -/
def classEscape? (flags : Flags) (negated : Bool) (chars : List Char) : Option (Atom × List Char) := do
  guard flags.unicode
  let ((set, complement), rest) ←
    match flags.skip chars with
    | [] => none
    | '\\' :: _ => none
    | '\x7b' :: rest => do
      let (text, rest) ← braced? flags rest
      some (← bracedSet? text, rest)
    | c :: rest => do some ((← namedSet? [c], false), flags.skip rest)
  let set ← flags.negate? (negated != complement) (flags.fold set)
  return (.set set, rest)

/-- whether the character can be escaped to stand for itself: ASCII but no letter, digit or angle -/
def isEscapable (c : Char) : Bool := c.toNat < 128 && !c.isAlphanum && c ≠ '<' && c ≠ '>'

/-- a test of words, after the `b` of an escape: braces may name a special kind of boundary -/
def boundary? (flags : Flags) (chars : List Char) : Option (Atom × List Char) :=
  let ascii := !flags.unicode
  let plain := some (Atom.look (.wordBoundary ascii), chars)
  match chars with
  | '\x7b' :: rest =>
    match flags.skip rest with
    | [] => none
    | c :: after =>
      if c.isAlpha ∨ c = '-' then do
        let (name, rest) ← braced? flags (c :: after)
        let look ←
          match String.ofList name with
          | "start" => some (Look.wordStart ascii)
          | "end" => some (Look.wordEnd ascii)
          | "start-half" => some (Look.wordStartHalf ascii)
          | "end-half" => some (Look.wordEndHalf ascii)
          | _ => none
        return (.look look, rest)
      else plain
  | _ => plain

def escape? (flags : Flags) : List Char → Option (Atom × List Char)
  | [] => none
  | c :: rest =>
    let ascii := !flags.unicode
    if isEscapable c then some (.char c false, rest)
    else
      match c with
      | 'x' => hexChar? flags 2 rest
      | 'u' => hexChar? flags 4 rest
      | 'U' => hexChar? flags 8 rest
      | 'p' => classEscape? flags false rest
      | 'P' => classEscape? flags true rest
      | 'd' | 'D' | 's' | 'S' | 'w' | 'W' => (flags.letterClass? c).map fun set => (.set set, rest)
      | 'a' => some (.char '\x07' false, rest)
      | 'f' => some (.char '\x0c' false, rest)
      | 't' => some (.char '\t' false, rest)
      | 'n' => some (.char '\n' false, rest)
      | 'r' => some (.char '\r' false, rest)
      | 'v' => some (.char '\x0b' false, rest)
      | 'A' => some (.look .textStart, rest)
      | 'z' => some (.look .textEnd, rest)
      | 'b' => boundary? flags rest
      | 'B' => some (.look (.notWordBoundary ascii), rest)
      | '<' => some (.look (.wordStart ascii), rest)
      | '>' => some (.look (.wordEnd ascii), rest)
      | _ => none

end DocumentModels.Pattern
