/-
Reading TOML documents.

A document is a sequence of lines that are empty, hold a key and a value, or open a table. Loops over items and lines go
on only while the rest of the text gets shorter, and values may be nested up to a limit.
-/
import DocumentModels.Toml.Scalar
import DocumentModels.Toml.Table

namespace DocumentModels.Toml

/-- a reader of something at the beginning of a text, which returns what follows -/
abbrev Scan (α : Type) := List Char → Option (α × List Char)

def skipBlanks (chars : List Char) : List Char := chars.dropWhile fun c => c = ' ' || c = '\t'

/-- skip a comment up to the end of its line; its characters have to be plain -/
def skipComment? : List Char → Option (List Char)
  | '#' :: rest =>
    let body := rest.takeWhile fun c => c ≠ '\n' && c ≠ '\r'
    if body.all isPlain then some (rest.drop body.length) else none
  | rest => some rest

def lineEnd? : List Char → Option (List Char)
  | '\n' :: rest => some rest
  | '\r' :: '\n' :: rest => some rest
  | _ => none

/-- skip blanks, comments and line ends -/
def skipLines? (chars : List Char) : Option (List Char) := do
  let rest ← skipComment? (skipBlanks chars)
  match lineEnd? rest with
  | some next => if next.length < chars.length then skipLines? next else none
  | none => return rest
termination_by chars.length

/-- whether the character can stand in a key without quotes -/
def isBareKey (c : Char) : Bool := c.isAlphanum || c = '-' || c = '_'

def keyPart? (chars : List Char) : Option (String × List Char) :=
  let bare := chars.takeWhile isBareKey
  if bare = [] then anyString? false chars else some (String.ofList bare, chars.drop bare.length)

/-- read the parts of a dotted key -/
def key? (chars : List Char) : Option (List String × List Char) := do
  let (part, rest) ← keyPart? (skipBlanks chars)
  match skipBlanks rest with
  | '.' :: next =>
    if next.length < chars.length then
      let (parts, rest) ← key? next
      return (part :: parts, rest)
    else none
  | rest => return ([part], rest)
termination_by chars.length

/-- read the items of an array, after its bracket; a comma may follow the last one -/
def items? (item : Scan α) (chars : List Char) : Option (List α × List Char) := do
  match ← skipLines? chars with
  | ']' :: rest => return ([], rest)
  | start => do
    let (first, rest) ← item start
    match ← skipLines? rest with
    | ']' :: rest => return ([first], rest)
    | ',' :: next =>
      if next.length < chars.length then
        let (more, rest) ← items? item next
        return (first :: more, rest)
      else none
    | _ => none
termination_by chars.length

def putKey (keys : List String) (value : Value) (table : Item) : Option Item :=
  match keys.getLast? with
  | some key => table.putPath keys.dropLast key value
  | none => none

/-- read a key, an equals sign and a value -/
def assignment? (value : Scan Value) (chars : List Char) : Option ((List String × Value) × List Char) := do
  let (keys, rest) ← key? chars
  match rest with
  | '=' :: rest =>
    let (v, rest) ← value (skipBlanks rest)
    return ((keys, v), rest)
  | _ => none

/-- read the assignments of an inline table into a table; no comma may follow the last one -/
def inline? (value : Scan Value) (table : Item) (chars : List Char) : Option (Item × List Char) := do
  let ((keys, v), rest) ← assignment? value chars
  let table ← putKey keys v table
  match skipBlanks rest with
  | '\x7d' :: rest => return (table, rest)
  | ',' :: next => if next.length < chars.length then inline? value table next else none
  | _ => none
termination_by chars.length

/-- whether the character can stand in a number, date, time or word -/
def inToken (c : Char) : Bool := c.isAlphanum || c = '_' || c = '+' || c = '-' || c = '.' || c = ':'

def tokenValue? (token : List Char) : Option Value :=
  if token = ['t', 'r', 'u', 'e'] then some (.boolean true)
  else if token = ['f', 'a', 'l', 's', 'e'] then some (.boolean false)
  else
    ((dateTime? token).map .string).orElse fun _ =>
      ((float? token).map .float).orElse fun _ => (integer? token).map .integer

/-- read a token; a date and a time may be joined by a blank -/
def token? (chars : List Char) : Option (Value × List Char) :=
  let first := chars.takeWhile inToken
  let rest := chars.drop first.length
  let joined :=
    match rest with
    | ' ' :: after =>
      let second := after.takeWhile inToken
      if ((date? first).map Prod.snd) = some [] ∧ second.head?.any Char.isDigit then
        some (first ++ ' ' :: second, after.drop second.length)
      else none
    | _ => none
  let (token, rest) := joined.getD (first, rest)
  (tokenValue? token).map (·, rest)

/-- read a value that may nest `depth` more levels -/
def value? : Nat → Scan Value
  | 0, chars =>
    match chars with
    | '[' :: _ => none
    | '\x7b' :: _ => none
    | chars => scalar chars
  | depth + 1, chars =>
    match chars with
    | '[' :: rest => (items? (value? depth) rest).map fun (items, rest) => (.array items, rest)
    | '\x7b' :: rest =>
      match skipBlanks rest with
      | '\x7d' :: rest => some (.table [], rest)
      | rest => (inline? (value? depth) (.table false false []) rest).map fun (table, rest) => (table.toValue, rest)
    | chars => scalar chars
where
  /-- a string or a token -/
  scalar (chars : List Char) : Option (Value × List Char) :=
    match chars with
    | '"' :: _ | '\'' :: _ => (anyString? true chars).map fun (text, rest) => (.string text, rest)
    | chars => token? chars

/-- most levels of arrays and inline tables inside one another -/
def depthLimit : Nat := 79

/-- what is read so far: the whole document, and the path of the table that lines belong to -/
structure Document where
  root : Item
  current : List String

/-- open the table of a header -/
def Document.header? (document : Document) (keys : List String) (row : Bool) : Option Document := do
  let key ← keys.getLast?
  let root ← document.root.change false (if row then Item.openRow key else Item.openTable key) keys.dropLast
  return ⟨root, keys⟩

/-- read one line up to its end -/
def line? (document : Document) (chars : List Char) : Option (Document × List Char) := do
  let chars := skipBlanks chars
  match chars with
  | [] => return (document, chars)
  | '#' :: _ | '\n' :: _ | '\r' :: _ => return (document, chars)
  | '[' :: '[' :: rest =>
    match ← key? rest with
    | (keys, ']' :: ']' :: rest) => return (← document.header? keys true, rest)
    | _ => none
  | '[' :: rest =>
    match ← key? rest with
    | (keys, ']' :: rest) => return (← document.header? keys false, rest)
    | _ => none
  | chars =>
    let ((keys, v), rest) ← assignment? (value? depthLimit) chars
    let root ← document.root.change false (putKey keys v) document.current
    return (⟨root, document.current⟩, rest)

/-- read lines to the end of the text -/
def lines? (document : Document) (chars : List Char) : Option Document := do
  let (document, rest) ← line? document chars
  let rest ← skipComment? (skipBlanks rest)
  match rest with
  | [] => return document
  | rest =>
    let next ← lineEnd? rest
    if next.length < chars.length then lines? document next else none
termination_by chars.length

/-- the entries of a document; a byte order mark may stand before it -/
def read? (text : String) : Option (List (String × Value)) := do
  let chars :=
    match text.toList with
    | '\uFEFF' :: rest => rest
    | chars => chars
  let document ← lines? ⟨.table false false [], []⟩ chars
  match document.root with
  | .table _ _ entries => return Item.entryValues entries
  | _ => none

end DocumentModels.Toml
