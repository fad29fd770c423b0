/-
TOML strings, numbers, dates and times as text.
-/
import DocumentModels.Toml.Value

namespace DocumentModels.Toml

/-! ## Strings -/

/-- whether the character can stand in a comment or in a string as it is -/
def isPlain (c : Char) : Bool := (32 ≤ c.toNat && c.toNat ≠ 127) || c = '\t'

def hexValue? (c : Char) : Option Nat :=
  if c.isDigit then some (c.toNat - '0'.toNat)
  else if 'a' ≤ c ∧ c ≤ 'f' then some (c.toNat - 'a'.toNat + 10)
  else if 'A' ≤ c ∧ c ≤ 'F' then some (c.toNat - 'A'.toNat + 10)
  else none

def shortEscape? (c : Char) : Option Char :=
  [('b', '\x08'), ('t', '\t'), ('n', '\n'), ('f', '\x0c'), ('r', '\r'), ('"', '"'), ('\\', '\\')].lookup c

/-- the character that hexadecimal digits name, which may not be a surrogate -/
def charOfHex? (digits : List Char) : Option Char := do
  let values ← digits.mapM hexValue?
  let code := values.foldl (fun n d => n * 16 + d) 0
  if code.isValidChar then some (Char.ofNat code) else none

/-- read an escape after its backslash, with the number of characters it takes -/
def escape? : List Char → Option (Char × Nat)
  | [] => none
  | 'u' :: rest => if rest.length < 4 then none else (charOfHex? (rest.take 4)).map (·, 5)
  | 'U' :: rest => if rest.length < 8 then none else (charOfHex? (rest.take 8)).map (·, 9)
  | c :: _ => (shortEscape? c).map (·, 1)

/-- whether only blanks stand before the next line feed -/
def blankToLineEnd : List Char → Bool
  | [] => false
  | c :: rest => c = '\n' || ((c = ' ' || c = '\t' || c = '\r') && blankToLineEnd rest)

/-- read a string up to its closing mark: one character, or three of them in a long string. `skip` more characters are
passed over, being part of what was read before; `trim` passes over blanks and line ends after an escaped line end -/
def string? (mark : Char) (long escapes : Bool) : Nat → Bool → List Char → List Char → Option (List Char × List Char)
  | _, _, _, [] => none
  | skip + 1, trim, acc, _ :: rest => string? mark long escapes skip trim acc rest
  | 0, trim, acc, c :: rest =>
    if trim && (c = ' ' || c = '\t' || c = '\n' || (c = '\r' && rest.head? = some '\n')) then
      string? mark long escapes 0 true acc rest
    else if c = mark then
      if long then
        -- one or two marks are part of the text, also right before the closing three
        let run := 1 + (rest.takeWhile (· = mark)).length
        if run < 3 then string? mark long escapes 0 false (c :: acc) rest
        else if run ≤ 5 then some (acc.reverse ++ List.replicate (run - 3) mark, rest.drop (run - 1))
        else none
      else some (acc.reverse, rest)
    else if c = '\\' ∧ escapes then
      match escape? rest with
      | some (d, taken) => string? mark long escapes taken false (d :: acc) rest
      | none => if long && blankToLineEnd rest then string? mark long escapes 0 true acc rest else none
    else if c = '\n' then if long then string? mark long escapes 0 false ('\n' :: acc) rest else none
    else if c = '\r' then
      if long && rest.head? = some '\n' then string? mark long escapes 0 false acc rest else none
    else if isPlain c then string? mark long escapes 0 false (c :: acc) rest
    else none

/-- a line end right after the opening of a long string does not count -/
def dropLineEnd : List Char → List Char
  | '\n' :: rest => rest
  | '\r' :: '\n' :: rest => rest
  | rest => rest

/-- read a string in any of its four forms; the long ones only if `long` admits them -/
def anyString? (admitLong : Bool) (chars : List Char) : Option (String × List Char) :=
  let result :=
    match chars with
    | '"' :: '"' :: '"' :: rest =>
      if admitLong then string? '"' true true 0 false [] (dropLineEnd rest) else some ([], '"' :: rest)
    | '\'' :: '\'' :: '\'' :: rest =>
      if admitLong then string? '\'' true false 0 false [] (dropLineEnd rest) else some ([], '\'' :: rest)
    | '"' :: rest => string? '"' false true 0 false [] rest
    | '\'' :: rest => string? '\'' false false 0 false [] rest
    | _ => none
  result.map fun (text, rest) => (String.ofList text, rest)

/-! ## Numbers -/

/-- digits with single underscores between them -/
def digits? (isDigit : Char → Bool) (chars : List Char) : Option (List Char) :=
  let rec go (afterDigit : Bool) : List Char → Option (List Char)
    | [] => if afterDigit then some [] else none
    | c :: rest =>
      if isDigit c then (go true rest).map (c :: ·)
      else if c = '_' ∧ afterDigit then go false rest
      else none
  go false chars

/-- the natural that digits of a base write -/
def natOf (base : Nat) (digits : List Char) : Nat :=
  digits.foldl (fun n c => n * base + (hexValue? c).getD 0) 0

def signed : List Char → Bool × List Char
  | '-' :: rest => (true, rest)
  | '+' :: rest => (false, rest)
  | rest => (false, rest)

/-- decimal digits that do not begin with a needless zero -/
def decimal? (chars : List Char) : Option (List Char) := do
  let digits ← digits? Char.isDigit chars
  if digits.length > 1 ∧ digits.head? = some '0' then none else some digits

/-- an integer of 64 bits -/
def bounded? (value : Int) : Option Int :=
  let limit : Int := Int.ofNat (1 <<< 63)
  if -limit ≤ value ∧ value < limit then some value else none

def integer? (chars : List Char) : Option Int :=
  match chars with
  | '0' :: 'x' :: rest => do bounded? (natOf 16 (← digits? (fun c => (hexValue? c).isSome) rest))
  | '0' :: 'o' :: rest => do bounded? (natOf 8 (← digits? (fun c => '0' ≤ c && c ≤ '7') rest))
  | '0' :: 'b' :: rest => do bounded? (natOf 2 (← digits? (fun c => c = '0' || c = '1') rest))
  | chars => do
    let (negative, rest) := signed chars
    let n := natOf 10 (← decimal? rest)
    bounded? (if negative then -(n : Int) else n)

def exponent? (chars : List Char) : Option Int := do
  let (negative, rest) := signed chars
  let n := natOf 10 (← digits? Char.isDigit rest)
  return if negative then -(n : Int) else n

/-- a number with a fraction, an exponent or both, or one of the special ones; it may not run over to infinity -/
def float? (chars : List Char) : Option FloatValue := do
  let (negative, body) := signed chars
  if body = ['i', 'n', 'f'] then return .infinite negative
  if body = ['n', 'a', 'n'] then return .nan
  let isMark (c : Char) : Bool := c = '.' || c = 'e' || c = 'E'
  let whole ← decimal? (body.takeWhile (!isMark ·))
  let rest := body.dropWhile (!isMark ·)
  let (fraction, rest) ←
    match rest with
    | '.' :: rest => do
      let fraction ← digits? Char.isDigit (rest.takeWhile (!isMark ·))
      some (fraction, rest.dropWhile (!isMark ·))
    | [] => none
    | rest => some ([], rest)
  let exponent ←
    match rest with
    | [] => some 0
    | c :: rest => if c = '.' then none else exponent? rest
  let result := FloatValue.ofDecimal negative (natOf 10 (whole ++ fraction)) (exponent - fraction.length)
  if result = .infinite false then none else return result

/-! ## Dates and times -/

/-- a fixed number of decimal digits, and what follows -/
def fixed? (count : Nat) (chars : List Char) : Option (Nat × List Char) :=
  let digits := chars.take count
  if digits.length = count ∧ digits.all Char.isDigit then some (natOf 10 digits, chars.drop count) else none

def expect? (c : Char) : List Char → Option (List Char)
  | [] => none
  | d :: rest => if c = d then some rest else none

def daysInMonth (year month : Nat) : Nat :=
  if month = 2 then (if year % 4 = 0 ∧ (year % 100 ≠ 0 ∨ year % 400 = 0) then 29 else 28)
  else if [4, 6, 9, 11].contains month then 30
  else 31

def date? (chars : List Char) : Option (List Char × List Char) := do
  let (year, rest) ← fixed? 4 chars
  let (month, rest) ← fixed? 2 (← expect? '-' rest)
  let (day, rest) ← fixed? 2 (← expect? '-' rest)
  if 1 ≤ month ∧ month ≤ 12 ∧ 1 ≤ day ∧ day ≤ daysInMonth year month then some (chars.take 10, rest) else none

/-- the text of a time at the beginning, and what follows; at most nine digits of a fraction are kept, and no zeros at
its end -/
def time? (chars : List Char) : Option (List Char × List Char) := do
  let (hour, rest) ← fixed? 2 chars
  let (minute, rest) ← fixed? 2 (← expect? ':' rest)
  let (second, rest) ← fixed? 2 (← expect? ':' rest)
  guard (hour ≤ 23 ∧ minute ≤ 59 ∧ second ≤ 60)
  match rest with
  | '.' :: after =>
    let digits := after.takeWhile Char.isDigit
    guard (digits ≠ [])
    let kept := ((digits.take 9).reverse.dropWhile (· = '0')).reverse
    return (chars.take 8 ++ (if kept = [] then [] else '.' :: kept), after.dropWhile Char.isDigit)
  | rest => return (chars.take 8, rest)

def offset? : List Char → Option (List Char)
  | [] => some []
  | ['Z'] => some ['Z']
  | ['z'] => some ['Z']
  | sign :: rest => do
    guard (sign = '+' ∨ sign = '-')
    let (hour, after) ← fixed? 2 rest
    let (minute, after) ← fixed? 2 (← expect? ':' after)
    guard (after = [] ∧ hour ≤ 23 ∧ minute ≤ 59)
    return sign :: rest

/-- the text of a date, a time, or both -/
def dateTime? (chars : List Char) : Option String :=
  match date? chars with
  | some (date, []) => some (String.ofList date)
  | some (date, mark :: rest) => do
    guard (mark = 'T' ∨ mark = 't' ∨ mark = ' ')
    let (time, rest) ← time? rest
    return String.ofList (date ++ 'T' :: time ++ (← offset? rest))
  | none => do
    let (time, rest) ← time? chars
    guard (rest = [])
    return String.ofList time

end DocumentModels.Toml
