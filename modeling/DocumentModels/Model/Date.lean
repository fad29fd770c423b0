/-
Dates in documents.

A text is a date if it is an RFC 3339 time stamp, or a year, month and day between hyphens; an integer is a date as a
count of milliseconds. In a time stamp every number has its fixed width and a leap second is admitted; in a plain date
blanks may stand before each number, the year may carry a sign, and widths are only bounded.
-/
import DocumentModels.Json.Number

namespace DocumentModels.Model

/-- a number of decimal digits, at least `low` and at most `high` of them where an upper bound is given, and what
follows -/
def digits? (low : Nat) (high : Option Nat) (chars : List Char) : Option (Nat × List Char) :=
  let all := chars.takeWhile isDigit
  let taken :=
    match high with
    | some high => all.take high
    | none => all
  if taken.length < low then none else some (natOfDigits taken, chars.drop taken.length)

/-- a character and what follows it -/
def expect? (c : Char) : List Char → Option (List Char)
  | [] => none
  | d :: rest => if c = d then some rest else none

def isLeapYear (year : Int) : Bool := year % 4 == 0 && (year % 100 != 0 || year % 400 == 0)

def daysInMonth (year : Int) (month : Nat) : Nat :=
  if month = 2 then (if isLeapYear year then 29 else 28)
  else if [4, 6, 9, 11].contains month then 30
  else 31

/-- whether the calendar has the day, in the range of years that dates can have -/
def isCalendarDay (year : Int) (month day : Nat) : Bool :=
  -262143 ≤ year && year ≤ 262142 && 1 ≤ month && month ≤ 12 && 1 ≤ day && day ≤ daysInMonth year month

/-- the rest after the offset of a time stamp: `Z`, or a sign, hours and minutes -/
def offset? : List Char → Option (List Char)
  | [] => none
  | c :: rest =>
    if c = 'Z' ∨ c = 'z' then some rest
    else if c = '+' ∨ c = '-' ∨ c = '\u2212' then do
      let (hours, rest) ← digits? 2 (some 2) rest
      let rest ← expect? ':' rest
      let (minutes, rest) ← digits? 2 (some 2) rest
      if hours ≤ 23 ∧ minutes ≤ 59 then some rest else none
    else none

/-- the rest after an optional fraction of a second -/
def fraction? : List Char → Option (List Char)
  | '.' :: rest => (digits? 1 none rest).map Prod.snd
  | rest => some rest

def isTimeStamp (text : String) : Bool :=
  let rest? := do
    let (year, rest) ← digits? 4 (some 4) text.toList
    let rest ← expect? '-' rest
    let (month, rest) ← digits? 2 (some 2) rest
    let rest ← expect? '-' rest
    let (day, rest) ← digits? 2 (some 2) rest
    guard (isCalendarDay year month day)
    let rest ←
      match rest with
      | c :: rest => if c = 'T' ∨ c = 't' ∨ c = ' ' then some rest else none
      | [] => none
    let (hour, rest) ← digits? 2 (some 2) rest
    let rest ← expect? ':' rest
    let (minute, rest) ← digits? 2 (some 2) rest
    let rest ← expect? ':' rest
    let (second, rest) ← digits? 2 (some 2) rest
    guard (hour ≤ 23 ∧ minute ≤ 59 ∧ second ≤ 60)
    offset? (← fraction? rest)
  rest? = some []

def isBlank (c : Char) : Bool :=
  (0x09 ≤ c.toNat && c.toNat ≤ 0x0D) || (0x2000 ≤ c.toNat && c.toNat ≤ 0x200A)
    || [0x20, 0x85, 0xA0, 0x1680, 0x2028, 0x2029, 0x202F, 0x205F, 0x3000].contains c.toNat

/-- a year, which has at most four digits unless a sign stands before it -/
def year? (chars : List Char) : Option (Int × List Char) :=
  match chars with
  | '-' :: rest => (digits? 1 none rest).map fun (n, rest) => (-(n : Int), rest)
  | '+' :: rest => (digits? 1 none rest).map fun (n, rest) => ((n : Int), rest)
  | rest => (digits? 1 (some 4) rest).map fun (n, rest) => ((n : Int), rest)

/-- whether the text is a year, month and day -/
def isPlainDate (text : String) : Bool :=
  let rest? := do
    let (year, rest) ← year? (text.toList.dropWhile isBlank)
    let rest ← expect? '-' rest
    let (month, rest) ← digits? 1 (some 2) (rest.dropWhile isBlank)
    let rest ← expect? '-' rest
    let (day, rest) ← digits? 1 (some 2) (rest.dropWhile isBlank)
    guard (isCalendarDay year month day)
    return rest
  rest? = some []

def isDate : Json → Bool
  | .string s => isTimeStamp s || isPlainDate s
  | .number (.int _) => true
  | _ => false

end DocumentModels.Model
