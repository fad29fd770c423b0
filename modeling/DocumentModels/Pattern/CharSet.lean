/-
Sets of characters as expressions over ranges of code points.

A range takes every `step`-th code point from `first` to `last`. Tables of ranges are kept as text: hexadecimal code
points, `first-last` or `first-last/step`, between blanks.
-/
import DocumentModels.Text.CaseTable

namespace DocumentModels.Pattern

/-- every `step`-th code point of an interval -/
structure CodeRange where
  first : Nat
  last : Nat
  step : Nat := 1
  deriving DecidableEq, Repr

namespace CodeRange

def contains (range : CodeRange) (code : Nat) : Bool :=
  range.first ≤ code && code ≤ range.last && (code - range.first) % range.step == 0

/-- the intervals of a range: itself, or its code points one by one -/
def intervals (range : CodeRange) : List (Nat × Nat) :=
  if range.step = 1 then [(range.first, range.last)]
  else (List.range ((range.last - range.first) / range.step + 1)).map fun n =>
    (range.first + n * range.step, range.first + n * range.step)

/-- number of separate runs that ranges make up together -/
def runCount (ranges : List CodeRange) : Nat :=
  let sorted := (ranges.flatMap intervals).mergeSort fun a b => a.1 ≤ b.1
  let add (counted : Nat × Nat) (interval : Nat × Nat) : Nat × Nat :=
    let (count, last) := counted
    if count = 0 ∨ last + 1 < interval.1 then (count + 1, interval.2) else (count, Nat.max last interval.2)
  (sorted.foldl add (0, 0)).1

/-- value of a hexadecimal digit, capital letters only -/
def digit (c : Char) : Nat := if c.isDigit then c.toNat - '0'.toNat else c.toNat - 'A'.toNat + 10

def number (digits : List Char) : Nat := digits.foldl (fun n c => n * 16 + digit c) 0

def ofItem (item : List Char) : CodeRange :=
  let first := item.takeWhile (· ≠ '-')
  match item.dropWhile (· ≠ '-') with
  | [] => ⟨number first, number first, 1⟩
  | _ :: rest =>
    let last := rest.takeWhile (· ≠ '/')
    match rest.dropWhile (· ≠ '/') with
    | [] => ⟨number first, number last, 1⟩
    | _ :: step => ⟨number first, number last, number step⟩

/-- cut a text at its blanks -/
def items : List Char → List (List Char)
  | [] => []
  | c :: rest =>
    if c = ' ' ∨ c = '\n' then [] :: items rest
    else
      match items rest with
      | [] => [[c]]
      | item :: more => (c :: item) :: more

def ofText (text : String) : List CodeRange := ((items text.toList).filter (· ≠ [])).map ofItem

end CodeRange

/-- a set of code points -/
inductive CharSet where
  | ranges (list : List CodeRange)
  | union (a b : CharSet)
  | inter (a b : CharSet)
  | diff (a b : CharSet)
  | compl (a : CharSet)
  /-- with all characters that differ from a member only in case -/
  | caseless (a : CharSet)
  /-- with all ASCII letters that differ from a member only in case -/
  | asciiCaseless (a : CharSet)

namespace CharSet

/-- the code point of the other case, of an ASCII letter -/
def asciiSwap (code : Nat) : Nat :=
  if 0x41 ≤ code ∧ code ≤ 0x5A then code + 0x20
  else if 0x61 ≤ code ∧ code ≤ 0x7A then code - 0x20
  else code

/-- the code points that differ from one only in case, and itself -/
def caseVariants (code : Nat) : List Nat :=
  Text.CaseRun.sources Text.foldRuns (Text.CaseRun.map Text.foldRuns code)

def contains : CharSet → Nat → Bool
  | .ranges list, code => list.any (·.contains code)
  | .union a b, code => a.contains code || b.contains code
  | .inter a b, code => a.contains code && b.contains code
  | .diff a b, code => a.contains code && !b.contains code
  | .compl a, code => !a.contains code
  | .caseless a, code => (caseVariants code).any a.contains
  | .asciiCaseless a, code => a.contains code || a.contains (asciiSwap code)

def nothing : CharSet := .ranges []

def range (first last : Nat) : CharSet := .ranges [⟨first, last, 1⟩]

def single (c : Char) : CharSet := range c.toNat c.toNat

def anyOf (sets : List CharSet) : CharSet := sets.foldr .union nothing

/-- members of exactly one of two sets -/
def symmetricDiff (a b : CharSet) : CharSet := .union (.diff a b) (.diff b a)

/-- the ranges that the expression is made of -/
def leaves : CharSet → List CodeRange
  | .ranges list => list
  | .union a b | .inter a b | .diff a b => a.leaves ++ b.leaves
  | .compl a | .caseless a | .asciiCaseless a => a.leaves

end CharSet

/-- a set under its names, as the text of a table -/
structure NamedRanges where
  names : List String
  text : String

namespace NamedRanges

def set (entry : NamedRanges) : CharSet := .ranges (CodeRange.ofText entry.text)

def find? (table : List NamedRanges) (name : String) : Option CharSet :=
  (table.find? (·.names.contains name)).map set

/-- the set of a name in a table, empty if the table does not have it -/
def get (table : List NamedRanges) (name : String) : CharSet := (find? table name).getD .nothing

end NamedRanges

end DocumentModels.Pattern
