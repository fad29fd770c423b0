/-
Upper and lower case of texts, for all of Unicode.

Lower case looks at the neighbours of one letter only: a capital sigma becomes the final form when a cased letter
stands before it and none after it, apart from characters that case looks through.
-/
import DocumentModels.Text.CaseTable
import DocumentModels.Text.CaseContext

namespace DocumentModels.Text

def upperChar (c : Char) : List Char :=
  match longUpper.lookup c.toNat with
  | some codes => codes.map Char.ofNat
  | none => [Char.ofNat (CaseRun.map upperRuns c.toNat)]

/-- lower case of one character, whatever its neighbours -/
def lowerChar (c : Char) : List Char :=
  match longLower.lookup c.toNat with
  | some codes => codes.map Char.ofNat
  | none => [Char.ofNat (CaseRun.map lowerRuns c.toNat)]

/-- whether the nearest character that case does not look through is cased -/
def meetsCased (chars : List Char) : Bool :=
  match chars.find? fun c => !inRanges caseIgnorableRanges c.toNat with
  | some c => inRanges casedRanges c.toNat
  | none => false

def capitalSigma : Char := '\u03A3'

/-- lower case of a text that follows `before`, which is given last character first -/
def lowerAfter (before : List Char) : List Char → List Char
  | [] => []
  | c :: rest =>
    let lowered :=
      if c = capitalSigma then [if meetsCased before && !meetsCased rest then '\u03C2' else '\u03C3'] else lowerChar c
    lowered ++ lowerAfter (c :: before) rest

def lower (s : String) : String := String.ofList (lowerAfter [] s.toList)

/-- the text with its first character in upper case -/
def capitalized (s : String) : String :=
  match s.toList with
  | [] => ""
  | c :: rest => String.ofList (upperChar c ++ rest)

end DocumentModels.Text
