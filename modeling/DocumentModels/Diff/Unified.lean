/-
Unified diffs of texts, line by line.

Changes are shown with three lines of context around them; lines that are shown without a gap form one hunk. Inside a
run of changes the removed lines come before the added ones.
-/
import DocumentModels.Diff.Script

namespace DocumentModels.Diff

/-- cut a text into lines with their ends: a line feed, a carriage return or both -/
def lines : List Char → List (List Char)
  | [] => []
  | '\r' :: '\n' :: rest => ['\r', '\n'] :: lines rest
  | c :: rest =>
    if c = '\n' ∨ c = '\r' then [c] :: lines rest
    else
      match lines rest with
      | [] => [[c]]
      | first :: more => (c :: first) :: more

/-- lines of context around a change -/
def radius : Nat := 3

/-- whether each step is a change or one of the next `radius` after a change; `left` more count as such -/
def shownAfter (left : Nat) : List (Edit α) → List Bool
  | [] => []
  | .keep _ :: rest => decide (0 < left) :: shownAfter (left - 1) rest
  | _ :: rest => true :: shownAfter radius rest

/-- each step with whether it is shown: it is a change, or one is near -/
def shown (edits : List (Edit α)) : List (Edit α × Bool) :=
  edits.zip (List.zipWith or (shownAfter 0 edits) (shownAfter 0 edits.reverse).reverse)

/-- lines that are shown together: where they begin in both texts, counted from zero, and the steps -/
structure Hunk (α : Type) where
  oldStart : Nat
  newStart : Nat
  edits : List (Edit α)

/-- the places reached in both texts, the hunk that is open, its steps in reverse, and the hunks before it, in reverse -/
structure Grouping (α : Type) where
  old : Nat := 0
  new : Nat := 0
  current : Option (Hunk α) := none
  finished : List (Hunk α) := []

namespace Grouping

def close (state : Grouping α) : Grouping α :=
  match state.current with
  | some hunk => { state with current := none, finished := { hunk with edits := hunk.edits.reverse } :: state.finished }
  | none => state

def step (state : Grouping α) (item : Edit α × Bool) : Grouping α :=
  let (edit, isShown) := item
  let state :=
    if isShown then
      let hunk := state.current.getD ⟨state.old, state.new, []⟩
      { state with current := some { hunk with edits := edit :: hunk.edits } }
    else state.close
  match edit with
  | .keep _ => { state with old := state.old + 1, new := state.new + 1 }
  | .delete _ => { state with old := state.old + 1 }
  | .insert _ => { state with new := state.new + 1 }

end Grouping

def hunks (edits : List (Edit α)) : List (Hunk α) :=
  ((shown edits).foldl Grouping.step {}).close.finished.reverse

def rangeText (start count : Nat) : String :=
  if count = 1 then toString (start + 1)
  else if count = 0 then toString start ++ ",0"
  else toString (start + 1) ++ "," ++ toString count

/-- a marked line; one without an end says so -/
def lineText (mark : String) (chars : List Char) : String :=
  let ended := chars.getLast? = some '\n' ∨ chars.getLast? = some '\r'
  mark ++ String.ofList chars ++ (if ended then "" else "\n\\ No newline at end of file\n")

def editText : Edit (List Char) → String
  | .keep chars => lineText " " chars
  | .delete chars => lineText "-" chars
  | .insert chars => lineText "+" chars

def oldCount (edits : List (Edit α)) : Nat :=
  edits.countP fun | .insert _ => false | _ => true

def newCount (edits : List (Edit α)) : Nat :=
  edits.countP fun | .delete _ => false | _ => true

def hunkText (hunk : Hunk (List Char)) : String :=
  "@@ -" ++ rangeText hunk.oldStart (oldCount hunk.edits) ++ " +" ++ rangeText hunk.newStart (newCount hunk.edits)
    ++ " @@\n" ++ String.join (hunk.edits.map editText)

/-- the diff of two texts under their titles; equal texts have none -/
def unified (oldTitle newTitle old new : String) : String :=
  let script := Script.between (lines old.toList) (lines new.toList)
  match hunks (arrange [] [] script.edits) with
  | [] => ""
  | all => "--- " ++ oldTitle ++ "\n+++ " ++ newTitle ++ "\n" ++ String.join (all.map hunkText)

end DocumentModels.Diff
