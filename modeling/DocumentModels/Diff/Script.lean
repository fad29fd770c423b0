/-
Shortest edit scripts between two lists.

A script keeps, deletes and inserts elements. It is built from the ends of the lists: for every pair of suffixes the
cheapest script is known, and each new element of the first list gives a new row of them.
-/
namespace DocumentModels.Diff

/-- one step of a script -/
inductive Edit (α : Type) where
  | keep (x : α)
  | delete (x : α)
  | insert (x : α)

/-- a script and its number of deletions and insertions -/
structure Script (α : Type) where
  cost : Nat
  edits : List (Edit α)

namespace Script

def empty : Script α := ⟨0, []⟩

instance : Inhabited (Script α) := ⟨empty⟩

/-- begin with an element that stays -/
def keep (x : α) (script : Script α) : Script α := ⟨script.cost, .keep x :: script.edits⟩

/-- begin with an element that goes -/
def delete (x : α) (script : Script α) : Script α := ⟨script.cost + 1, .delete x :: script.edits⟩

/-- begin with an element that comes -/
def insert (x : α) (script : Script α) : Script α := ⟨script.cost + 1, .insert x :: script.edits⟩

def cheaper (a b : Script α) : Script α := if a.cost ≤ b.cost then a else b

/-- scripts from nothing to every suffix, longest suffix first -/
def inserts : List α → List (Script α)
  | [] => [empty]
  | y :: ys =>
    let row := inserts ys
    (row.headD empty).insert y :: row

/-- scripts from `x` and what follows it to every suffix, given those from what follows -/
def extend [DecidableEq α] (x : α) : List α → List (Script α) → List (Script α)
  | [], below => [(below.headD empty).delete x]
  | y :: ys, below =>
    let row := extend x ys below.tail
    let first :=
      if x = y then (below.tail.headD empty).keep x else cheaper ((below.headD empty).delete x) ((row.headD empty).insert y)
    first :: row

/-- a shortest script from one list to another -/
def between [DecidableEq α] (old new : List α) : Script α :=
  (old.foldr (fun x row => extend x new row) (inserts new)).headD empty

end Script

/-- move the deletions of every run of changes before its insertions; both are given in reverse -/
def arrange (deleted inserted : List (Edit α)) : List (Edit α) → List (Edit α)
  | [] => deleted.reverse ++ inserted.reverse
  | .keep x :: rest => deleted.reverse ++ inserted.reverse ++ .keep x :: arrange [] [] rest
  | .delete x :: rest => arrange (.delete x :: deleted) inserted rest
  | .insert x :: rest => arrange deleted (.insert x :: inserted) rest

end DocumentModels.Diff
