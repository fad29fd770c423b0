/-
Tables while a document is read.

Headers and dotted keys build one tree of tables. A table is implicit until a header names it, and dotted if a dotted key
made it; a header may not name a table twice, nor one that dotted keys made, and a dotted key may not add to a table that
a header named. Values are closed: nothing is added to them later.
-/
import DocumentModels.Named
import DocumentModels.Toml.Value

namespace DocumentModels.Toml

/-- an entry of a table that is being built -/
inductive Item where
  | value (value : Value)
  | table (implicit dotted : Bool) (entries : List (String × Item))
  /-- tables under one array header, all of them tables -/
  | tables (rows : List Item)

namespace Item

def changeLast (f : Item → Option Item) : List Item → Option (List Item)
  | [] => none
  | [row] => (f row).map ([·])
  | row :: rest => (changeLast f rest).map (row :: ·)

/-- change the table at the end of a path, making the tables on the way; `dotted` if the path is a dotted key -/
def change (dotted : Bool) (f : Item → Option Item) : List String → Item → Option Item
  | [], item => f item
  | key :: path, .table implicit isDotted entries => do
    let child ←
      match entries.lookup key with
      | none => change dotted f path (.table true dotted [])
      | some (.value _) => none
      | some (.tables rows) => (changeLast (change dotted f path) rows).map .tables
      | some (.table true childDotted more) => change dotted f path (.table true childDotted more)
      | some (.table false childDotted more) =>
        if dotted then none else change dotted f path (.table false childDotted more)
    return .table implicit isDotted (upsert key child entries)
  | _ :: _, _ => none

/-- put a new value into a table; a dotted key may only end in a table that dotted keys made -/
def put (viaDots : Bool) (key : String) (value : Value) : Item → Option Item
  | .table implicit isDotted entries =>
    if isDotted ≠ viaDots ∨ (entries.lookup key).isSome then none
    else some (.table implicit isDotted (upsert key (.value value) entries))
  | _ => none

def putPath (path : List String) (key : String) (value : Value) (table : Item) : Option Item :=
  table.change true (put (!path.isEmpty) key value) path

/-- a table header: its table is new, or known only as a step to others -/
def openTable (key : String) : Item → Option Item
  | .table implicit isDotted entries =>
    match entries.lookup key with
    | none => some (.table implicit isDotted (upsert key (.table false false []) entries))
    | some (.table true false more) => some (.table implicit isDotted (upsert key (.table false false more) entries))
    | some _ => none
  | _ => none

/-- an array header: one more table in its array -/
def openRow (key : String) : Item → Option Item
  | .table implicit isDotted entries =>
    let fresh := Item.table false false []
    match entries.lookup key with
    | none => some (.table implicit isDotted (upsert key (.tables [fresh]) entries))
    | some (.tables rows) => some (.table implicit isDotted (upsert key (.tables (rows ++ [fresh])) entries))
    | some _ => none
  | _ => none

mutual

def toValue : Item → Value
  | .value v => v
  | .table _ _ entries => .table (entryValues entries)
  | .tables rows => .array (rowValues rows)

def entryValues : List (String × Item) → List (String × Value)
  | [] => []
  | (key, item) :: rest => (key, item.toValue) :: entryValues rest

def rowValues : List Item → List Value
  | [] => []
  | item :: rest => item.toValue :: rowValues rest

end

end Item

end DocumentModels.Toml
