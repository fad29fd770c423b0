/-
Lists of values by name: the members of an object, the entries of a directory, the entries of a table.
-/
namespace DocumentModels

/-- give a name a value: in its place if it is there, else at the end -/
def upsert (name : String) (value : α) : List (String × α) → List (String × α)
  | [] => [(name, value)]
  | (key, old) :: rest => if key = name then (key, value) :: rest else (key, old) :: upsert name value rest

end DocumentModels
