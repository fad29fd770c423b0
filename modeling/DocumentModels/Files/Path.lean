/-
Paths as texts.

Names are separated by slashes; empty names and single dots say nothing. A path that begins with a slash is absolute.
-/
namespace DocumentModels.Files.Path

/-- whether the path begins at the root -/
def isAbsolute (path : String) : Bool := path.toList.head? = some '/'

/-- a path inside a directory; an absolute one stands for itself -/
def join (directory path : String) : String :=
  if isAbsolute path then path
  else if directory.isEmpty ∨ directory.toList.getLast? = some '/' then directory ++ path
  else directory ++ "/" ++ path

/-- the pieces of a text between separators; one more than there are separators -/
def splitChars (separator : Char) : List Char → List (List Char)
  | [] => [[]]
  | c :: rest =>
    if c = separator then [] :: splitChars separator rest
    else
      match splitChars separator rest with
      | [] => [[c]]
      | piece :: pieces => (c :: piece) :: pieces

def names (path : String) : List String :=
  ((splitChars '/' path.toList).filter fun name => name ≠ [] ∧ name ≠ ['.']).map String.ofList

/-- whether the path can only lead to a directory: it ends in a slash or in a single dot -/
def endsInDirectory (path : String) : Bool :=
  match path.toList.reverse with
  | '/' :: _ => true
  | '.' :: '/' :: _ => true
  | ['.'] => true
  | _ => false

end DocumentModels.Files.Path
