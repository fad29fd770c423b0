/-
A tree of files and directories, and what can be done with it.

A path is followed name by name from the root or from the current directory; every name but the last has to lead to a
directory. Each operation is a function from one tree to the next, and says with which error the system would refuse.
Permissions, symbolic links and the limit on the length of a whole path are left out.
-/
import DocumentModels.Files.Path
import DocumentModels.Named

namespace DocumentModels.Files

/-- why the system refuses an operation -/
inductive FileError where
  | notFound
  | exists
  | notDirectory
  | isDirectory
  | nameTooLong
  | nulInPath
  | notText
  deriving DecidableEq

def FileError.message : FileError → String
  | notFound => "No such file or directory (os error 2)"
  | .exists => "File exists (os error 17)"
  | notDirectory => "Not a directory (os error 20)"
  | isDirectory => "Is a directory (os error 21)"
  | nameTooLong => "File name too long (os error 36)"
  | nulInPath => "file name contained an unexpected NUL byte"
  | notText => "stream did not contain valid UTF-8"

/-- a file with its bytes, or a directory with its entries by name -/
inductive Entry where
  | file (bytes : ByteArray)
  | directory (children : List (String × Entry))

namespace Entry

def lookup? : Entry → List String → Option Entry
  | entry, [] => some entry
  | .file _, _ :: _ => none
  | .directory children, name :: rest =>
    match children.lookup name with
    | some child => child.lookup? rest
    | none => none

/-- put an entry at a place below whose directory is there -/
def put : Entry → List String → Entry → Entry
  | _, [], new => new
  | .file bytes, _ :: _, _ => .file bytes
  | .directory children, [name], new => .directory (upsert name new children)
  | .directory children, name :: rest, new =>
    match children.lookup name with
    | some child => .directory (upsert name (child.put rest new) children)
    | none => .directory children

def erase : Entry → List String → Entry
  | entry, [] => entry
  | .file bytes, _ :: _ => .file bytes
  | .directory children, [name] => .directory (children.filter (·.1 ≠ name))
  | .directory children, name :: rest =>
    match children.lookup name with
    | some child => .directory (upsert name (child.erase rest) children)
    | none => .directory children

def isFile : Entry → Bool
  | .file _ => true
  | .directory _ => false

end Entry

/-- a tree and the place that relative paths start from -/
structure FileTree where
  root : Entry
  current : List String := []

/-- where a path leads: a place whose directory is there, and the entry at it -/
structure Location where
  place : List String
  entry? : Option Entry

namespace FileTree

def empty : FileTree := { root := .directory [] }

def follow (root : Entry) (place : List String) : List String → Except FileError Location
  | [] => .ok ⟨place, root.lookup? place⟩
  | name :: rest =>
    match root.lookup? place with
    | none => .error .notFound
    | some (.file _) => .error .notDirectory
    | some (.directory children) =>
      if name = ".." then follow root place.dropLast rest
      else if 255 < name.utf8ByteSize then .error .nameTooLong
      else
        match children.lookup name, rest with
        | none, [] => .ok ⟨place ++ [name], none⟩
        | none, _ :: _ => .error .notFound
        | some _, rest => follow root (place ++ [name]) rest

/-- where the names of a path lead -/
def locateNames (files : FileTree) (absolute : Bool) (names : List String) : Except FileError Location :=
  follow files.root (if absolute then [] else files.current) names

def locate (files : FileTree) (path : String) : Except FileError Location := do
  if path.toList.contains '\x00' then throw .nulInPath
  if path.isEmpty then throw .notFound
  let location ← files.locateNames (Path.isAbsolute path) (Path.names path)
  match location.entry? with
  | some (.file _) => if Path.endsInDirectory path then throw .notDirectory
  | _ => pure ()
  return location

def entry? (files : FileTree) (path : String) : Option Entry :=
  match files.locate path with
  | .ok location => location.entry?
  | .error _ => none

def contains (files : FileTree) (path : String) : Bool := (files.entry? path).isSome

def isFile (files : FileTree) (path : String) : Bool :=
  match files.entry? path with
  | some (.file _) => true
  | _ => false

def isDirectory (files : FileTree) (path : String) : Bool :=
  match files.entry? path with
  | some (.directory _) => true
  | _ => false

def read (files : FileTree) (path : String) : Except FileError ByteArray := do
  let location ← files.locate path
  match location.entry? with
  | some (.file bytes) => return bytes
  | some (.directory _) => throw .isDirectory
  | none => throw .notFound

def readText (files : FileTree) (path : String) : Except FileError String := do
  match String.fromUTF8? (← files.read path) with
  | some text => return text
  | none => throw .notText

/-- the entries of a directory, sorted by name -/
def children (files : FileTree) (path : String) : List (String × Entry) :=
  match files.entry? path with
  | some (.directory children) => children.mergeSort fun a b => a.1 ≤ b.1
  | _ => []

/-- write a file, replacing what it held; its directory has to be there -/
def write (files : FileTree) (path : String) (bytes : ByteArray) : Except FileError FileTree := do
  let location ← files.locate path
  match location.entry? with
  | some (.directory _) => throw .isDirectory
  | some (.file _) => return { files with root := files.root.put location.place (.file bytes) }
  | none =>
    if Path.endsInDirectory path then throw .isDirectory
    else return { files with root := files.root.put location.place (.file bytes) }

/-- make one directory at the end of the names -/
def makeDirectory (files : FileTree) (absolute : Bool) (names : List String) : Except FileError FileTree := do
  let location ← files.locateNames absolute names
  match location.entry? with
  | some _ => throw .exists
  | none => return { files with root := files.root.put location.place (.directory []) }

def leadsToDirectory (files : FileTree) (absolute : Bool) (names : List String) : Bool :=
  match files.locateNames absolute names with
  | .ok ⟨_, some (.directory _)⟩ => true
  | _ => false

/-- make the directory at the end of the names, given last name first, and those on the way to it -/
def makeDirectories (files : FileTree) (absolute : Bool) : List String → Except FileError FileTree
  | [] => .ok files
  | name :: outer =>
    let names := (name :: outer).reverse
    match files.makeDirectory absolute names with
    | .ok made => .ok made
    | .error .notFound => do
      let made ← files.makeDirectories absolute outer
      match made.makeDirectory absolute names with
      | .ok made => .ok made
      | .error e => if made.leadsToDirectory absolute names then .ok made else .error e
    | .error e => if files.leadsToDirectory absolute names then .ok files else .error e

/-- make the directories on the way to the last name of a path -/
def makeParents (files : FileTree) (path : String) : Except FileError FileTree :=
  if path.toList.contains '\x00' then .error .nulInPath
  else files.makeDirectories (Path.isAbsolute path) (Path.names path).reverse.tail

def remove (files : FileTree) (path : String) : FileTree :=
  match files.locate path with
  | .ok location => { files with root := files.root.erase location.place }
  | .error _ => files

end FileTree

mutual

/-- the files and directories below an entry, as paths that begin with the entry's own -/
def Entry.walk (path : String) : Entry → List String
  | .file _ => []
  | .directory children => walkChildren path children

/-- the given entries of a directory and what is below them -/
def walkChildren (path : String) : List (String × Entry) → List String
  | [] => []
  | (name, entry) :: rest =>
    let inner := path ++ "/" ++ name
    (inner :: entry.walk inner) ++ walkChildren path rest

end

end DocumentModels.Files
