import SyscallNames.IoError

set_option autoImplicit false

namespace SyscallNames

inductive Entry
  | directory
  | file (content : Bytes)
deriving DecidableEq, Repr

/-- The entries below a working directory that holds all the files there are, latest first. A program
reads from anything else just as well. -/
structure FileTree where
  entries : List (List Bytes × Entry) := []
deriving DecidableEq, Repr

namespace FileTree

def slash : UInt8 := 0x2F
def dot : Bytes := [0x2E]
def dotDot : Bytes := [0x2E, 0x2E]

def components (path : Bytes) : List Bytes :=
  path.foldr
    (fun b parts => if b = slash then [] :: parts else
      match parts with
      | [] => [[b]]
      | part :: parts => (b :: part) :: parts)
    [[]]

def names (path : Bytes) : List Bytes :=
  (components path).filter fun part => part ≠ [] ∧ part ≠ dot

def lookup (tree : FileTree) (path : List Bytes) : Option Entry :=
  if path = [] then some .directory else tree.entries.lookup path

def parents (path : List Bytes) : List (List Bytes) :=
  (List.range path.length).map path.take

def insert (tree : FileTree) (path : Bytes) (entry : Entry) : FileTree :=
  let path := names path
  let missing := (parents path).filter fun p => (tree.lookup p).isNone
  { entries := (path, entry) :: (missing.map fun p => (p, .directory)) ++ tree.entries }

def addDirectory (tree : FileTree) (path : Bytes) : FileTree := tree.insert path .directory

def addFile (tree : FileTree) (path content : Bytes) : FileTree := tree.insert path (.file content)

/-- Where a walk stands: at an entry of the tree, or in a directory above it, of which nothing is
known but that it is there. -/
inductive Place
  | inside (path : List Bytes)
  | above
deriving DecidableEq, Repr

def maxName : Nat := 255
def maxPath : Nat := 4095

def entryAt (tree : FileTree) : Place → Option Entry
  | .inside path => tree.lookup path
  | .above => some .directory

def Place.parent : Place → Place
  | .inside [] => .above
  | .inside path => .inside path.dropLast
  | .above => .above

/-- One step of a walk, into the component `name`. -/
def enter (tree : FileTree) (place : Place) (name : Bytes) : Except Errno Place :=
  if tree.entryAt place ≠ some .directory then .error .notDirectory
  else if name = [] ∨ name = dot then .ok place
  else if name = dotDot then .ok place.parent
  else if maxName < name.length then .error .nameTooLong
  else match place with
    | .above => .error .noEntry
    | .inside path =>
      if (tree.lookup (path ++ [name])).isSome then .ok (.inside (path ++ [name]))
      else .error .noEntry

def walk (tree : FileTree) (path : Bytes) : Except Errno Place :=
  let start := if path.head? = some slash then Place.above else .inside []
  (components path).foldlM tree.enter start

def read (tree : FileTree) (path : Bytes) : Except IoError Bytes :=
  if path.contains 0 then .error .nulInPath
  else if path = [] then .error (.system .noEntry)
  else if maxPath < path.length then .error (.system .nameTooLong)
  else match tree.walk path with
    | .error e => .error (.system e)
    | .ok place =>
      match tree.entryAt place with
      | some (.file content) => .ok content
      | some .directory => .error (.system .isDirectory)
      | none => .error (.system .noEntry)

end FileTree
end SyscallNames
