import QueryBook.Source.Fault
import QueryBook.Source.Path

/-!
# File trees

A file tree holds files and directories by their location, the names on the way from the
root. Relative paths begin at the working directory `home`, which is always there. A path is
followed name by name: every name but the last has to lead to a directory, and `..` leads to
the directory above, which for the root is the root itself.
-/

namespace QueryBook

/-- A place in a tree: the names on the way from the root. -/
abbrev Location := List String

/-- What is at a location. -/
inductive Node where
  | file (content : List UInt8)
  | directory
  deriving DecidableEq, Repr

/-- Files and directories by location. -/
structure FileTree where
  nodes : List (Location × Node)
  /-- The working directory. -/
  home : Location
  deriving Repr

namespace FileTree

/-- A tree that holds nothing but its working directory. -/
def ofHome (home : Location) : FileTree :=
  ⟨[], home⟩

/-- What is at a location; the working directory and those above it are always there. -/
def find? (t : FileTree) (at_ : Location) : Option Node :=
  if at_.isPrefixOf t.home then some .directory else t.nodes.lookup at_

/-- The longest name that a directory can hold, in bytes. -/
def longestName : Nat := 255

/-- The longest path that can be followed, in bytes. -/
def longestPath : Nat := 4095

/-- The location that names lead to from a directory. -/
def follow (t : FileTree) (dir : Location) : List String → Except PathFault Location
  | [] => .ok dir
  | name :: rest =>
    if name = ".." then t.follow dir.dropLast rest
    else if name.utf8ByteSize > longestName then .error .nameTooLong
    else
      match t.find? (dir ++ [name]) with
      | none => .error .missing
      | some .directory => t.follow (dir ++ [name]) rest
      | some (.file _) => if rest.isEmpty then .ok (dir ++ [name]) else .error .notDirectory

/-- The directory that a path begins at. -/
def origin (t : FileTree) (p : Path) : Location :=
  if p.isAbsolute then [] else t.home

/-- The location that a path leads to. -/
def locate (t : FileTree) (p : Path) : Except PathFault Location :=
  if p.text.utf8ByteSize > longestPath then .error .nameTooLong
  else t.follow (t.origin p) p.names

/-- The content of the file that a path leads to. -/
def read (t : FileTree) (p : Path) : Except PathFault (List UInt8) := do
  let place ← t.locate p
  match t.find? place with
  | some (.file content) => return content
  | some .directory => throw .isDirectory
  | none => throw .missing

/-- Whether a path leads to a file. -/
def isFile (t : FileTree) (p : Path) : Bool :=
  match t.read p with
  | .ok _ => true
  | .error _ => false

/-! ## Changes -/

/-- The tree with one location set. -/
def put (t : FileTree) (place : Location) (node : Node) : FileTree :=
  { t with nodes := (place, node) :: t.nodes.filter fun e => e.1 != place }

/-- The tree with a directory at a location and at every one above it that has nothing yet. -/
def putDirectory (t : FileTree) (place : Location) : FileTree :=
  (List.range (place.length + 1)).foldl (fun t n =>
    if (t.find? (place.take n)).isSome then t else t.put (place.take n) .directory) t

/-- The tree with a file below the working directory, and the directories that lead to it. -/
def write (t : FileTree) (p : Path) (content : List UInt8) : FileTree :=
  let place := t.origin p ++ p.names
  (t.putDirectory place.dropLast).put place (.file content)

/-- The tree with a directory below the working directory, and those that lead to it. -/
def addDirectory (t : FileTree) (p : Path) : FileTree :=
  t.putDirectory (t.origin p ++ p.names)

/-- The tree without the file that a path leads to. -/
def remove (t : FileTree) (p : Path) : FileTree :=
  match t.locate p with
  | .ok place => { t with nodes := t.nodes.filter fun e => e.1 != place }
  | .error _ => t

/-- The tree with one new directory; its parent has to be there. -/
def makeDirectory (t : FileTree) (p : Path) : Except PathFault FileTree :=
  match t.locate p with
  | .ok place => if t.find? place = some .directory then .ok t else .error .occupied
  | .error .missing => do
    let parent ← t.locate ⟨p.slashes, p.names.dropLast⟩
    return t.put (parent ++ p.names.getLast?.toList) .directory
  | .error fault => .error fault

/-- The tree with a directory at a path whose names are given last first, and the directories
that were missing on the way; those made before a fault stay. -/
def makeDirectories (t : FileTree) (slashes : Nat) :
    List String → FileTree × Option (PathFault × Path)
  | [] => (t, none)
  | name :: before =>
    let p : Path := ⟨slashes, (name :: before).reverse⟩
    match t.makeDirectory p with
    | .ok t => (t, none)
    | .error .missing =>
      match t.makeDirectories slashes before with
      | (t, some fault) => (t, some fault)
      | (t, none) =>
        match t.makeDirectory p with
        | .ok t => (t, none)
        | .error fault => (t, some (fault, p))
    | .error fault => (t, some (fault, p))

/-- The tree with the file of a path opened for adding to it: a missing one is made. -/
def openFile (t : FileTree) (p : Path) : Except PathFault (Location × FileTree) :=
  match t.locate p with
  | .ok place => if t.find? place = some .directory then .error .isDirectory else .ok (place, t)
  | .error .missing => do
    let parent ← t.locate ⟨p.slashes, p.names.dropLast⟩
    let place := parent ++ p.names.getLast?.toList
    return (place, t.put place (.file []))
  | .error fault => .error fault

/-- The tree with bytes added to the file at a location. -/
def addTo (t : FileTree) (place : Location) (content : List UInt8) : FileTree :=
  match t.find? place with
  | some (.file before) => t.put place (.file (before ++ content))
  | _ => t

/-- The files below the working directory with their paths. -/
def files (t : FileTree) : List (String × List UInt8) :=
  t.nodes.filterMap fun e =>
    match e.2 with
    | .file content =>
      if t.home.isPrefixOf e.1 then some ("/".intercalate (e.1.drop t.home.length), content)
      else none
    | .directory => none

end FileTree

end QueryBook
