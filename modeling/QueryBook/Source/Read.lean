import QueryBook.Outcome
import QueryBook.Source.Encoding
import QueryBook.Source.Package

/-!
# Reading sources

A source is read by name: as a resource of a package, if the package holds one of that name,
and otherwise as a file. Names that are absolute paths are never resources.
-/

namespace QueryBook

/-- What sources are read from. -/
structure Library where
  packages : PackageIndex
  files : FileTree

namespace Source

/-- Whether a name can be a path at all. -/
def isPathText (name : String) : Bool :=
  !name.toList.contains '\x00'

/-- Whether a package is to be searched for a name. -/
def searches (package name : String) : Bool :=
  package != "" && name != "" && !(Path.ofString name).isAbsolute

/-- The parts of the package that holds a resource, if it does. -/
def findResource (x : PackageIndex) (package name : String) : Outcome (Option (List String)) :=
  if searches package name then
    match x.package package with
    | .error fault => do
      .report (.packageUnavailable package fault)
      return none
    | .ok parts =>
      if isPathText name && x.tree.isFile (PackageIndex.resourcePath parts (.ofString name)) then
        return some parts
      else return none
  else return none

/-- The text of bytes in a named encoding, with uniform line ends. -/
def decode (name encoding : String) (bytes : List UInt8) : Except Failure String :=
  match Encoding.named? encoding with
  | none => .error (.unknownEncoding encoding)
  | some e =>
    match e.decode bytes with
    | .ok cs => .ok (String.ofList (universalLines cs))
    | .error .noByteOrderMark => .error .noByteOrderMark
    | .error (.undecodable fault) => .error (.source ⟨name, .undecodable fault⟩)

/-- The text of the file of a tree. -/
def readFile (t : FileTree) (p : Path) (name encoding : String) : Except Failure String :=
  if isPathText name then
    match t.read p with
    | .ok bytes => decode name encoding bytes
    | .error fault => .error (.source ⟨name, .path fault p.text⟩)
  else .error .nulInPath

end Source

open Source in
/-- Whether a package holds a resource of that name. -/
def resourceExists (x : PackageIndex) (package name : String) : Outcome Bool := do
  return (← findResource x package name).isSome

open Source in
/-- The text of the source of a name. Without a package, the empty name, only files are
considered. -/
def readSource (l : Library) (package encoding name : String) : Outcome String := do
  match ← findResource l.packages package name with
  | some parts =>
    .report (.readingResource name package)
    .ofExcept (readFile l.packages.tree (PackageIndex.resourcePath parts (.ofString name)) name
      encoding)
  | none =>
    .report (.readingFile name)
    .ofExcept (readFile l.files (.ofString name) name encoding)

end QueryBook
