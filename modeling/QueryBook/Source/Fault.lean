import QueryBook.Text.Quoted

/-!
# Why a source cannot be read

The causes for which a query source cannot be found or decoded, and for which a package
cannot be searched, each with its wording.
-/

namespace QueryBook

/-- Bytes that are not text in their encoding: those from `start` up to, not including,
`stop`, of which `first` is the first. -/
structure DecodeFault where
  codec : String
  first : UInt8
  start : Nat
  stop : Nat
  reason : String
  deriving DecidableEq, Repr

namespace DecodeFault

/-- The bytes concerned: a single one is shown, several are given by their positions. -/
def extent (f : DecodeFault) : String :=
  if f.stop = f.start + 1 then
    "byte 0x" ++ String.ofList (Text.hex 2 f.first.toNat) ++ " in position " ++ toString f.start
  else
    "bytes in position " ++ toString f.start ++ "-" ++ toString (f.stop - 1)

/-- The wording of the fault. -/
def message (f : DecodeFault) : String :=
  "'" ++ f.codec ++ "' codec can't decode " ++ f.extent ++ ": " ++ f.reason

end DecodeFault

/-- Why a path does not lead to a file. -/
inductive PathFault where
  | missing
  | notDirectory
  | isDirectory
  | occupied
  | nameTooLong
  deriving DecidableEq, Repr

namespace PathFault

/-- The number of the fault and its wording. -/
def description : PathFault → Nat × String
  | missing => (2, "No such file or directory")
  | occupied => (17, "File exists")
  | notDirectory => (20, "Not a directory")
  | isDirectory => (21, "Is a directory")
  | nameTooLong => (36, "File name too long")

/-- The wording of the fault at a path. -/
def message (f : PathFault) (path : String) : String :=
  "[Errno " ++ toString f.description.1 ++ "] " ++ f.description.2 ++ ": " ++ Text.quoted path

end PathFault

/-- Why a source cannot be read. -/
inductive SourceFault where
  | path (fault : PathFault) (path : String)
  | undecodable (fault : DecodeFault)
  deriving DecidableEq, Repr

/-- The wording of a source fault. -/
def SourceFault.message : SourceFault → String
  | path f p => f.message p
  | undecodable f => f.message

/-- A source that cannot be read: the name it was asked for under, and why. -/
structure SourceError where
  name : String
  fault : SourceFault
  deriving DecidableEq, Repr

/-- The wording of a source error. -/
def SourceError.message (e : SourceError) : String :=
  "Cannot read SQL source '" ++ e.name ++ "': " ++ e.fault.message

/-- Why a package cannot be searched for resources. -/
inductive PackageFault where
  /-- No package or module has this name. -/
  | unknown (name : String)
  /-- The name lies below a module that is not a package. -/
  | below (name parent : String)
  /-- The name is that of a plain module. -/
  | plainModule (name : String)
  /-- The name begins with a dot. -/
  | relative (name : String)
  deriving DecidableEq, Repr

/-- The wording of a package fault. -/
def PackageFault.message : PackageFault → String
  | unknown name => "No module named " ++ Text.quoted name
  | below name parent =>
    "No module named " ++ Text.quoted name ++ "; " ++ Text.quoted parent ++ " is not a package"
  | plainModule name => Text.quoted name ++ " is not a package"
  | relative name =>
    "the 'package' argument is required to perform a relative import for " ++ Text.quoted name

end QueryBook
