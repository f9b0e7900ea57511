import QueryBook.Text.Split

/-!
# Paths

A path is the number of slashes it begins with and the names that lead on from there. Reading
a path drops empty names and `.`; the name `..` is kept, since what it leads to is decided by
the directories that are walked. Written out, a path is in its normal form.
-/

namespace QueryBook

/-- A path to a file or a directory. -/
structure Path where
  /-- The slashes at the beginning: none for a relative path; exactly two are kept apart from
  one, more count as one. -/
  slashes : Nat
  names : List String
  deriving DecidableEq, Repr

namespace Path

/-- The slashes that count at the beginning of a path. -/
def leadingSlashes (cs : List Char) : Nat :=
  match (cs.takeWhile (· == '/')).length with
  | 0 => 0
  | 2 => 2
  | _ => 1

/-- Whether a name leads anywhere. -/
def isStep (name : String) : Bool :=
  name != "" && name != "."

/-- The path that a text stands for. -/
def ofString (s : String) : Path :=
  ⟨leadingSlashes s.toList, (Text.splitText '/' s).filter isStep⟩

/-- Whether the path begins at the root. -/
def isAbsolute (p : Path) : Bool :=
  p.slashes != 0

/-- The normal form of the path. -/
def text (p : Path) : String :=
  if p.slashes = 0 && p.names.isEmpty then "."
  else String.ofList (List.replicate p.slashes '/') ++ "/".intercalate p.names

/-- The path that leads from the end of the first to the end of the second; an absolute second
path is taken alone. -/
def append (p q : Path) : Path :=
  if q.isAbsolute then q else ⟨p.slashes, p.names ++ q.names⟩

example : (ofString "a//./b/../c/").text = "a/b/../c" := by decide +kernel
example : (ofString "///a").text = "/a" := by decide +kernel
example : (ofString "//a").text = "//a" := by decide +kernel
example : (ofString "").text = "." := by decide +kernel

end Path

end QueryBook
