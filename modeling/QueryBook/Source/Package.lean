import QueryBook.Source.FileTree
import QueryBook.Source.Encoding.Utf8

/-!
# Packages

Query files may be kept inside packages, which are found by their dotted names. An index knows
the packages, each with the directory of the same name, and the plain modules, which hold no
resources. A name is looked up from its first part on, so that the first part that is missing
is the one reported.
-/

namespace QueryBook

/-- The packages and plain modules there are, and the files of the packages. -/
structure PackageIndex where
  packages : List (List String)
  modules : List (List String)
  /-- The files; packages lie below its working directory. -/
  tree : FileTree

namespace PackageIndex

/-- The dotted name of a package or module. -/
def dotted (parts : List String) : String :=
  ".".intercalate parts

/-- Looks up the package whose name is the parts gone through and those to come. -/
def walk (x : PackageIndex) (gone : List String) : List String → Except PackageFault Unit
  | [] => .ok ()
  | part :: rest =>
    let here := gone ++ [part]
    if x.packages.contains here then x.walk here rest
    else if x.modules.contains here then
      match rest with
      | [] => .error (.plainModule (dotted here))
      | next :: _ => .error (.below (dotted (here ++ [next])) (dotted here))
    else .error (.unknown (dotted here))

/-- The parts of the name of a package that can be searched. -/
def package (x : PackageIndex) (name : String) : Except PackageFault (List String) := do
  if name.startsWith "." then throw (.relative name)
  let parts := Text.splitText '.' name
  x.walk [] parts
  return parts

/-- The path of a resource, given relative to a package, from the directory that the packages
lie in. -/
def resourcePath (package : List String) (p : Path) : Path :=
  ⟨0, package ++ p.names⟩

end PackageIndex

/-- The example queries that come with the library. -/
def exampleQueries : String :=
"-- name: get_users
SELECT id, username, email, created_at
FROM users
WHERE status = :status
ORDER BY created_at DESC;

-- name: get_user_by_id
SELECT id, username, email, first_name, last_name, created_at
FROM users
WHERE id = :id;

-- name: search_users
SELECT id, username, email
FROM users
WHERE username LIKE :search_pattern
  OR email LIKE :search_pattern
  OR first_name LIKE :search_pattern
  OR last_name LIKE :search_pattern;

-- name: count_active_users
SELECT COUNT(*) AS active_count
FROM users
WHERE status = 'active';
"

/-- The module inside a package that stands for the package itself. -/
def packageModule : String :=
  "__init__"

/-- The file that holds a plain module. -/
def moduleFile (module : List String) : Path :=
  .ofString ("/".intercalate module ++ ".py")

/-- An index of packages and plain modules with the given resources. Each package has a plain
module of its own name, and every plain module lies in a file of its own, which counts as a
resource; what such a file holds is left out unless it is given. -/
def PackageIndex.ofParts (packages modules : List (List String))
    (resources : List (Path × String)) : PackageIndex :=
  let modules := packages.map (· ++ [packageModule]) ++ modules
  let empty := modules.foldl (fun t m => t.write (moduleFile m) []) (FileTree.ofHome ["packages"])
  { packages, modules
    tree := resources.foldl (fun t r => t.write r.1 (Utf8.encode r.2)) empty }

/-- The packages that come with the library. -/
def bundledPackages : PackageIndex :=
  .ofParts [["queries"], ["queries", "resources"], ["core"], ["utils"]]
    [["queries", "binder"], ["queries", "exceptions"], ["queries", "query_store"],
      ["queries", "statement_editor"], ["core", "config"], ["core", "logger"],
      ["utils", "resource_utils"]]
    [(.ofString "queries/resources/example_queries.sql", exampleQueries),
      (moduleFile ["queries", "resources", packageModule],
        "\"\"\"Named query files packaged with the library.\"\"\"\n")]

end QueryBook
