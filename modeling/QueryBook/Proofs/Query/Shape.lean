import QueryBook.Proofs.Query.Normalization
import QueryBook.Proofs.Query.Sections

/-!
# The shape of names and queries

Whatever a query file holds, the names it defines are words without blanks, because a marker line
has such a name (`Sections.isWord`), and its queries are tidy, because they are in normal form
(`tidy_normalize`). A text with a blank is therefore no name in any file.
-/

namespace QueryBook

open Text Normalize QueryFile

/-- The normal form of a text is tidy. -/
theorem tidy_normalize (sql : String) : Tidy (normalize sql).toList := by
  rw [normalize, String.toList_ofList]
  exact (tight_normal _).tidy (startsSolid_normal _) (isBlank_getLast?_normal _)

/-- A name that a query can have: at least one character and no blank. -/
structure IsQueryName (name : String) : Prop where
  ne_empty : name ≠ ""
  solid : ∀ c ∈ name.toList, isBlank c = false

theorem QueryFile.Opens.isQueryName {line name : List Char} {isLast : Bool}
    (h : Opens line name isLast) : IsQueryName (String.ofList name) := by
  have hname : name ≠ [] ∧ ∀ c ∈ name, isBlank c = false := by
    obtain ⟨_, _, _, -, -, h⟩ | ⟨⟨_, _, _, -, -, h⟩, -⟩ := h <;> exact h
  refine ⟨fun hempty => hname.1 ?_, by simpa using hname.2⟩
  simpa using congrArg String.toList hempty

theorem QueryFile.Sections.isQueryName {lines : List (List Char)}
    {ds : List (List Char × List Char)} (h : Sections lines ds) :
    ∀ d ∈ ds, IsQueryName (String.ofList d.1) := by
  induction h with
  | nil => nofun
  | opener hopens _ _ ih =>
    intro d hd
    rcases List.mem_cons.1 hd with rfl | hd
    · exact hopens.isQueryName
    · exact ih d hd
  | other _ _ ih => exact ih

/-- Queries as a file can define them. -/
structure QuerySet.Clean (queries : QuerySet) : Prop where
  name : ∀ name sql, queries.find? name = some sql → IsQueryName name
  text : ∀ name sql, queries.find? name = some sql → Tidy sql.toList

/-- A query of a file is a section of it. -/
theorem exists_section_of_find? {content name sql : String}
    (h : (parseQueries content).1.find? name = some sql) :
    ∃ ds, Sections (split '\n' content.toList) ds ∧ ∃ d ∈ ds, entry d = (name, sql) := by
  obtain ⟨ds, hds⟩ := exists_sections (split '\n' content.toList)
  refine ⟨ds, hds, ?_⟩
  rw [parseQueries, read_sections hds, NameMap.find?_ofEntries] at h
  obtain ⟨before, after, hsplit, -⟩ := List.lookup_eq_some_iff.1 h
  have hmem : (name, sql) ∈ (ds.map entry).reverse := by simp [hsplit]
  simpa using hmem

theorem clean_parseQueries (content : String) : (parseQueries content).1.Clean where
  name name sql h := by
    obtain ⟨ds, hds, d, hd, hentry⟩ := exists_section_of_find? h
    cases hentry
    exact hds.isQueryName d hd
  text name sql h := by
    obtain ⟨ds, hds, d, hd, hentry⟩ := exists_section_of_find? h
    cases hentry
    exact tidy_normalize _

/-- A text with a blank is no name. -/
theorem QuerySet.Clean.find?_of_blank {queries : QuerySet} (h : queries.Clean) {text : String}
    (hblank : ∃ c ∈ text.toList, isBlank c = true) : queries.find? text = none := by
  obtain ⟨c, hc, hb⟩ := hblank
  cases hfind : queries.find? text with
  | none => rfl
  | some sql =>
    have hsolid := (h.name text sql hfind).solid c hc
    rw [hb] at hsolid
    cases hsolid

end QueryBook
