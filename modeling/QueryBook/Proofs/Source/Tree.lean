import QueryBook.Source.FileTree

/-!
# Where paths lead

Trees have no links, so a path that leads somewhere leads to where its names alone say, with `..`
for the directory above (`locate_eq_ok`). A location that was found is that of a file or a
directory, and one that is missing in a directory that was found is not there at all
(`find?_of_follow`, `find?_of_missing`). So a file that was opened is a file of the tree
(`find?_openFile`), and it stays one when lines are added to it (`find?_addTo`).
-/

namespace QueryBook

namespace FileTree

/-! ## Changes of one location -/

theorem lookup_filter_ne (place : Location) (nodes : List (Location × Node)) {q : Location}
    (h : q ≠ place) : (nodes.filter fun e => e.1 != place).lookup q = nodes.lookup q := by
  induction nodes with
  | nil => rfl
  | cons e nodes ih =>
    obtain ⟨key, node⟩ := e
    by_cases hkey : key = place
    · have hq : (q == place) = false := by simpa using h
      simp [hkey, List.lookup_cons, hq, ih]
    · simp [hkey, List.lookup_cons, ih]

/-- Only the location that is set changes, unless it is one that is always there. -/
theorem find?_put {t : FileTree} {place : Location} (h : ¬ place <+: t.home) (node : Node)
    (q : Location) : (t.put place node).find? q = if q = place then some node else t.find? q := by
  by_cases hq : q = place
  · have hplace : place.isPrefixOf t.home = false := by
      rw [Bool.eq_false_iff, ne_eq, List.isPrefixOf_iff_prefix]
      exact h
    simp [hq, find?, put, hplace]
  · have hkey : (q == place) = false := by simpa using hq
    simp [hq, find?, put, List.lookup_cons, hkey, lookup_filter_ne place t.nodes hq]

/-- The working directory and those above it are directories. -/
theorem find?_above_home {t : FileTree} {place : Location} (h : place <+: t.home) :
    t.find? place = some .directory := by
  rw [find?, if_pos (List.isPrefixOf_iff_prefix.2 h)]

theorem not_prefix_of_find? {t : FileTree} {place : Location}
    (h : t.find? place ≠ some .directory) : ¬ place <+: t.home :=
  fun hprefix => h (find?_above_home hprefix)

/-- Bytes go to the end of the one file that they are added to. -/
theorem find?_addTo {t : FileTree} {place : Location} {before : List UInt8}
    (h : t.find? place = some (.file before)) (content : List UInt8) (q : Location) :
    (t.addTo place content).find? q =
      if q = place then some (.file (before ++ content)) else t.find? q := by
  have hplace : ¬ place <+: t.home := not_prefix_of_find? (by simp [h])
  simp only [addTo, h]
  exact find?_put hplace _ q

/-- Bytes change nothing but the file that they are added to. -/
theorem find?_addTo_of_ne {t : FileTree} {place q : Location} (h : q ≠ place)
    (bytes : List UInt8) : (t.addTo place bytes).find? q = t.find? q := by
  cases hplace : t.find? place with
  | none => rw [addTo, hplace]
  | some node =>
    cases node with
    | directory => rw [addTo, hplace]
    | file before => rw [find?_addTo hplace, if_neg h]

/-- A file that bytes are added to somewhere stays a file. -/
theorem isFile_addTo {t : FileTree} {q : Location} (h : ∃ content, t.find? q = some (.file content))
    (place : Location) (bytes : List UInt8) :
    ∃ content, (t.addTo place bytes).find? q = some (.file content) := by
  obtain ⟨content, hcontent⟩ := h
  by_cases hq : q = place
  · subst hq
    exact ⟨content ++ bytes, by rw [find?_addTo hcontent, if_pos rfl]⟩
  · exact ⟨content, by rw [find?_addTo_of_ne hq, hcontent]⟩

/-! ## Following names -/

/-- Where names lead to from a location by themselves: `..` takes back the name before it. -/
def resolve (dir : Location) (names : List String) : Location :=
  names.foldl (fun place name => if name = ".." then place.dropLast else place ++ [name]) dir

theorem resolve_append (dir : Location) (names names' : List String) :
    resolve dir (names ++ names') = resolve (resolve dir names) names' :=
  List.foldl_append

/-- Names other than `..` lead down. -/
theorem resolve_of_notMem {names : List String} (h : ".." ∉ names) (dir : Location) :
    resolve dir names = dir ++ names := by
  induction names generalizing dir with
  | nil => simp [resolve]
  | cons name names ih =>
    obtain ⟨hname, hnames⟩ := not_or.1 (mt List.mem_cons.2 h)
    have hstep : resolve dir (name :: names) = resolve (dir ++ [name]) names := by
      simp [resolve, Ne.symm hname]
    rw [hstep, ih hnames, List.append_assoc, List.singleton_append]

/-- Names that lead somewhere lead to where they say. -/
theorem eq_resolve_of_follow {t : FileTree} {dir place : Location} {names : List String}
    (h : t.follow dir names = .ok place) : place = resolve dir names := by
  induction names generalizing dir with
  | nil => cases h; rfl
  | cons name rest ih =>
    rw [resolve, List.foldl_cons]
    by_cases hup : name = ".."
    · rw [follow, if_pos hup] at h
      rw [if_pos hup]
      exact ih h
    · rw [follow, if_neg hup] at h
      rw [if_neg hup]
      split at h
      · cases h
      · split at h
        · cases h
        · exact ih h
        · split at h
          · next hrest => cases h; rw [List.isEmpty_iff.1 hrest]; rfl
          · cases h

/-- A location and all those above it are directories. -/
def Reached (t : FileTree) (dir : Location) : Prop :=
  ∀ above, above <+: dir → t.find? above = some .directory

theorem reached_origin (t : FileTree) (p : Path) : t.Reached (t.origin p) := by
  intro above h
  refine find?_above_home (h.trans ?_)
  rw [origin]
  split
  · exact List.nil_prefix
  · exact List.prefix_refl _

theorem Reached.dropLast {t : FileTree} {dir : Location} (h : t.Reached dir) :
    t.Reached dir.dropLast :=
  fun above habove => h above (habove.trans (List.dropLast_prefix dir))

theorem Reached.concat {t : FileTree} {dir : Location} (h : t.Reached dir) {name : String}
    (hname : t.find? (dir ++ [name]) = some .directory) : t.Reached (dir ++ [name]) := by
  intro above habove
  rcases List.prefix_concat_iff.1 habove with rfl | habove
  · exact hname
  · exact h above habove

/-- What names lead to is there. -/
theorem find?_of_follow {t : FileTree} {dir place : Location} {names : List String}
    (hdir : t.Reached dir) (h : t.follow dir names = .ok place) : t.find? place ≠ none := by
  induction names generalizing dir with
  | nil =>
    cases h
    simp [hdir _ (List.prefix_refl _)]
  | cons name rest ih =>
    rw [follow] at h
    split at h
    · exact ih hdir.dropLast h
    · split at h
      · cases h
      · split at h
        · cases h
        · next hfind => exact ih (hdir.concat hfind) h
        · next content hfind =>
          split at h
          · cases h
            simp [hfind]
          · cases h

/-- What is missing in a directory that was found is not there, and is not the directory above. -/
theorem find?_of_missing {t : FileTree} {dir parent : Location} {names : List String}
    {name : String} (hparent : t.follow dir names = .ok parent)
    (hmissing : t.follow dir (names ++ [name]) = .error .missing) :
    t.find? (parent ++ [name]) = none ∧ name ≠ ".." := by
  induction names generalizing dir with
  | nil =>
    cases hparent
    rw [List.nil_append, follow] at hmissing
    split at hmissing
    · cases hmissing
    · next hname =>
      split at hmissing
      · cases hmissing
      · split at hmissing
        · next hfind => exact ⟨hfind, hname⟩
        · cases hmissing
        · cases hmissing
  | cons first rest ih =>
    rw [List.cons_append, follow] at hmissing
    rw [follow] at hparent
    split at hparent
    · next hup =>
      rw [if_pos hup] at hmissing
      exact ih hparent hmissing
    · next hup =>
      rw [if_neg hup] at hmissing
      split at hparent
      · cases hparent
      · next hlong =>
        rw [if_neg hlong] at hmissing
        split at hparent
        · cases hparent
        · next hfind =>
          rw [hfind] at hmissing
          exact ih hparent hmissing
        · next content hfind =>
          -- A file has nothing below it, so its name is the last one.
          rw [hfind] at hmissing
          simp at hmissing

/-! ## Paths -/

theorem follow_of_locate {t : FileTree} {p : Path} {r : Except PathFault Location}
    (h : t.locate p = r) (hr : r ≠ .error .nameTooLong) : t.follow (t.origin p) p.names = r := by
  rw [locate] at h
  split at h
  · exact absurd h.symm hr
  · exact h

/-- A path that leads somewhere leads to where its names say. -/
theorem eq_resolve_of_locate {t : FileTree} {p : Path} {place : Location}
    (h : t.locate p = .ok place) : place = resolve (t.origin p) p.names :=
  eq_resolve_of_follow (follow_of_locate h nofun)

/-- The content that is read is that of the file where the names of the path lead. -/
theorem find?_of_read {t : FileTree} {p : Path} {content : List UInt8}
    (h : t.read p = .ok content) :
    t.find? (resolve (t.origin p) p.names) = some (.file content) := by
  rw [read] at h
  cases hplace : t.locate p with
  | error e => rw [hplace] at h; cases h
  | ok place =>
    rw [hplace] at h
    rw [← eq_resolve_of_locate hplace]
    cases hfind : t.find? place with
    | none => simp [hfind, bind, Except.bind] at h
    | some node =>
      cases node with
      | directory => simp [hfind, bind, Except.bind] at h
      | file bytes =>
        simp only [hfind, bind, Except.bind, pure, Except.pure, Except.ok.injEq] at h
        rw [h]

theorem isFile_iff {t : FileTree} {p : Path} :
    t.isFile p = true ↔ ∃ content, t.read p = .ok content := by
  rw [isFile]
  cases t.read p <;> simp

/-- A file that was opened is there. -/
theorem find?_openFile {t t' : FileTree} {p : Path} {place : Location}
    (h : t.openFile p = .ok (place, t')) : ∃ content, t'.find? place = some (.file content) := by
  rw [openFile] at h
  split at h
  · next found hfound =>
    split at h
    · cases h
    · next hfile =>
      cases h
      cases hnode : t.find? place with
      | none =>
        exact absurd hnode (find?_of_follow (reached_origin t p) (follow_of_locate hfound nofun))
      | some node =>
        cases node with
        | directory => exact absurd hnode hfile
        | file content => exact ⟨content, rfl⟩
  · next hmissing =>
    cases hparent : t.locate ⟨p.slashes, p.names.dropLast⟩ with
    | error e => rw [hparent] at h; cases h
    | ok parent =>
      rw [hparent] at h
      cases h
      -- The file is made in the directory where the last name of the path was missing.
      have hfollow : t.follow (t.origin p) p.names = .error .missing :=
        follow_of_locate hmissing nofun
      have hnames : p.names ≠ [] := by
        intro hnil
        rw [hnil] at hfollow
        cases hfollow
      rw [← List.dropLast_concat_getLast hnames] at hfollow
      have hnone : t.find? (parent ++ p.names.getLast?.toList) = none := by
        rw [List.getLast?_eq_some_getLast hnames]
        exact (find?_of_missing (follow_of_locate hparent nofun) hfollow).1
      have hplace : ¬ parent ++ p.names.getLast?.toList <+: t.home :=
        not_prefix_of_find? (by simp [hnone])
      exact ⟨[], by rw [find?_put hplace, if_pos rfl]⟩
  · cases h

end FileTree

end QueryBook
