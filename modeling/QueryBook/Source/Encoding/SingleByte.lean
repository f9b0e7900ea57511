import QueryBook.Source.Fault

/-!
# Single byte encodings

Encodings in which each byte is a character of its own or none.
-/

namespace QueryBook.SingleByte

/-- A code page: the character of each byte, and how a byte without one is reported. -/
structure CodePage where
  codec : String
  reason : String
  char? : UInt8 → Option Char

/-- The text of the bytes from a position on. -/
def decodeFrom (page : CodePage) (position : Nat) : List UInt8 → Except DecodeFault (List Char)
  | [] => .ok []
  | b :: bs =>
    match page.char? b with
    | some c => (c :: ·) <$> decodeFrom page (position + 1) bs
    | none => .error ⟨page.codec, b, position, position + 1, page.reason⟩

/-- The seven bit code. -/
def CodePage.ascii : CodePage where
  codec := "ascii"
  reason := "ordinal not in range(128)"
  char? b := if b < 0x80 then some (Char.ofNat b.toNat) else none

/-- Each byte is the code point of its character. -/
def CodePage.latin1 : CodePage where
  codec := "latin-1"
  reason := ""
  char? b := some (Char.ofNat b.toNat)

/-- The characters of the bytes 0x80 to 0x9F in Windows code page 1252; 0 stands for none. -/
def windows1252Controls : List Nat :=
  [0x20AC, 0, 0x201A, 0x0192, 0x201E, 0x2026, 0x2020, 0x2021,
   0x02C6, 0x2030, 0x0160, 0x2039, 0x0152, 0, 0x017D, 0,
   0, 0x2018, 0x2019, 0x201C, 0x201D, 0x2022, 0x2013, 0x2014,
   0x02DC, 0x2122, 0x0161, 0x203A, 0x0153, 0, 0x017E, 0x0178]

/-- Windows code page 1252: as `latin1` but for the bytes 0x80 to 0x9F. -/
def CodePage.windows1252 : CodePage where
  codec := "charmap"
  reason := "character maps to <undefined>"
  char? b :=
    if 0x80 ≤ b ∧ b < 0xA0 then
      match windows1252Controls[b.toNat - 0x80]? with
      | some 0 | none => none
      | some code => some (Char.ofNat code)
    else some (Char.ofNat b.toNat)

end QueryBook.SingleByte
