import QueryBook.Source.Fault

/-!
# UTF-16

Units of two bytes in either byte order. A unit of the high surrogate range needs one of the
low range behind it, and the two stand for one character.
-/

namespace QueryBook

/-- Which byte of a unit comes first. -/
inductive ByteOrder where
  | little
  | big
  deriving DecidableEq, Repr

namespace Utf16

/-- The name of the encoding in a byte order. -/
def codec : ByteOrder → String
  | .little => "utf-16-le"
  | .big => "utf-16-be"

/-- The unit that two bytes make. -/
def unit (order : ByteOrder) (first second : UInt8) : Nat :=
  match order with
  | .little => second.toNat * 0x100 + first.toNat
  | .big => first.toNat * 0x100 + second.toNat

def isHighSurrogate (u : Nat) : Bool :=
  0xD800 ≤ u && u < 0xDC00

def isLowSurrogate (u : Nat) : Bool :=
  0xDC00 ≤ u && u < 0xE000

/-- The character that two surrogates make. -/
def combine (high low : Nat) : Char :=
  Char.ofNat (0x10000 + (high - 0xD800) * 0x400 + (low - 0xDC00))

/-- The text of the bytes from a position on, when a high surrogate may stand before it, given
with the first of its bytes. -/
def decodeFrom (order : ByteOrder) (position : Nat) :
    Option (Nat × UInt8) → List UInt8 → Except DecodeFault (List Char)
  | none, [] => .ok []
  | none, [b] => .error ⟨codec order, b, position, position + 1, "truncated data"⟩
  | some (_, lead), [] =>
    .error ⟨codec order, lead, position - 2, position, "unexpected end of data"⟩
  | some (_, lead), [_] =>
    .error ⟨codec order, lead, position - 2, position + 1, "unexpected end of data"⟩
  | none, a :: b :: bs =>
    let u := unit order a b
    if isHighSurrogate u then decodeFrom order (position + 2) (some (u, a)) bs
    else if isLowSurrogate u then
      .error ⟨codec order, a, position, position + 2, "illegal encoding"⟩
    else (Char.ofNat u :: ·) <$> decodeFrom order (position + 2) none bs
  | some (high, lead), a :: b :: bs =>
    let u := unit order a b
    if isLowSurrogate u then (combine high u :: ·) <$> decodeFrom order (position + 2) none bs
    else .error ⟨codec order, lead, position - 2, position, "illegal UTF-16 surrogate"⟩

/-- The byte order that the first bytes of a text announce. -/
def announced? : List UInt8 → Option ByteOrder
  | 0xFF :: 0xFE :: _ => some .little
  | 0xFE :: 0xFF :: _ => some .big
  | _ => none

end Utf16

end QueryBook
