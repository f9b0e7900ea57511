import QueryBook.Source.Fault

/-!
# UTF-8

The bytes of a text are read one by one. A lead byte fixes how many continuation bytes follow
and which range each must lie in; the ranges leave out overlong forms, surrogates and code
points beyond the last. What is not text is reported with the longest part of a sequence that
could still have been completed.
-/

namespace QueryBook.Utf8

/-- A sequence that has begun: its first byte and position, the bits so far, and the ranges of
the bytes still to come. -/
structure Pending where
  lead : UInt8
  start : Nat
  bits : Nat
  ranges : List (Nat × Nat)
  deriving Repr

/-- Any continuation byte. -/
def anyContinuation : Nat × Nat := (0x80, 0xBF)

/-- The bits that a lead byte gives and the ranges of the bytes that must follow it. -/
def opened? (lead : Nat) : Option (Nat × List (Nat × Nat)) :=
  if lead < 0xC2 then none
  else if lead < 0xE0 then some (lead - 0xC0, [anyContinuation])
  else if lead < 0xF0 then
    let second := if lead = 0xE0 then (0xA0, 0xBF) else if lead = 0xED then (0x80, 0x9F)
      else anyContinuation
    some (lead - 0xE0, [second, anyContinuation])
  else if lead < 0xF5 then
    let second := if lead = 0xF0 then (0x90, 0xBF) else if lead = 0xF4 then (0x80, 0x8F)
      else anyContinuation
    some (lead - 0xF0, [second, anyContinuation, anyContinuation])
  else none

/-- A fault of the bytes from the lead of a sequence up to a position. -/
def Pending.fault (p : Pending) (stop : Nat) (reason : String) : DecodeFault :=
  ⟨"utf-8", p.lead, p.start, stop, reason⟩

/-- The text of the bytes from a position on, when a sequence may have begun before it. -/
def decodeFrom (position : Nat) : Option Pending → List UInt8 → Except DecodeFault (List Char)
  | none, [] => .ok []
  | some p, [] => .error (p.fault position "unexpected end of data")
  | none, b :: bs =>
    if b < 0x80 then (Char.ofNat b.toNat :: ·) <$> decodeFrom (position + 1) none bs
    else
      match opened? b.toNat with
      | none => .error ⟨"utf-8", b, position, position + 1, "invalid start byte"⟩
      | some (bits, ranges) => decodeFrom (position + 1) (some ⟨b, position, bits, ranges⟩) bs
  | some p, b :: bs =>
    match p.ranges with
    | [] => .error (p.fault position "invalid continuation byte")
    | (low, high) :: ranges =>
      if low ≤ b.toNat ∧ b.toNat ≤ high then
        let bits := p.bits * 0x40 + (b.toNat - 0x80)
        if ranges.isEmpty then (Char.ofNat bits :: ·) <$> decodeFrom (position + 1) none bs
        else decodeFrom (position + 1) (some { p with bits, ranges }) bs
      else .error (p.fault position "invalid continuation byte")

/-- The text of the bytes. -/
def decode (bytes : List UInt8) : Except DecodeFault (List Char) :=
  decodeFrom 0 none bytes

/-- The bytes that mark a text as UTF-8. -/
def signature : List UInt8 := [0xEF, 0xBB, 0xBF]

/-- The text of the bytes behind a signature, if there is one; what is only the beginning of a
signature is no text yet. -/
def decodeSigned (bytes : List UInt8) : Except DecodeFault (List Char) :=
  if bytes.length < 3 ∧ bytes.isPrefixOf signature then .ok []
  else if signature.isPrefixOf bytes then decode (bytes.drop 3)
  else decode bytes

/-- The bytes of a text. -/
def encode (s : String) : List UInt8 :=
  s.toUTF8.toList

end QueryBook.Utf8
