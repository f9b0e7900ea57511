import QueryBook.Error
import QueryBook.Source.Encoding.SingleByte
import QueryBook.Source.Encoding.Utf16
import QueryBook.Source.Encoding.Utf8
import QueryBook.Text.Split
import QueryBook.Text.WordChar

/-!
# Encodings

The encodings a source may be kept in, their names, and the text of bytes in an encoding. A
name counts in any case, and every run of punctuation in it is the same.
-/

namespace QueryBook

/-- The encodings of text files. -/
inductive Encoding where
  | ascii
  | latin1
  | windows1252
  | utf8
  /-- UTF-8 whose text may begin with a signature, which is dropped. -/
  | utf8Signed
  /-- UTF-16 in the byte order that the text announces. -/
  | utf16
  | utf16In (order : ByteOrder)
  deriving DecidableEq, Repr

namespace Encoding

/-- The name without case and with each run of punctuation as one underscore; `pending` says
that punctuation was read since the last letter, `begun` that there was a letter. -/
def canonical (begun pending : Bool) : List Char → List Char
  | [] => []
  | c :: cs =>
    if Text.isWordChar c && c != '_' || c == '.' then
      (if begun && pending then ['_'] else []) ++
        if c.toNat < 0x80 then c.toLower :: canonical true false cs else canonical begun false cs
    else canonical begun true cs

/-- The canonical names of the encodings: the proper name of each, and its other names. -/
def names : List (Encoding × String × List String) :=
  [(.ascii, "ascii", ["646", "ansi_x3.4_1968", "ansi_x3_4_1968", "ansi_x3.4_1986", "cp367",
     "csascii", "ibm367", "iso646_us", "iso_646.irv_1991", "iso_ir_6", "us", "us_ascii"]),
   (.latin1, "latin_1", ["8859", "cp819", "csisolatin1", "ibm819", "iso8859", "iso8859_1",
     "iso_8859_1", "iso_8859_1_1987", "iso_ir_100", "l1", "latin", "latin1"]),
   (.windows1252, "cp1252", ["1252", "windows_1252"]),
   (.utf8, "utf_8", ["u8", "utf", "utf8", "utf8_ucs2", "utf8_ucs4", "cp65001"]),
   (.utf8Signed, "utf_8_sig", []),
   (.utf16, "utf_16", ["u16", "utf16"]),
   (.utf16In .little, "utf_16_le", ["unicodelittleunmarked", "utf_16le"]),
   (.utf16In .big, "utf_16_be", ["unicodebigunmarked", "utf_16be"])]

/-- The encoding of a name. In other names than the proper one a point may stand for an
underscore. -/
def named? (name : String) : Option Encoding :=
  let cs := canonical false false name.toList
  let written := String.ofList cs
  let pointless := String.ofList (cs.map fun c => if c = '.' then '_' else c)
  (names.find? fun e =>
    e.2.1 == written || e.2.2.contains written || e.2.2.contains pointless).map (·.1)

/-- Why bytes have no text in an encoding. -/
inductive Fault where
  | undecodable (fault : DecodeFault)
  /-- The bytes do not announce their byte order. -/
  | noByteOrderMark

/-- The text of the bytes in an encoding. -/
def decode (e : Encoding) (bytes : List UInt8) : Except Fault (List Char) :=
  match e with
  | ascii => (SingleByte.decodeFrom .ascii 0 bytes).mapError .undecodable
  | latin1 => (SingleByte.decodeFrom .latin1 0 bytes).mapError .undecodable
  | windows1252 => (SingleByte.decodeFrom .windows1252 0 bytes).mapError .undecodable
  | utf8 => (Utf8.decode bytes).mapError .undecodable
  | utf8Signed => (Utf8.decodeSigned bytes).mapError .undecodable
  | utf16In order => (Utf16.decodeFrom order 0 none bytes).mapError .undecodable
  | utf16 =>
    match Utf16.announced? bytes with
    | some order => (Utf16.decodeFrom order 2 none (bytes.drop 2)).mapError .undecodable
    | none =>
      match Utf16.decodeFrom .little 0 none bytes with
      | .error fault => .error (.undecodable fault)
      | .ok cs => if bytes.isEmpty then .ok cs else .error .noByteOrderMark

example : named? "ISO 8859-1" = some .latin1 := by decide +kernel
example : named? "--Utf  8" = some .utf8 := by decide +kernel
example : named? "iso8859.1" = some .latin1 := by decide +kernel
example : named? "utf.8" = none := by decide +kernel

end Encoding

/-- The text with every line end as a line feed: a carriage return, alone or before a line
feed, is one. -/
def universalLines : List Char → List Char
  | [] => []
  | '\r' :: '\n' :: cs => '\n' :: universalLines cs
  | '\r' :: cs => '\n' :: universalLines cs
  | c :: cs => c :: universalLines cs

end QueryBook
