import QueryBook.Text.Printable

/-!
# Quoted texts in messages

Messages that name a path or list parameter names show each text between quotes, with
everything unprintable escaped, so that a message never breaks its line. Single quotes are
used unless the text holds a single quote and no double quote.
-/

namespace QueryBook.Text

/-- A number in lower case hexadecimal, filled up with zeros to a width. -/
def hex (width n : Nat) : List Char :=
  let digits := Nat.toDigits 16 n
  List.replicate (width - digits.length) '0' ++ digits

/-- One character between the given quotes: the quote and the backslash behind a backslash,
line breaks and tabs by their letters, other unprintable characters by their code point. -/
def escapeChar (quote c : Char) : List Char :=
  if c == quote || c == '\\' then ['\\', c]
  else if c == '\n' then ['\\', 'n']
  else if c == '\r' then ['\\', 'r']
  else if c == '\t' then ['\\', 't']
  else if isPrintable c then [c]
  else if c.toNat < 0x100 then '\\' :: 'x' :: hex 2 c.toNat
  else if c.toNat < 0x10000 then '\\' :: 'u' :: hex 4 c.toNat
  else '\\' :: 'U' :: hex 8 c.toNat

/-- The quote that a text is shown between. -/
def quoteFor (cs : List Char) : Char :=
  if cs.contains '\'' && !cs.contains '"' then '"' else '\''

/-- A text as messages show it. -/
def quoted (s : String) : String :=
  let q := quoteFor s.toList
  String.ofList (q :: s.toList.flatMap (escapeChar q) ++ [q])

/-- A list of texts as messages show it. -/
def quotedList (ss : List String) : String :=
  "[" ++ ", ".intercalate (ss.map quoted) ++ "]"

example : quoted "it's" = "\"it's\"" := by decide +kernel
example : quoted "q\"'" = "'q\"\\''" := by decide +kernel
example : quotedList ["a\tb", "\u200b"] = "['a\\tb', '\\u200b']" := by decide +kernel

end QueryBook.Text
