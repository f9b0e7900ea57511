import QueryBook.Sql.Token
import QueryBook.Text.WordChar

/-!
# Reading tokens

A statement is read in two passes. `scan` cuts it into lexemes, comments and line breaks: a
word is a maximal run of characters that are neither blank nor punctuation, a number begins
with a digit, quotes enclose names and strings. `attach` gives each comment to the token before
it on the same line or else to the token after it, tells keywords from other words, and joins
the two words of a keyword such as `GROUP BY`. A text whose quotes and comments are not all
closed has no tokens.
-/

namespace QueryBook.Sql

open Text

/-- What a statement is cut into. -/
inductive Scanned where
  | lexeme (l : Lexeme)
  | comment (text : String)
  /-- A comment that is a hint behind the first word of a statement. -/
  | hint (text : String)
  | lineBreak
  deriving DecidableEq, Repr

namespace Lexer

/-- Characters that end a word. -/
def punctuation : List Char :=
  "()[]\x7b\x7d&^:,-.+*/\\<>=;?%!|~@#".toList ++ ['`', '\'', '"']

/-- Whether a word can hold the character. -/
def isWordPart (c : Char) : Bool :=
  !isBlank c && !punctuation.contains c

/-- Punctuation of several characters; of two that fit, the longer comes first. -/
def longSymbols : List (List Char) :=
  ["<=>", "->>", "#>>", "<->", "~~~", "~~*", "?::", "::", "||", "<>", "!=", "<=", ">=", "==",
   ":=", "->", "=>", "#>", "&&", "??", "~~", "~*", "|>", "&<", "&>"].map String.toList

/-- Signs that stand for keywords, or for other punctuation. -/
def signs : List (String × Lexeme) :=
  [("!", .keyword "NOT" "!"), ("~~", .keyword "LIKE" "~~"), ("~~*", .keyword "ILIKE" "~~*"),
   ("~~~", .keyword "GLOB" "~~~"), ("!=", .symbol "<>"), ("==", .symbol "=")]

/-- The lexeme of a sign. -/
def sign (s : String) : Lexeme :=
  (signs.lookup s).getD (.symbol s)

/-- The rest of a number and what follows it. A number has at most one point and one exponent,
whose mark may be followed by a sign and a digit. -/
def number (point : Bool) (exponent : Nat) : List Char → List Char × List Char
  | [] => ([], [])
  | c :: cs =>
    let more (point : Bool) (exponent : Nat) :=
      let r := number point exponent cs
      (c :: r.1, r.2)
    if c.isDigit then more point exponent
    else if c = '.' ∧ point = false then more true exponent
    else if (c = '-' ∨ c = '+') ∧ exponent = 1 ∧ cs.head?.any Char.isDigit then more point 2
    else if (c = 'e' ∨ c = 'E') ∧ exponent = 0 then more point 1
    else ([], c :: cs)

/-- The content of quotes and what follows the closing one, which is doubled inside. -/
def quoted (close : Char) : List Char → Option (List Char × List Char)
  | [] => none
  | c :: cs =>
    if c = close then
      match cs with
      | c' :: cs' =>
        if c' = close then (quoted close cs').map fun r => (close :: r.1, r.2)
        else some ([], c' :: cs')
      | [] => some ([], [])
    else (quoted close cs).map fun r => (c :: r.1, r.2)

/-- The characters that keep the backslash before them without being escaped by it. -/
def patternMarks : List Char := ['%', '_']

/-- The content of a string that the backslash escapes in, and what follows the closing quote.
The backslash before a character that it does not stand for together with anything is dropped. -/
def escapedText (close : Char) (escapes : List (Char × Char)) :
    List Char → Option (List Char × List Char)
  | [] => none
  | c :: cs =>
    let more (added : List Char) (r : Option (List Char × List Char)) :=
      r.map fun r => (added ++ r.1, r.2)
    match cs with
    | [] => if c = close then some ([], []) else none
    | e :: cs' =>
      if c = '\\' then
        match escapes.lookup e with
        | some u => more [u] (escapedText close escapes cs')
        | none =>
          more (if patternMarks.contains e then [c, e] else [e]) (escapedText close escapes cs')
      else if c = close then
        if e = close then more [close] (escapedText close escapes cs') else some ([], e :: cs')
      else more [c] (escapedText close escapes (e :: cs'))

/-- The content of a string and what follows it. -/
def textContent (d : Dialect) (close : Char) (cs : List Char) :
    Option (List Char × List Char) :=
  if d.escapes.isEmpty then quoted close cs else escapedText close d.escapes cs

/-- Whether a character ends a line. -/
def endsLine (c : Char) : Bool :=
  c == '\n' || c == '\r'

/-- The delimiters of a comment. -/
structure CommentMarks where
  opening : List Char
  close : Char × Char

/-- The delimiters of comments that go over lines, the longer openings first. -/
def commentMarks : List CommentMarks :=
  [⟨['/', '*', '+'], ('*', '/')⟩, ⟨['/', '*'], ('*', '/')⟩, ⟨['{', '#'], ('#', '}')⟩]

/-- The text of a comment behind its opening and what follows the closing mark. `depth` counts
the comments that are open inside; `skip` is how many characters cannot begin another one. -/
def blockComment (marks : CommentMarks) (nested : Bool) (depth skip : Nat) :
    List Char → Option (List Char × List Char)
  | [] => none
  | [_] => none
  | c :: e :: cs =>
    let closes := c = marks.close.1 ∧ e = marks.close.2
    let opens := nested ∧ skip = 0 ∧ marks.opening.isPrefixOf (c :: e :: cs)
    if closes ∧ depth = 0 then some ([], cs)
    else
      let depth := if closes then depth - 1 else if opens then depth + 1 else depth
      let skip := if opens then marks.opening.length else skip - 1
      (blockComment marks nested depth skip (e :: cs)).map fun r => (c :: r.1, r.2)

/-- The part of a text that begins with a digit, and what follows it. -/
def numeric (d : Dialect) (c : Char) (cs : List Char) : Lexeme × List Char :=
  let (digits, rest) := number false 0 cs
  if d.digitNames ∧ rest.head?.any startsWord then
    (.word (String.ofList (c :: digits ++ rest.takeWhile isWordPart)), rest.dropWhile isWordPart)
  else (.number (String.ofList (c :: digits)), rest)
where
  /-- Whether a name can begin with the character. -/
  startsWord (c : Char) : Bool :=
    isWordChar c && !c.isDigit

/-- What stands before a closing mark, and what follows the mark. -/
def upTo (close : List Char) : List Char → Option (List Char × List Char)
  | [] => none
  | c :: cs =>
    if close.isPrefixOf (c :: cs) then some ([], (c :: cs).drop close.length)
    else (upTo close cs).map fun r => (c :: r.1, r.2)

/-- A string behind the dollar sign of its tag, and what follows it, if one begins. A tag is
closed by another sign, does not end the text, and is neither a number nor has blanks. -/
def dollarText (d : Dialect) (cs : List Char) : Option (Option (Lexeme × List Char)) :=
  let tag := cs.takeWhile (· ≠ '$')
  let rest := (cs.dropWhile (· ≠ '$')).drop 1
  let isNoTag := !tag.isEmpty && (rest.isEmpty || tag.all Char.isDigit || tag.any isBlank)
  if !d.dollarTexts || isNoTag then none
  else some ((upTo ('$' :: tag ++ ['$']) rest).map fun r => (.text (String.ofList r.1), r.2))

/-- A string with a mark before it, and what follows it, if one begins. -/
def markedText (d : Dialect) (c : Char) (cs : List Char) :
    Option (Option (Lexeme × List Char)) :=
  if c = '$' then dollarText d cs
  else
    match d.textMarks.lookup c, cs with
    | some mark, '\'' :: cs =>
      some ((quoted '\'' cs).map fun r => (.marked mark (String.ofList r.1), r.2))
    | _, _ => none

/-- A comment up to the end of its line, and what follows it. -/
def lineComment (cs : List Char) : Scanned × List Char :=
  (.comment (String.ofList (cs.takeWhile fun c => !endsLine c)),
    cs.dropWhile fun c => !endsLine c)

/-- A comment between marks, and what follows it, if one begins. -/
def markedComment (d : Dialect) (cs : List Char) : Option (Option (Scanned × List Char)) :=
  (commentMarks.find? fun m => m.opening.isPrefixOf cs).map fun m =>
    (blockComment m d.nestedComments 0 1 (cs.drop m.opening.length)).map fun r =>
      let text := String.ofList r.1
      (if m.opening.length = 3 then .hint text else .comment text, r.2)

/-- The keyword that holds punctuation, written in capitals. -/
def hyphenated : String := "USER-DEFINED"

/-- Punctuation or a word, and what follows it. -/
def plain (c : Char) (cs : List Char) : Lexeme × List Char :=
  match longSymbols.find? fun s => s.isPrefixOf (c :: cs) with
  | some s => (sign (String.ofList s), (c :: cs).drop s.length)
  | none =>
    if punctuation.contains c then (sign (String.singleton c), cs)
    else if upper (String.ofList ((c :: cs).take hyphenated.length)) == hyphenated then
      (.keyword hyphenated hyphenated, (c :: cs).drop hyphenated.length)
    else (.word (String.ofList (c :: cs.takeWhile isWordPart)), cs.dropWhile isWordPart)

/-- The first part of a text that does not begin with a blank, and what follows it. -/
def next (d : Dialect) (c : Char) (cs : List Char) : Option (Scanned × List Char) :=
  if c.isDigit then
    let r := numeric d c cs
    some (.lexeme r.1, r.2)
  else
    match d.closingNameQuote? c with
    | some close => (quoted close cs).map fun r => (.lexeme (.quoted (String.ofList r.1)), r.2)
    | none =>
      if d.textQuotes.contains c then
        (textContent d c cs).map fun r => (.lexeme (.text (String.ofList r.1)), r.2)
      else if c = '-' ∧ cs.head? = some '-' then some (lineComment (cs.drop 1))
      else if c = '#' ∧ d.hashComments then some (lineComment cs)
      else
        match markedComment d (c :: cs), markedText d c cs with
        | some r, _ => r
        | none, some r => r.map fun r => (.lexeme r.1, r.2)
        | none, none =>
          let r := plain c cs
          some (.lexeme r.1, r.2)

/-- A text cut into its parts; the number bounds how many there can be. -/
def scanUpTo (d : Dialect) : Nat → List Char → Option (List Scanned)
  | 0, _ => some []
  | _, [] => some []
  | n + 1, c :: cs =>
    if endsLine c then (scanUpTo d n cs).map (.lineBreak :: ·)
    else if isBlank c then scanUpTo d n cs
    else
      match next d c cs with
      | none => none
      | some (part, rest) => (scanUpTo d n rest).map (part :: ·)

/-- A text cut into its parts. -/
def scan (d : Dialect) (cs : List Char) : Option (List Scanned) :=
  scanUpTo d cs.length cs

/-- What has been read: the tokens, the last one first, the comments before the next token, and
how what comes next lies to the last token. -/
structure Reading where
  tokens : List Token
  pending : List String
  /-- No line break since the last token. -/
  sameLine : Bool
  /-- The word that the last token is, if a keyword of two words can begin with it. -/
  open? : Option String

namespace Reading

/-- Nothing has been read. -/
def start : Reading :=
  ⟨[], [], false, none⟩

/-- The last token. -/
def last? (r : Reading) : Option Lexeme :=
  r.tokens.head?.map Token.lexeme

/-- The tokens with comments added to the last one. -/
def commented (comments : List String) : List Token → List Token
  | [] => []
  | t :: ts => { t with comments := t.comments ++ comments } :: ts

/-- Reads a comment. -/
def comment (r : Reading) (text : String) : Reading :=
  if r.sameLine then { r with tokens := commented [text] r.tokens, open? := none }
  else { r with pending := r.pending ++ [text], open? := none }

/-- Reads a token; the comments before a semicolon belong to the token before it. -/
def add (r : Reading) (l : Lexeme) (open? : Option String) : Reading :=
  if l.isSymbol ";" && !r.tokens.isEmpty then
    ⟨⟨l, []⟩ :: commented r.pending r.tokens, [], true, open?⟩
  else ⟨⟨l, r.pending⟩ :: r.tokens, [], true, open?⟩

/-- The lexeme of a word: behind an at sign it is no keyword. -/
def wordLexeme (r : Reading) (s : String) : Lexeme :=
  if r.last?.any (·.isSymbol "@") then .word s
  else
    match Keyword.kind? (upper s) with
    | some kind => .keyword kind s
    | none => .word s

/-- The keyword that a word makes with the word before it, and its words. -/
def phrase? (r : Reading) (second : String) : Option (String × String) :=
  match r.open? with
  | none => none
  | some first =>
    (Keyword.phrases.lookup (first, second)).map fun kind => (kind, first ++ " " ++ second)

/-- Reads a word. -/
def word (r : Reading) (s : String) : Reading :=
  match r.tokens, r.phrase? (upper s) with
  | t :: ts, some (kind, written) =>
    ⟨{ t with lexeme := .keyword kind written } :: ts, [], true, none⟩
  | _, _ => r.add (r.wordLexeme s) (some (upper s))

/-- Keywords that a hint can follow. -/
def hinted : List String := ["DELETE", "INSERT", "SELECT", "UPDATE"]

/-- Reads one part. -/
def step (r : Reading) : Scanned → Reading
  | .lineBreak => { r with sameLine := false }
  | .comment text => r.comment text
  | .hint text =>
    if r.last?.any fun l => hinted.any l.isKeyword then r.add (.hint text) none
    else r.comment text
  | .lexeme (.word s) => r.word s
  | .lexeme l => r.add l none

/-- The tokens read; comments that no token follows belong to the last one. -/
def finish (r : Reading) : List Token :=
  (commented r.pending r.tokens).reverse

end Reading

/-- The parts of a text as tokens. -/
def attach (parts : List Scanned) : List Token :=
  (parts.foldl Reading.step .start).finish

end Lexer

/-- The tokens of a text, if all its quotes and comments are closed. -/
def tokenize (d : Dialect) (s : String) : Option (List Token) :=
  (Lexer.scan d s.toList).map Lexer.attach

end QueryBook.Sql
