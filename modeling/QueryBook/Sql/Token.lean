import QueryBook.Sql.Dialect
import QueryBook.Sql.Keyword

/-!
# Tokens

A lexeme is the smallest meaningful part of a statement; a token is a lexeme with the comments
that belong to it. Words are told apart without regard to case: a keyword is known by its kind
and keeps the word that was written.
-/

namespace QueryBook.Sql

/-- The smallest meaningful parts of a statement. -/
inductive Lexeme where
  /-- A word that is no keyword. -/
  | word (s : String)
  /-- A keyword by its kind, and the word or sign that was written for it. -/
  | keyword (kind written : String)
  /-- A name between quotes. -/
  | quoted (s : String)
  /-- A string. -/
  | text (s : String)
  /-- A string with a letter before it. -/
  | marked (mark : Char) (s : String)
  /-- The digits of a number, as written. -/
  | number (s : String)
  /-- Punctuation. -/
  | symbol (s : String)
  /-- A hint behind the first word of a statement. -/
  | hint (s : String)
  deriving DecidableEq, Repr

namespace Lexeme

/-- Whether the lexeme is a keyword of the kind. -/
def isKeyword (kind : String) : Lexeme → Bool
  | keyword k _ => k == kind
  | _ => false

/-- Whether the lexeme is the punctuation. -/
def isSymbol (mark : String) : Lexeme → Bool
  | symbol s => s == mark
  | _ => false

/-- What was written, without quotes and marks. -/
def content : Lexeme → String
  | word s | keyword _ s | quoted s | text s | marked _ s | number s | symbol s | hint s => s

/-- Whether the lexeme reads as the word, which is given in capitals; strings do not. -/
def reads (expected : String) : Lexeme → Bool
  | text _ => false
  | l => Text.upper l.content == expected

/-- Whether the lexeme is punctuation of one character or shares its meaning with such a one;
`SELECT` counts as well. These are no names, however sure it is that a name follows. -/
def isNoName : Lexeme → Bool
  | symbol s => s.length == 1 || s == "=="
  | keyword k _ => k == "NOT" || k == "SELECT"
  | _ => false

/-- The written form of a lexeme in a dialect. -/
def chars (d : Dialect) : Lexeme → List Char
  | word s | keyword _ s | number s | symbol s | hint s => s.toList
  | quoted s => d.printName s.toList
  | text s => d.printText s.toList
  | marked mark s => mark :: Text.delimited '\'' '\'' s.toList

end Lexeme

/-- A lexeme and the comments that belong to it. -/
structure Token where
  lexeme : Lexeme
  comments : List String
  deriving DecidableEq, Repr

namespace Token

def isKeyword (t : Token) (kind : String) : Bool :=
  t.lexeme.isKeyword kind

def isSymbol (t : Token) (mark : String) : Bool :=
  t.lexeme.isSymbol mark

end Token

end QueryBook.Sql
