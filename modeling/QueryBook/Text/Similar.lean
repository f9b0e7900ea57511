import QueryBook.Text.Split

/-!
# Similar words

How alike two words are: twice the number of letters that they share, in runs taken from the
longest on, over the number of all their letters. The closest of some words is offered where a
name is unknown, unless even that one is too far off.
-/

namespace QueryBook.Text

/-- The length of the longest common beginning. -/
def commonBeginning : List Char → List Char → Nat
  | a :: as, b :: bs => if a = b then commonBeginning as bs + 1 else 0
  | _, _ => 0

/-- A run that two words share: where it begins in each, and its length. -/
structure Run where
  left : Nat
  right : Nat
  length : Nat
  deriving DecidableEq, Repr

/-- The longest run that two words share; of several, the leftmost in the first word and then
in the second. -/
def longestRun (as bs : List Char) : Run :=
  (List.range as.length).foldl (fun best i =>
    (List.range bs.length).foldl (fun best j =>
      let length := commonBeginning (as.drop i) (bs.drop j)
      if best.length < length then ⟨i, j, length⟩ else best) best) ⟨0, 0, 0⟩

/-- How many letters two words share: those of the longest run, and those shared before it and
behind it. The number bounds how many runs there are. -/
def sharedUpTo : Nat → List Char → List Char → Nat
  | 0, _, _ => 0
  | n + 1, as, bs =>
    let r := longestRun as bs
    if r.length = 0 then 0
    else
      sharedUpTo n (as.take r.left) (bs.take r.right) + r.length +
        sharedUpTo n (as.drop (r.left + r.length)) (bs.drop (r.right + r.length))

/-- How many letters two words share. -/
def shared (as bs : List Char) : Nat :=
  sharedUpTo as.length as bs

/-- Whether three fifths of the letters of two words are shared. -/
def areSimilar (as bs : List Char) : Bool :=
  10 * shared as bs ≥ 3 * (as.length + bs.length)

/-- Whether the first word is more alike to a third one than the second is; of two that are
equally alike, the one that is greater as a text is taken. -/
def isCloser (word : List Char) (a b : String) : Bool :=
  let left := shared a.toList word * (b.length + word.length)
  let right := shared b.toList word * (a.length + word.length)
  right < left || left = right && b < a

/-- The closest of some words, if one is similar at all. -/
def closest? (word : String) (choices : List String) : Option String :=
  (choices.filter fun c => areSimilar c.toList word.toList).foldl (fun best c =>
    match best with
    | none => some c
    | some b => if isCloser word.toList c b then some c else best) none

example : closest? "postgresql" ["presto", "postgres", "mysql"] = some "postgres" := by
  decide +kernel
example : closest? "generic" ["presto", "postgres", "mysql"] = none := by decide +kernel

end QueryBook.Text
