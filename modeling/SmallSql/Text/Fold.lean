/-
  SmallSql.Text.Fold
  ────────────────────────────────
  Upper and lower case of a whole text.  Every character is mapped on its own, with one exception:
  a capital sigma becomes the final form when it ends a word, that is, when a letter with case
  stands before it and none after it, marks in between not counted.

  Names of databases and tables are compared through `lowercase`, keywords through `uppercase`.
-/
import SmallSql.Text.Cased
import SmallSql.Text.Lower
import SmallSql.Text.Upper

namespace SmallSql.Text

/-- The capital sigma, whose lowercase form depends on its place in the word. -/
def capitalSigma : Char := 'Σ'

/-- Whether the nearest character that is not looked through has case. -/
def meetsCased (cs : List Char) : Bool :=
  match cs.dropWhile isCaseIgnorable with
  | c :: _ => isCased c
  | [] => false

/-- Lowercases `cs`, the characters already passed being `before`, the nearest first. -/
def lowercaseAfter (before : List Char) : List Char → List Char
  | [] => []
  | c :: rest =>
    (if c = capitalSigma then
      (if meetsCased before && !meetsCased rest then ['ς'] else ['σ'])
    else lower c) ++ lowercaseAfter (c :: before) rest

/-- The text in lower case. -/
def lowercase (cs : List Char) : List Char := lowercaseAfter [] cs

/-- The text in upper case. -/
def uppercase (cs : List Char) : List Char := cs.flatMap upper

end SmallSql.Text
