/-
  SmallSql.Shell.Completion
  ────────────────────────────────
  Completing a half-typed line.  The word that is being typed runs from the last separator to the
  cursor; keywords, shell commands and known names that begin with it, in any case, are offered.

  Positions count bytes of UTF-8.  The word is taken to start one byte behind its separator, and a
  hint is cut from a candidate at the byte length of the word; either may fall inside a character,
  and then there is no answer.
-/
import SmallSql.Shell.DotCommand
import SmallSql.Shell.Style
import SmallSql.Text.Bytes
import SmallSql.Text.UppercaseLetter
import SmallSql.Token

namespace SmallSql.Shell

/-! ## §1. Cuts. -/

/-- A position was asked for that is no boundary between characters of the text. -/
inductive CutFault where
  | insideCharacter
deriving DecidableEq, Repr

/-- Cuts a text at a byte position, or says that there is no cut. -/
def cutAt (position : Nat) (cs : List Char) : Except CutFault (List Char × List Char) :=
  match Text.splitAtByte position cs with
  | some parts => .ok parts
  | none => .error .insideCharacter

/-! ## §2. Candidates. -/

/-- A character that ends the word before it. -/
def separatesWords (c : Char) : Bool := Text.isBlank c || c = '(' || c = ','

/-- Where the last word of a text starts, `found` being the start of the word so far and `position`
the place of the next character. -/
def wordStartFrom (found position : Nat) : List Char → Nat
  | [] => found
  | c :: rest =>
    wordStartFrom (if separatesWords c then position + 1 else found) (position + c.utf8Size) rest

/-- Where the last word of a text starts: one byte behind its last separator. -/
def wordStart (cs : List Char) : Nat := wordStartFrom 0 0 cs

/-- The words that are always offered: keywords, then shell commands. -/
def fixedWords : List String :=
  Keyword.all.map Keyword.spelling ++ DotCommand.all.map DotCommand.name

/-- The word that a text is compared as. -/
def foldWord (s : String) : List Char := Text.lowercase s.toList

/-- What a word may be completed to: the fixed words, in small letters if the word has no capital,
and then the names. -/
def candidates (names : List String) (word : List Char) : List String :=
  if word.isEmpty then []
  else
    let folded := Text.lowercase word
    let small := word.all (fun c => !Text.isUppercase c)
    let begins (s : String) : Bool := folded.isPrefixOf (foldWord s)
    ((fixedWords.filter begins).map fun s => if small then String.ofList (foldWord s) else s)
      ++ names.filter begins

/-! ## §3. Completing. -/

/-- What may stand in the place of the word before the cursor. -/
structure Completion where
  /-- The byte position where the word starts. -/
  start : Nat
  words : List String
deriving DecidableEq, Repr

/-- The completions of the word before a position of a line. -/
def complete (names : List String) (line : List Char) (position : Nat) :
    Except CutFault Completion := do
  let (before, _) ← cutAt position line
  let start := wordStart before
  let (_, word) ← cutAt start before
  return { start, words := candidates names word }

/-- How the line would go on: the rest of the first candidate that is longer than the last word.
Nothing is suggested while the cursor is inside the line. -/
def hint (names : List String) (line : List Char) (position : Nat) :
    Except CutFault (Option String) := do
  if position < Text.byteSize line then return none
  let (_, word) ← cutAt (wordStart line) line
  match (candidates names word).find? (fun s => Text.byteSize word < Text.byteSize s.toList) with
  | none => return none
  | some s =>
    let (_, rest) ← cutAt (Text.byteSize word) s.toList
    return some (String.ofList rest)

/-- A hint as it is shown. -/
def renderHint (colour : Bool) (hint : String) : String := Style.grey.paintString colour hint

end SmallSql.Shell
