/-
  SmallSql.Settings.Environment
  ────────────────────────────────
  Named texts that the surroundings of a program provide, and the file that can add to them:

      # where things are kept
      export SQLPLAY_DATA_DIR="my data"
      SQLPLAY_LOG=debug            # until it works

  The file is read up to its first bad line.  A name that is already known keeps its value, also an
  empty one.  A value can call for values that are known by then, as $NAME or in braces.
-/
import SmallSql.Text.Alphabetic
import SmallSql.Text.Blank
import SmallSql.Text.Numeric
import SmallSql.Text.Pieces

namespace SmallSql

/-- Named texts.  Of several with one name the first counts. -/
abbrev Environment := List (String × String)

namespace Environment

/-- The text of a name. -/
def get? (env : Environment) (name : String) : Option String := env.lookup name

/-- Adds a text under a name that is not known yet. -/
def provide (env : Environment) (name value : String) : Environment :=
  match env.get? name with
  | some _ => env
  | none => (name, value) :: env

/-! ## §1. Joining lines. -/

/-- Where a reader of characters stands as to quotes. -/
inductive Quoting where
  /-- Outside quotes. -/
  | bare
  /-- Outside quotes and behind a blank, where a comment may begin. -/
  | blank
  /-- Outside quotes and behind a backslash. -/
  | bareEscape
  | single
  | singleEscape
  | double
  | doubleEscape
deriving DecidableEq, Repr

namespace Quoting

/-- Outside quotes: what a character that begins nothing leads to. -/
def outside (quiet : Quoting) (c : Char) : Quoting :=
  if c = '\\' then bareEscape
  else if c = '"' then double
  else if c = '\'' then single
  else quiet

/-- Where the next character leads. -/
def next (q : Quoting) (c : Char) : Quoting :=
  match q with
  | bare => outside (if Text.isBlank c ∧ c ≠ '\n' ∧ c ≠ '\r' then blank else bare) c
  | blank => outside bare c
  | bareEscape => bare
  | single => if c = '\\' then singleEscape else if c = '\'' then bare else single
  | singleEscape => single
  | double => if c = '\\' then doubleEscape else if c = '"' then bare else double
  | doubleEscape => double

end Quoting

/-- How a line ends. -/
inductive LineEnd where
  /-- In a comment; the text before it. -/
  | comment (before : List Char)
  | quoting (q : Quoting)
deriving DecidableEq, Repr

/-- Reads a line up to a comment, if it has one. -/
def scanLine (q : Quoting) : List Char → LineEnd
  | [] => .quoting q
  | c :: rest =>
    if q = .blank ∧ c = '#' then .comment []
    else match scanLine (q.next c) rest with
      | .comment before => .comment (c :: before)
      | .quoting last => .quoting last

/-- Whether a line is a comment as a whole. -/
def isCommentLine (line : List Char) : Bool := (Text.trimStart line).head? = some '#'

/-- The lines of a text, those joined between which a quote stays open.  `begun` is the part of a
line that is open; one that is never closed is left out. -/
def joinLines (q : Quoting) (begun : List Char) : List (List Char) → List (List Char)
  | [] => []
  | line :: rest =>
    if begun.isEmpty ∧ isCommentLine line then joinLines .bare [] rest
    else match scanLine q line with
      | .comment before => (begun ++ before) :: joinLines .bare [] rest
      | .quoting .bare => (begun ++ Text.withoutEnd line) :: joinLines .bare [] rest
      | .quoting q => joinLines q (begun ++ line) rest

/-! ## §2. Values. -/

/-- Where a reader of a value stands. -/
inductive Place where
  /-- In the value, inside double quotes or not. -/
  | body (quoted : Bool)
  /-- Behind a backslash. -/
  | escape (quoted : Bool)
  /-- Inside single quotes. -/
  | verbatim
  /-- In a name that is called for, inside braces or not. -/
  | name (quoted braced : Bool) (sofar : List Char)
  /-- Behind the value. -/
  | ended
deriving DecidableEq, Repr

/-- The character that an escape stands for. -/
def unescape? (c : Char) : Option Char :=
  if c = 'n' then some '\n'
  else if c = '\\' ∨ c = '\'' ∨ c = '"' ∨ c = '$' ∨ c = ' ' then some c
  else none

/-- The text of a name that is called for, which is empty if there is none. -/
def substitute (env : Environment) (name : List Char) : List Char :=
  ((env.get? (String.ofList name)).getD "").toList

/-- Where a character of the value leads that is neither escaped nor part of a name, and what it
adds to the text. -/
def bodyStep (quoted : Bool) (c : Char) : Place × List Char :=
  if c = '$' then (.name quoted false [], [])
  else if c = '\\' then (.escape quoted, [])
  else if c = '"' then (.body (!quoted), [])
  else if quoted then (.body true, [c])
  else if c = '\'' then (.verbatim, [])
  else if c = ' ' ∨ c = '\t' then (.ended, [])
  else (.body false, [c])

/-- Where a character leads that stands behind a called name, or goes on with it. -/
def nameStep (env : Environment) (quoted braced : Bool) (sofar : List Char) (c : Char) :
    Place × List Char :=
  if Text.isAlphanumeric c then (.name quoted braced (sofar ++ [c]), [])
  else if braced then
    if c = '\x7d' then (.body quoted, substitute env sofar)
    else (.name quoted true (sofar ++ [c]), [])
  else if c = '\x7b' ∧ sofar.isEmpty then (.name quoted true [], [])
  else if c = '$' then (.name quoted false [], substitute env sofar)
  else (.body quoted, substitute env sofar ++ [c])

/-- The text of a value; none if it is badly formed. -/
def readValue (env : Environment) : Place → List Char → Option (List Char)
  | .body quoted, [] => if quoted then none else some []
  | .escape quoted, [] => if quoted then none else some []
  | .verbatim, [] => none
  | .name quoted braced sofar, [] =>
    if quoted ∨ braced then none else some (substitute env sofar)
  | .ended, [] => some []
  | .body quoted, c :: rest =>
    let (place, added) := bodyStep quoted c
    (readValue env place rest).map (added ++ ·)
  | .escape quoted, c :: rest => match unescape? c with
    | some d => (readValue env (.body quoted) rest).map (d :: ·)
    | none => none
  | .verbatim, c :: rest =>
    if c = '\'' then readValue env (.body false) rest
    else (readValue env .verbatim rest).map (c :: ·)
  | .name quoted braced sofar, c :: rest =>
    let (place, added) := nameStep env quoted braced sofar c
    (readValue env place rest).map (added ++ ·)
  | .ended, c :: rest =>
    if c = ' ' ∨ c = '\t' then readValue env .ended rest
    else if c = '#' then some []
    else none

/-! ## §3. Files. -/

/-- What a line provides. -/
inductive Provision where
  | nothing
  | value (name value : String)
deriving DecidableEq, Repr

/-- A character that a name may begin with. -/
def startsName (c : Char) : Bool := c.isAlpha || c = '_'

/-- A character that a name may go on with. -/
def continuesName (c : Char) : Bool := c.isAlphanum || c = '_' || c = '.'

/-- A name, and the text behind it and the white space that follows. -/
def splitName (cs : List Char) : Option (List Char × List Char) :=
  if cs.head?.any startsName then
    some (cs.takeWhile continuesName, Text.trimStart (cs.dropWhile continuesName))
  else none

/-- A name with its equals sign, and the text behind it. -/
def splitAssignment (cs : List Char) : Option (List Char × List Char) := do
  let (name, rest) ← splitName cs
  match rest with
  | '=' :: value => return (name, Text.trimStart value)
  | _ => none

/-- The assignment of a line, with or without the word that exports it. -/
def splitExport (cs : List Char) : Option (List Char × List Char) := do
  let (word, rest) ← splitName cs
  if word = ['e', 'x', 'p', 'o', 'r', 't'] ∧ rest.head? ≠ some '=' then splitAssignment rest
  else splitAssignment cs

/-- What a line provides; none if it is badly formed. -/
def readLine (env : Environment) (line : List Char) : Option Provision :=
  let line := Text.trim line
  if line.isEmpty ∨ line.head? = some '#' then some .nothing
  else do
    let (name, written) ← splitExport line
    let value ← if written.head? = some '#' then some [] else readValue env (.body false) written
    return .value (String.ofList name) (String.ofList value)

/-- The environment after lines, of which the first bad one ends the reading. -/
def readLines (env : Environment) : List (List Char) → Environment
  | [] => env
  | line :: rest => match readLine env line with
    | none => env
    | some .nothing => env.readLines rest
    | some (.value name value) => (env.provide name value).readLines rest

/-- The environment after the text of a file. -/
def readText (env : Environment) (text : String) : Environment :=
  env.readLines (joinLines .bare [] (Text.lines (Text.withoutMark text.toList)))

end Environment

end SmallSql
