/-
  SmallSql.Settings.Toml
  ────────────────────────────────
  The part of TOML in which every line stands for itself: a key with its value, the head of a
  section, a comment, or nothing.

      # where things are kept
      data_dir = "data"     # a text; between single quotes no backslash counts
      [limits]
      rows = 1_000

  Keys below a head belong to its section.  No key may be given twice, nor be a section as well.  A
  text with a fault is no document at all, so faults carry nothing.
-/
import SmallSql.Cell
import SmallSql.Json.Quoted
import SmallSql.Parsing
import SmallSql.Text.Pieces

namespace SmallSql.Toml

/-! ## §1. Characters. -/

/-- The blanks inside a line. -/
def isSpace (c : Char) : Bool := c = ' ' || c = '\t'

/-- A character that may stand in a quoted text or a comment: no control character but the tab. -/
def isPlain (c : Char) : Bool := c = '\t' || (0x20 ≤ c.toNat && c.toNat ≠ 0x7F)

/-- A character of a key without quotes. -/
def isKeyChar (c : Char) : Bool := c.isAlphanum || c = '_' || c = '-'

/-- A character of a number or a truth value. -/
def isWordChar (c : Char) : Bool := c.isAlphanum || c = '_' || c = '-' || c = '+' || c = '.'

/-! ## §2. Numbers. -/

/-- Digits in one or more groups with a single underscore between them. -/
def isDigitRun (isDigit : Char → Bool) (cs : List Char) : Bool :=
  (Text.pieces '_' cs).all fun group => !group.isEmpty && group.all isDigit

/-- A digit run without a needless zero in front. -/
def isWhole (cs : List Char) : Bool :=
  isDigitRun Text.isDigit cs && (cs.head? ≠ some '0' || cs.length = 1)

/-- The number that the digits of a run write in a base. -/
def runValue (base : Nat) (cs : List Char) : Nat :=
  cs.foldl (fun n c => match Json.hexValue? c with
    | some digit => base * n + digit
    | none => n) 0

/-- A decimal integer that a signed word of sixty-four bits can hold. -/
def isInteger (cs : List Char) : Bool :=
  let (negative, digits) := Cell.splitSign cs
  isWhole digits && decide (runValue 10 digits ≤ Cell.maxMagnitude + if negative then 1 else 0)

/-- An integer in base two, eight or sixteen. -/
def isBasedInteger : List Char → Bool
  | '0' :: mark :: digits =>
    let fits (base : Nat) (isDigit : Char → Bool) : Bool :=
      isDigitRun isDigit digits && decide (runValue base digits ≤ Cell.maxMagnitude)
    if mark = 'x' then fits 16 (fun c => (Json.hexValue? c).isSome)
    else if mark = 'o' then fits 8 (fun c => '0' ≤ c && c ≤ '7')
    else if mark = 'b' then fits 2 (fun c => c = '0' || c = '1')
    else false
  | _ => false

/-- A number with a fraction, an exponent or both, or one of the two words for what is no number. -/
def isFraction (cs : List Char) : Bool :=
  let body := (Cell.splitSign cs).2
  let mantissa := body.takeWhile (fun c => c ≠ 'e' && c ≠ 'E')
  let exponent := body.drop mantissa.length
  let isExponent := isDigitRun Text.isDigit (Cell.splitSign (exponent.drop 1)).2
  body = ['i', 'n', 'f'] || body = ['n', 'a', 'n'] ||
  match Text.pieces '.' mantissa with
  | [whole] => isWhole whole && isExponent
  | [whole, fraction] =>
    isWhole whole && isDigitRun Text.isDigit fraction && (exponent.isEmpty || isExponent)
  | _ => false

def isNumber (cs : List Char) : Bool := isInteger cs || isBasedInteger cs || isFraction cs

/-! ## §3. Quoted texts. -/

/-- Cuts a text at the first double quote that no backslash guards. -/
def splitAtQuote : List Char → Option (List Char × List Char)
  | [] => none
  | '"' :: rest => some ([], rest)
  | '\\' :: c :: rest =>
    (splitAtQuote rest).map fun (body, left) => ('\\' :: c :: body, left)
  | c :: rest => (splitAtQuote rest).map fun (body, left) => (c :: body, left)

theorem splitAtQuote_length {cs body left : List Char} (h : splitAtQuote cs = some (body, left)) :
    left.length < cs.length := by
  fun_induction splitAtQuote cs generalizing body left with
  | case1 => cases h
  | case2 => cases h; simp
  | case3 c rest ih =>
    obtain ⟨⟨body', left'⟩, h', he⟩ := Option.map_eq_some_iff.1 h
    cases he
    have := ih h'
    simp only [List.length_cons]
    omega
  | case4 c rest _ _ ih =>
    obtain ⟨⟨body', left'⟩, h', he⟩ := Option.map_eq_some_iff.1 h
    cases he
    have := ih h'
    simp only [List.length_cons]
    omega

/-- The character with this number, which is no half of a pair. -/
def characterOf? (n : Nat) : Option Char := if n.isValidChar then some (Char.ofNat n) else none

/-- The character whose number these hexadecimal digits write. -/
def characterOfHex? (digits : List Char) : Option Char :=
  if digits.all (fun c => (Json.hexValue? c).isSome) then characterOf? (runValue 16 digits)
  else none

/-- The character that a one-letter escape stands for. -/
def simpleEscape? (c : Char) : Option Char :=
  if c = '"' then some '"'
  else if c = '\\' then some '\\'
  else if c = 'b' then some '\x08'
  else if c = 'f' then some '\x0c'
  else if c = 'n' then some '\n'
  else if c = 'r' then some '\r'
  else if c = 't' then some '\t'
  else none

/-- The text between two double quotes, with its escapes resolved. -/
def unescape : List Char → Option (List Char)
  | [] => some []
  | ['\\'] => none
  | '\\' :: 'u' :: a :: b :: c :: d :: rest => do
    return (← characterOfHex? [a, b, c, d]) :: (← unescape rest)
  | '\\' :: 'U' :: a :: b :: c :: d :: e :: f :: g :: h :: rest => do
    return (← characterOfHex? [a, b, c, d, e, f, g, h]) :: (← unescape rest)
  | '\\' :: c :: rest => do return (← simpleEscape? c) :: (← unescape rest)
  | c :: rest => if isPlain c then (unescape rest).map (c :: ·) else none

/-- A text between double quotes, behind the first one. -/
def splitEscaped (cs : List Char) : Option (List Char × List Char) :=
  match splitAtQuote cs with
  | none => none
  | some (body, left) => (unescape body).map fun content => (content, left)

/-- A text between single quotes, behind the first one. -/
def splitVerbatim (cs : List Char) : Option (List Char × List Char) :=
  let body := cs.takeWhile (· ≠ '\'')
  match cs.dropWhile (· ≠ '\'') with
  | [] => none
  | _ :: left => if body.all isPlain then some (body, left) else none

/-- A quoted text of either sort. -/
def splitQuoted : List Char → Option (List Char × List Char)
  | '"' :: rest => splitEscaped rest
  | '\'' :: rest => splitVerbatim rest
  | _ => none

theorem splitQuoted_length {cs content left : List Char}
    (h : splitQuoted cs = some (content, left)) : left.length < cs.length := by
  unfold splitQuoted at h
  split at h
  · next rest =>
    unfold splitEscaped at h
    split at h
    · cases h
    · next hs =>
      obtain ⟨_, _, he⟩ := Option.map_eq_some_iff.1 h
      cases he
      have := splitAtQuote_length hs
      simp only [List.length_cons]
      omega
  · next rest =>
    simp only [splitVerbatim] at h
    split at h
    · cases h
    · next c left' hd =>
      have := (List.dropWhile_suffix (l := rest) (· ≠ '\'')).length_le
      rw [hd] at this
      split at h
      · cases h
        simp only [List.length_cons] at this ⊢
        omega
      · cases h
  · cases h

/-! ## §4. Lines. -/

abbrev CharParser := Parser Char Unit

open SmallSql.Parser (token takeUntil ahead optional separated finished fail)

/-- What a key can be given. -/
inductive Value where
  | text (content : String)
  | truth (value : Bool)
  | number
deriving DecidableEq, Repr

/-- What a line says. -/
inductive Item where
  | nothing
  /-- The head of a section. -/
  | head (path : List String)
  | pair (path : List String) (value : Value)
deriving DecidableEq, Repr

def spaces : CharParser Unit := do let _ ← takeUntil (fun c => !isSpace c)

/-- One given character. -/
def mark (wanted : Char) : CharParser Unit :=
  token (fun c => if c = wanted then some () else none) (fun _ => ())

/-- A quoted text. -/
def quoted : CharParser String where
  run cs := match splitQuoted cs with
    | some (content, left) => .ok (String.ofList content, left)
    | none => .error ()
  shrinks {input a rest} h := by
    split at h
    · next hs => cases h; exact Nat.le_of_lt (splitQuoted_length hs)
    · cases h

/-- Whether a character opens a quoted text. -/
def opensQuote (c : Char) : Bool := c = '"' || c = '\''

/-- One name of a key. -/
def simpleKey : CharParser String := do
  if ← ahead opensQuote then quoted
  else
    let word ← takeUntil (fun c => !isKeyChar c)
    if word.isEmpty then fail fun _ => ()
    return String.ofList word

/-- A key: names with points between them. -/
def key : CharParser (List String) :=
  separated (· = '.') do
    spaces
    let name ← simpleKey
    spaces
    return name

/-- The value of a word without quotes. -/
def valueOfWord? (word : List Char) : Option Value :=
  if word = ['t', 'r', 'u', 'e'] then some (.truth true)
  else if word = ['f', 'a', 'l', 's', 'e'] then some (.truth false)
  else if isNumber word then some .number
  else none

def value : CharParser Value := do
  if ← ahead opensQuote then return .text (← quoted)
  else
    match valueOfWord? (← takeUntil (fun c => !isWordChar c)) with
    | some v => return v
    | none => fail fun _ => ()

/-- The head of a section, behind its bracket. -/
def head : CharParser Item := do
  let path ← key
  mark ']'
  return .head path

def pair : CharParser Item := do
  let path ← key
  mark '='
  spaces
  return .pair path (← value)

/-- What a line says in front of its comment. -/
def statement : CharParser Item := do
  if ← optional (· = '[') then head
  else if ← ahead (· ≠ '#') then pair
  else return .nothing

/-- The end of a line, with or without a comment. -/
def lineEnd : CharParser Unit := do
  spaces
  if ← optional (· = '#') then
    let _ ← takeUntil (fun c => !isPlain c)
  finished fun _ => ()

def line : CharParser Item := do
  spaces
  let item ← statement
  lineEnd
  return item

/-- What a line says, if it is well formed. -/
def Item.ofLine (cs : List Char) : Option Item :=
  match line.run (Text.withoutEnd cs) with
  | .ok (item, _) => some item
  | .error _ => none

/-! ## §5. Documents. -/

/-- A key with its value, and the section below whose head it was given. -/
structure Pair where
  head : List String
  path : List String
  value : Value
deriving DecidableEq, Repr

/-- The keys of a text and the heads of its sections. -/
structure Document where
  heads : List (List String) := []
  pairs : List Pair := []
deriving DecidableEq, Repr

namespace Document

/-- One path leads through the other. -/
def onOneWay (p q : List String) : Bool := p.isPrefixOf q || q.isPrefixOf p

/-- Whether a section of this name may begin. -/
def admitsHead (doc : Document) (h : List String) : Bool :=
  !doc.heads.contains h &&
  doc.pairs.all fun p => !p.path.isPrefixOf h && (!h.isPrefixOf p.path || h.isPrefixOf p.head)

/-- Whether a key of this path may be given in the section. -/
def admitsPair (doc : Document) (head path : List String) : Bool :=
  doc.pairs.all (fun p => !onOneWay p.path path) &&
  doc.heads.all fun h => !path.isPrefixOf h && (!h.isPrefixOf path || h.isPrefixOf head)

def addHead (doc : Document) (h : List String) : Document := { doc with heads := doc.heads ++ [h] }

def addPair (doc : Document) (p : Pair) : Document := { doc with pairs := doc.pairs ++ [p] }

/-- Takes on what the lines say, `head` being the section that is open. -/
def takeOn (doc : Document) (head : List String) : List Item → Option Document
  | [] => some doc
  | .nothing :: rest => doc.takeOn head rest
  | .head h :: rest =>
    if doc.admitsHead h then (doc.addHead h).takeOn h rest else none
  | .pair key value :: rest =>
    let path := head ++ key
    if doc.admitsPair head path then (doc.addPair { head, path, value }).takeOn head rest else none

/-- The document that a text writes. -/
def ofText (text : String) : Option Document := do
  let items ← (Text.lines (Text.withoutMark text.toList)).mapM Item.ofLine
  ({} : Document).takeOn [] items

/-- The value of a key outside sections. -/
def value? (doc : Document) (name : String) : Option Value :=
  (doc.pairs.find? (fun p => p.path = [name])).map (·.value)

/-- Whether a name outside sections stands for a section. -/
def isSection (doc : Document) (name : String) : Bool :=
  doc.heads.any (fun h => h.head? = some name)
    || doc.pairs.any (fun p => p.path.head? = some name && p.path ≠ [name])

end Document

end SmallSql.Toml
