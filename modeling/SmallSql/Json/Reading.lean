/-
  SmallSql.Json.Reading
  ────────────────────────────────
  Readers of JSON texts that know which shape they want.  The text is read from front to back and
  the first fault ends the reading, whether the text is no JSON there or JSON of another shape.
  What is not wanted is skipped (`skipValue`) and may hold scalars that stand for nothing.
-/
import SmallSql.Json.Atom
import SmallSql.Parsing

namespace SmallSql.Json

/-- A reader of atoms. -/
abbrev AtomParser := Parser Atom Fault

/-! ## §1. Faults by place. -/

/-- The fault of a scalar that is read as a value, if it has one. -/
def Atom.fault? : Atom → Option Fault
  | .null | .boolean _ | .string _ | .number .whole => none
  | .number .huge | .number .wrong => some .malformed
  | .number .cut => some .unexpectedEnd
  | .strangeString f => some f
  | .openString f _ => some f
  | .broken f => some f
  | .closeBrace | .closeBracket | .colon | .comma => some .malformed
  | .openBrace | .openBracket => none

/-- The fault of a scalar that is skipped, if it has one.  Escapes that stand for no character and
numbers out of range have none here; a number that the text cuts off counts as malformed. -/
def Atom.skipFault? : Atom → Option Fault
  | .number .huge | .strangeString _ => none
  | .number .cut => some .malformed
  | .openString _ f => some f
  | a => a.fault?

/-- The fault of another value than the one that is wanted. -/
def wrongValue : List Atom → Fault
  | [] => .unexpectedEnd
  | a :: _ => a.fault?.getD .shape

/-- The fault of something else than the punctuation that is due. -/
def wrongMark : List Atom → Fault
  | [] => .unexpectedEnd
  | _ :: _ => .malformed

/-- The fault of something else than a key. -/
def wrongKey : List Atom → Fault
  | [] => .unexpectedEnd
  | .strangeString f :: _ => f
  | .openString f _ :: _ => f
  | _ :: _ => .malformed

/-! ## §2. Values of a known shape. -/

/-- Takes this punctuation. -/
def mark (wanted : Atom) : AtomParser Unit :=
  Parser.token (fun a => if a = wanted then some () else none) wrongMark

/-- The content of a string atom. -/
def Atom.string? : Atom → Option String
  | .string s => some s
  | _ => none

/-- A string. -/
def string : AtomParser String := Parser.token Atom.string? wrongValue

/-- The key of a member. -/
def key : AtomParser String := Parser.token Atom.string? wrongKey

/-- Opens a value with this bracket. -/
def opening (bracket : Atom) : AtomParser Unit :=
  Parser.token (fun a => if a = bracket then some () else none) wrongValue

/-- What stands between an opening bracket and `closing`: nothing, or what `body` reads. -/
def bracketed {α : Type} (closing : Atom) (none : α) (body : AtomParser α) : AtomParser α := do
  if ← Parser.optional (· = closing) then return none
  let a ← body
  mark closing
  return a

/-- A list of items. -/
def list {α : Type} (item : AtomParser α) : AtomParser (List α) := do
  opening .openBracket
  bracketed .closeBracket [] (Parser.separated (· = .comma) item)

/-- The members of an object, after its opening brace.  `member` is given what the members before
it led to and the key of this one; it reads the colon and the value. -/
def members {σ : Type} (start : σ) (member : σ → String → AtomParser σ) : AtomParser σ :=
  bracketed .closeBrace start
    (Parser.separatedFrom (· = .comma) (fun s => do member s (← key)) start)

/-- The next item of a list that is read item by item; none at the end of the list. -/
def nextItem {α : Type} (isFirst : Bool) (item : AtomParser α) : AtomParser (Option α) := do
  if ← Parser.ahead (· = .closeBracket) then return none
  if !isFirst then mark .comma
  return some (← item)

/-- An item that must be there. -/
def dueItem {α : Type} (isFirst : Bool) (item : AtomParser α) : AtomParser α := do
  match ← nextItem isFirst item with
  | some a => return a
  | none => Parser.fail fun _ => .shape

/-! ## §3. Values of any shape. -/

/-- The brackets that are open around a value. -/
inductive Enclosure where
  | list
  | object
deriving DecidableEq

/-- What is due while a value of any shape is passed over. -/
inductive Due where
  /-- A value, or the end of the list if it has no items yet. -/
  | value (mayClose : Bool)
  /-- A key, or the end of the object if it has no members yet. -/
  | key (mayClose : Bool)
  | colon
  /-- What follows a value. -/
  | next

/-- How a value of any shape is passed over. -/
structure Care where
  /-- The fault of a scalar. -/
  fault? : Atom → Option Fault
  /-- How many brackets may be open, if there is a limit. -/
  depth? : Option Nat

/-- Whether one more bracket may be opened inside these. -/
def Care.mayOpen (care : Care) (enclosures : List Enclosure) : Bool :=
  match care.depth? with
  | some depth => enclosures.length < depth
  | none => true

/-- Whether the atom is a string, readable or not. -/
def Atom.isString : Atom → Bool
  | .string _ | .strangeString _ | .openString .. => true
  | _ => false

/-- Passes over the rest of a value, inside these brackets; gives what follows it. -/
def passOver (care : Care) : Due → List Enclosure → List Atom → Except Fault (List Atom)
  | .next, [], rest => .ok rest
  | _, _, [] => .error .unexpectedEnd
  | .next, .list :: outer, a :: rest =>
    if a = .comma then passOver care (.value false) (.list :: outer) rest
    else if a = .closeBracket then passOver care .next outer rest
    else .error .malformed
  | .next, .object :: outer, a :: rest =>
    if a = .comma then passOver care (.key false) (.object :: outer) rest
    else if a = .closeBrace then passOver care .next outer rest
    else .error .malformed
  | .colon, enclosures, a :: rest =>
    if a = .colon then passOver care (.value false) enclosures rest else .error .malformed
  | .key mayClose, enclosures, a :: rest =>
    if a = .closeBrace ∧ mayClose then passOver care .next enclosures.tail rest
    else if a.isString then match care.fault? a with
      | some f => .error f
      | none => passOver care .colon enclosures rest
    else .error .malformed
  | .value mayClose, enclosures, a :: rest =>
    if a = .closeBracket ∧ mayClose then passOver care .next enclosures.tail rest
    else if a = .openBracket then
      if care.mayOpen enclosures then passOver care (.value true) (.list :: enclosures) rest
      else .error .malformed
    else if a = .openBrace then
      if care.mayOpen enclosures then passOver care (.key true) (.object :: enclosures) rest
      else .error .malformed
    else match care.fault? a with
      | some f => .error f
      | none => passOver care .next enclosures rest

theorem passOver_length {care : Care} {due : Due} {enclosures : List Enclosure}
    {input rest : List Atom} (h : passOver care due enclosures input = .ok rest) :
    rest.length ≤ input.length := by
  fun_induction passOver care due enclosures input with
  | case1 => cases h; exact Nat.le_refl _
  | case2 | case5 | case8 | case10 | case12 | case14 | case17 | case19 | case20 => cases h
  | _ =>
    rename_i ih
    exact Nat.le_succ_of_le (ih h)

/-- Values that nobody asks for. -/
def Care.none : Care := { fault? := Atom.skipFault?, depth? := Option.none }

/-- Passes over one value of any shape. -/
def skipValue : AtomParser Unit where
  run input := match passOver .none (.value false) [] input with
    | .ok rest => .ok ((), rest)
    | .error f => .error f
  shrinks h := by
    split at h
    · next hp => cases h; exact passOver_length hp
    · cases h

/-- The fault of a value of any shape where only a scalar is wanted: the value is read to its end
first, with at most `depth` brackets open, and is of the wrong shape if nothing else is wrong. -/
def unwanted (depth : Nat) (input : List Atom) : Fault :=
  match passOver { fault? := Atom.fault?, depth? := some depth } (.value false) [] input with
  | .ok _ => .shape
  | .error f => f

/-! ## §4. Whole texts. -/

/-- Reads a text that holds one value and nothing else. -/
def readText {α : Type} (value : AtomParser α) (cs : List Char) : Except Fault α :=
  match value.run (atoms cs) with
  | .error f => .error f
  | .ok (a, []) => .ok a
  | .ok (_, _ :: _) => .error .malformed

end SmallSql.Json
