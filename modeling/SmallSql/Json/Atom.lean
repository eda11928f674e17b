/-
  SmallSql.Json.Atom
  ────────────────────────────────
  JSON texts as atoms: brackets, punctuation and scalars.  Cutting a text into atoms never fails; a
  scalar that is written wrongly becomes an atom that carries its fault, because a reader may find
  another fault before it comes to that atom.  Nothing is cut behind an atom whose end is unknown.
-/
import SmallSql.Json.Number
import SmallSql.Json.Quoted

namespace SmallSql.Json

/-- The pieces of a JSON text. -/
inductive Atom where
  | openBrace
  | closeBrace
  | openBracket
  | closeBracket
  | colon
  | comma
  | null
  | boolean (value : Bool)
  | number (form : NumberForm)
  | string (content : String)
  /-- A string whose end is known, although its content cannot be read. -/
  | strangeString (fault : Fault)
  /-- A string without a known end: the fault of its content, and the fault of its end. -/
  | openString (content ending : Fault)
  /-- Anything else: a word that is none of the three, or another character. -/
  | broken (fault : Fault)
deriving DecidableEq, Repr

/-- The white space of JSON texts. -/
def isSpace (c : Char) : Bool := c = ' ' || c = '\n' || c = '\t' || c = '\r'

/-- Reads the rest of a word, of which the first letter was seen. -/
def readLiteral : List Char → List Char → Except Fault (List Char)
  | [], rest => .ok rest
  | _ :: _, [] => .error .unexpectedEnd
  | w :: ws, c :: rest => if c = w then readLiteral ws rest else .error .malformed

theorem readLiteral_length {ws cs rest : List Char} (h : readLiteral ws cs = .ok rest) :
    rest.length ≤ cs.length := by
  fun_induction readLiteral ws cs with
  | case1 => cases h; exact Nat.le_refl _
  | case2 => cases h
  | case3 _ _ _ ih => exact Nat.le_succ_of_le (ih h)
  | case4 => cases h

/-- A word that stands for a value. -/
def literalAtom (a : Atom) (word rest : List Char) : Atom × List Char :=
  match readLiteral word rest with
  | .ok left => (a, left)
  | .error f => (.broken f, [])

/-- A string, after its opening quote. -/
def stringAtom (rest : List Char) : Atom × List Char :=
  match readString rest with
  | .ok (content, left) => (.string (String.ofList content), left)
  | .error f => match skipString rest with
    | .ok left => (.strangeString f, left)
    | .error g => (.openString f g, [])

/-- The brackets and the punctuation. -/
def mark? (c : Char) : Option Atom :=
  if c = '\x7b' then some .openBrace
  else if c = '\x7d' then some .closeBrace
  else if c = '[' then some .openBracket
  else if c = ']' then some .closeBracket
  else if c = ':' then some .colon
  else if c = ',' then some .comma
  else none

/-- The scalar that begins with `c`, the text going on with `rest`, and what follows it. -/
def readScalar (c : Char) (rest : List Char) : Atom × List Char :=
  if c = '"' then stringAtom rest
  else if c = 'n' then literalAtom .null ['u', 'l', 'l'] rest
  else if c = 't' then literalAtom (.boolean true) ['r', 'u', 'e'] rest
  else if c = 'f' then literalAtom (.boolean false) ['a', 'l', 's', 'e'] rest
  else if c = '-' || Text.isDigit c then (.number (readNumber c rest).1, (readNumber c rest).2)
  else (.broken .malformed, [])

/-- The atom that begins with `c`, the text going on with `rest`, and what follows it. -/
def readAtom (c : Char) (rest : List Char) : Atom × List Char :=
  match mark? c with
  | some a => (a, rest)
  | none => readScalar c rest

theorem literalAtom_length (a : Atom) (word rest : List Char) :
    (literalAtom a word rest).2.length ≤ rest.length := by
  unfold literalAtom
  split
  · next h => exact readLiteral_length h
  · exact Nat.zero_le _

theorem stringAtom_length (rest : List Char) : (stringAtom rest).2.length ≤ rest.length := by
  unfold stringAtom
  split
  · next h => exact Nat.le_of_lt (readString_length h)
  · split
    · next h => exact Nat.le_of_lt (skipString_length h)
    · exact Nat.zero_le _

theorem readScalar_length (c : Char) (rest : List Char) :
    (readScalar c rest).2.length ≤ rest.length := by
  unfold readScalar
  split; · exact stringAtom_length rest
  split; · exact literalAtom_length ..
  split; · exact literalAtom_length ..
  split; · exact literalAtom_length ..
  split; · exact readNumber_length ..
  · exact Nat.zero_le _

/-- An atom takes at least its first character. -/
theorem readAtom_length (c : Char) (rest : List Char) :
    (readAtom c rest).2.length ≤ rest.length := by
  unfold readAtom
  split
  · exact Nat.le_refl _
  · exact readScalar_length c rest

/-- All atoms of a text. -/
def atoms (cs : List Char) : List Atom :=
  match _h : cs.dropWhile isSpace with
  | [] => []
  | c :: rest => (readAtom c rest).1 :: atoms (readAtom c rest).2
termination_by cs.length
decreasing_by
  have h₁ := readAtom_length c rest
  have h₂ := (List.dropWhile_suffix isSpace (l := cs)).length_le
  rw [_h, List.length_cons] at h₂
  omega

end SmallSql.Json
