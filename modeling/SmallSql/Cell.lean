/-
  SmallSql.Cell
  ────────────────────────────────
  What a table holds.  A cell is a text exactly as it was written, or NULL; there are no other
  types.  For comparisons by size a cell has an integer view: the number its text begins with.
-/
import SmallSql.Text.Blank
import SmallSql.Text.Numeric

namespace SmallSql

/-- One value of a row. -/
inductive Cell where
  /-- No value. -/
  | null
  /-- A text, kept as written. -/
  | text (content : String)
deriving DecidableEq, Repr, Inhabited

namespace Cell

/-- The cell as it is shown. -/
def display : Cell → String
  | null => "NULL"
  | text content => content

/-- The number that a run of ASCII digits writes. -/
def digitsValue (digits : List Char) : Nat :=
  digits.foldl (fun n c => 10 * n + (c.toNat - '0'.toNat)) 0

/-- The largest magnitude that an integer view can have: the views are signed 64-bit integers. -/
def maxMagnitude : Nat := 9223372036854775807

/-- Takes an optional sign off the text: whether it was a minus, and the rest. -/
def splitSign : List Char → Bool × List Char
  | '-' :: rest => (true, rest)
  | '+' :: rest => (false, rest)
  | rest => (false, rest)

theorem splitSign_length (cs : List Char) : (splitSign cs).2.length ≤ cs.length := by
  unfold splitSign
  split <;> simp

/-- The integer that a text begins with: white space, an optional sign and at least one ASCII digit.
What follows the digits does not matter.  A magnitude out of range gives none. -/
def leadingIntegerOf (cs : List Char) : Option Int :=
  let signed := splitSign (Text.trimStart cs)
  let digits := signed.2.takeWhile Text.isDigit
  if digits.isEmpty then none
  else if digitsValue digits ≤ maxMagnitude then
    some (if signed.1 then -(digitsValue digits : Int) else digitsValue digits)
  else none

/-- The integer view of a cell. -/
def leadingInteger : Cell → Option Int
  | null => none
  | text content => leadingIntegerOf content.toList

end Cell

end SmallSql
