/-
  SmallSql.Text.Pieces
  ────────────────────────────────
  Cutting a text: into the pieces between separators, which are lost, or into lines, which keep
  their ends.
-/

namespace SmallSql.Text

/-! ## §1. Pieces. -/

/-- The parts of a text between separators: one more than there are separators. -/
def pieces (separator : Char) : List Char → List (List Char)
  | [] => [[]]
  | c :: rest =>
    if c = separator then [] :: pieces separator rest
    else match pieces separator rest with
      | [] => [[c]]
      | piece :: more => (c :: piece) :: more

/-! ## §2. Lines. -/

/-- The lines of a text, each with its end; behind the last end there is no further line unless
text follows. -/
def lines : List Char → List (List Char)
  | [] => []
  | c :: rest =>
    if c = '\n' then [c] :: lines rest
    else match lines rest with
      | [] => [[c]]
      | line :: more => (c :: line) :: more

/-- A line without its end, which is a line feed with or without a carriage return before it. -/
def withoutEnd (line : List Char) : List Char :=
  if line.getLast? = some '\n' then
    let body := line.dropLast
    if body.getLast? = some '\r' then body.dropLast else body
  else line

/-- The mark that may stand before a text to tell how it is encoded. -/
def byteOrderMark : Char := '\uFEFF'

/-- A text without the mark of its encoding. -/
def withoutMark : List Char → List Char
  | [] => []
  | c :: rest => if c = byteOrderMark then rest else c :: rest

end SmallSql.Text
