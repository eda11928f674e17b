/-
  SmallSql.Table
  ────────────────────────────────
  Tables: a name, an ordered list of columns and the rows in insertion order.  A row is a list of
  cells, one for each column; positions in the column list are positions in the rows.

  Column names are compared exactly.  The first column of a name is the one that is meant.
-/
import SmallSql.Cell

namespace SmallSql

/-- One row: a cell for each column, in the order of the columns. -/
abbrev Row := List Cell

/-- Writes cells at positions of a row; a position past its end is an error. -/
def Row.assign? (row : Row) : List (Nat × Cell) → Option Row
  | [] => some row
  | (position, cell) :: rest =>
    if position < row.length then Row.assign? (row.set position cell) rest else none

/-- A named table. -/
structure Table where
  name : String
  /-- Column names, in the order of `SELECT *`. -/
  columns : List String
  /-- Rows, the oldest first. -/
  rows : List Row := []
deriving DecidableEq, Repr

namespace Table

/-- Every row has a cell for each column and none besides. -/
def Rectangular (t : Table) : Prop := ∀ row ∈ t.rows, row.length = t.columns.length

/-- The position of a column. -/
def position? (t : Table) (column : String) : Option Nat :=
  t.columns.findIdx? (fun c => c == column)

/-- Whether the table has a column of this name. -/
def hasColumn (t : Table) (column : String) : Bool := t.columns.contains column

/-- The names that are no columns of the table, each once, in the order given. -/
def unknown (t : Table) (names : List String) : List String :=
  (names.filter (fun n => !t.hasColumn n)).eraseDups

/-- A full row with the given cells at the given positions and NULL elsewhere.  Of two cells for one
position the last is kept; a position past the last column is ignored. -/
def rowOf (t : Table) (cells : List (Nat × Cell)) : Row :=
  cells.foldl (fun row p => row.set p.1 p.2) (List.replicate t.columns.length .null)

/-- Appends rows. -/
def append (t : Table) (rows : List Row) : Table := { t with rows := t.rows ++ rows }

/-- Writes the given cells into every row that `hit` selects, and counts those rows. -/
def updateWhere? (t : Table) (cells : List (Nat × Cell)) (hit : Row → Bool) :
    Option (Table × Nat) := do
  let rows ← t.rows.mapM (fun row => if hit row then row.assign? cells else some row)
  return ({ t with rows := rows }, t.rows.countP hit)

/-- Keeps the rows that `keep` selects, and counts the others. -/
def retain (t : Table) (keep : Row → Bool) : Table × Nat :=
  ({ t with rows := t.rows.filter keep }, t.rows.countP (fun row => !keep row))

end Table

end SmallSql
