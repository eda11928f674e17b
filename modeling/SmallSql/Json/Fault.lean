/-
  SmallSql.Json.Fault
  ────────────────────────────────
  What can be wrong with a stored JSON text: it is no JSON, it ends too early, or it is JSON of
  another shape than the one asked for.  A table whose rows do not fit its columns is of the last
  kind and is reported in full.
-/

namespace SmallSql.Json

/-- The three kinds of fault. -/
inductive Category where
  | malformed
  | unexpectedEnd
  | shape
deriving DecidableEq, Repr

/-- Why a stored text could not be read. -/
inductive Fault where
  /-- The text is not JSON. -/
  | malformed
  /-- The text ends inside a value. -/
  | unexpectedEnd
  /-- The text is JSON, but not of the shape asked for. -/
  | shape
  /-- A row, counted from one, has another number of cells than its table has columns. -/
  | ragged (row : Nat) (table : String) (cells columns : Nat)
deriving DecidableEq, Repr

namespace Fault

def category : Fault → Category
  | malformed => .malformed
  | unexpectedEnd => .unexpectedEnd
  | shape | ragged .. => .shape

def message : Fault → String
  | malformed => "malformed text"
  | unexpectedEnd => "unexpected end of text"
  | shape => "value of another shape"
  | ragged row table cells columns =>
    "row " ++ toString row ++ " of table '" ++ table ++ "' has " ++ toString cells
      ++ " values for " ++ toString columns ++ " columns"

end Fault

end SmallSql.Json
