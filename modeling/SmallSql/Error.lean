/-
  SmallSql.Error
  ────────────────────────────────
  Everything that can go wrong, by cause.  `SqlError.message` is the only place that words an error
  and `SqlError.kind` sorts the errors for a caller that reacts to them.
-/
import SmallSql.Json.Fault

namespace SmallSql

/-- The causes of a failure. -/
inductive SqlError where
  /-- The text announces no command; the word is its first. -/
  | unsupportedCommand (word : String)
  | syntaxError (detail : String)
  | noDatabaseSelected
  | tableNotFound (table database : String)
  | tableAlreadyExists (table database : String)
  /-- Column names that the table does not have. -/
  | unknownColumn (columns : List String)
  /-- A tuple of an INSERT, counted from one, that does not fit the column list. -/
  | arityMismatch (row expected actual : Nat)
  | databaseAlreadyExists (name : String)
  | databaseNotFound (name : String)
  | unsupportedOperator (operator : String)
  /-- A write that was refused. -/
  | storage (detail : String)
  /-- A file operation that failed. -/
  | io (detail : String)
  /-- A stored text that could not be read. -/
  | json (fault : Json.Fault)
  /-- A cell was to be written past the end of its row.  Positions that come from checking a
  statement never lead here. -/
  | outsideRow
deriving DecidableEq, Repr

/-- The sorts of error that a caller tells apart. -/
inductive ErrorKind where
  | unsupportedCommand
  | syntaxError
  | noDatabaseSelected
  | tableNotFound
  | tableAlreadyExists
  | unknownColumn
  | arityMismatch
  | databaseAlreadyExists
  | databaseNotFound
  | unsupportedOperator
  | storage
  | outsideRow
deriving DecidableEq, Repr

namespace SqlError

def kind : SqlError → ErrorKind
  | unsupportedCommand _ => .unsupportedCommand
  | syntaxError _ => .syntaxError
  | noDatabaseSelected => .noDatabaseSelected
  | tableNotFound .. => .tableNotFound
  | tableAlreadyExists .. => .tableAlreadyExists
  | unknownColumn _ => .unknownColumn
  | arityMismatch .. => .arityMismatch
  | databaseAlreadyExists _ => .databaseAlreadyExists
  | databaseNotFound _ => .databaseNotFound
  | unsupportedOperator _ => .unsupportedOperator
  | storage _ | io _ | json _ => .storage
  | outsideRow => .outsideRow

def message : SqlError → String
  | unsupportedCommand word => "Unsupported SQL command: " ++ word
  | syntaxError detail => "Syntax error: " ++ detail
  | noDatabaseSelected => "No database selected. Use 'USE database_name;' first."
  | tableNotFound table database =>
    "Table '" ++ table ++ "' not found in database '" ++ database ++ "'"
  | tableAlreadyExists table database =>
    "Table '" ++ table ++ "' already exists in database '" ++ database ++ "'"
  | unknownColumn columns => "Invalid columns: " ++ ", ".intercalate columns
  | arityMismatch row expected actual =>
    "Column count doesn't match value count in row " ++ toString row ++ ": expected "
      ++ toString expected ++ ", got " ++ toString actual
  | databaseAlreadyExists name => "Database '" ++ name ++ "' already exists"
  | databaseNotFound name => "Database '" ++ name ++ "' does not exist"
  | unsupportedOperator operator => "Unsupported operator: " ++ operator
  | storage detail => "Storage error: " ++ detail
  | io detail => "IO error: " ++ detail
  | json fault => "JSON error: " ++ fault.message
  | outsideRow => "Column position outside the row"

/-- The reason behind an error that wraps another one, in words. -/
def cause? : SqlError → Option String
  | io detail => some detail
  | json fault => some fault.message
  | _ => none

end SqlError

end SmallSql
