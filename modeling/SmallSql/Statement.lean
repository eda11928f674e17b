/-
  SmallSql.Statement
  ────────────────────────────────
  Statements: what a text asks for once its form has been read.  Names are kept as written; whether
  they mean anything is a question to the catalog.
-/
import SmallSql.Cell
import SmallSql.Command
import SmallSql.Token

namespace SmallSql

/-- What a SELECT shows. -/
inductive Projection where
  /-- Every column of the table. -/
  | all
  /-- The listed columns, in the order of the list. -/
  | columns (names : List String)
deriving DecidableEq, Repr

/-- The condition of a WHERE clause: a column compared with a cell. -/
structure Condition where
  column : String
  comparison : Comparison
  value : Cell
deriving DecidableEq, Repr

/-- The statements of the dialect. -/
inductive Statement where
  | select (table : String) (projection : Projection)
  | insert (table : String) (columns : List String) (rows : List (List Cell))
  | update (table : String) (assignments : List (String × Cell)) (condition : Condition)
  | delete (table : String) (condition : Condition)
  | createDatabase (name : String)
  | use (name : String)
  | createTable (name : String) (columns : List String)
  | showDatabases
  | showTables
  | dropDatabase (name : String)
  | dropTable (name : String)
deriving DecidableEq, Repr

namespace Statement

/-- The command that a statement carries out. -/
def command : Statement → Command
  | select .. => .select
  | insert .. => .insert
  | update .. => .update
  | delete .. => .delete
  | createDatabase _ => .createDatabase
  | use _ => .use
  | createTable .. => .createTable
  | showDatabases => .showDatabases
  | showTables => .showTables
  | dropDatabase _ => .dropDatabase
  | dropTable _ => .dropTable

/-- The table that must exist for the statement to make sense. -/
def targetTable? : Statement → Option String
  | select table _ => some table
  | insert table _ _ => some table
  | update table _ _ => some table
  | delete table _ => some table
  | dropTable name => some name
  | _ => none

/-- The columns that a statement names, in the order in which it names them: the projection, the
column list of an INSERT, or the assigned columns and then the column of the condition. -/
def namedColumns : Statement → List String
  | select _ .all => []
  | select _ (.columns names) => names
  | insert _ columns _ => columns
  | update _ assignments condition => assignments.map (·.1) ++ [condition.column]
  | delete _ condition => [condition.column]
  | _ => []

end Statement

end SmallSql
