/-
  SmallSql.Statement.Resolution
  ────────────────────────────────
  Checking a statement against a catalog and a selection.  The checks come in a fixed order and the
  first that fails is reported: the selected database, the target table, the named columns, the
  widths of the tuples; for statements on whole databases, whether the database exists.

  A statement that passes gets its columns as positions in the target table:

      SELECT   the projected columns, all of them for a star
      INSERT   the listed columns
      UPDATE   the assigned columns, then the column of the condition
      DELETE   the column of the condition
-/
import SmallSql.Catalog
import SmallSql.Statement

namespace SmallSql

/-- The selected database of a catalog. -/
def selectedDatabase (c : Catalog) (s : Selection) : Except SqlError Database :=
  match s.current? c with
  | some db => .ok db
  | none => .error .noDatabaseSelected

/-- The table of this name in a database. -/
def tableIn (db : Database) (name : String) : Except SqlError Table :=
  match db.table? name with
  | some t => .ok t
  | none => .error (.tableNotFound name db.name)

namespace Statement

/-- The positions of the columns that a statement names, or the names that are no columns. -/
def positionsIn (t : Table) : Statement → Except SqlError (List Nat)
  | .select _ .all => .ok (List.range t.columns.length)
  | statement =>
    let unknown := t.unknown statement.namedColumns
    if unknown.isEmpty then .ok (statement.namedColumns.filterMap t.position?)
    else .error (.unknownColumn unknown)

/-- The first tuple, counted from `number`, that does not have `width` values, with its width. -/
def misfit? (width number : Nat) : List (List Cell) → Option (Nat × Nat)
  | [] => none
  | tuple :: rest =>
    if tuple.length = width then misfit? width (number + 1) rest else some (number, tuple.length)

/-- Every tuple of an INSERT has a value for each listed column and none besides. -/
def checkTuples : Statement → Except SqlError Unit
  | .insert _ columns rows => match misfit? columns.length 1 rows with
    | some (row, width) => .error (.arityMismatch row columns.length width)
    | none => .ok ()
  | _ => .ok ()

/-- The checks of a statement that works inside a database. -/
def resolveIn (db : Database) (statement : Statement) : Except SqlError (List Nat) :=
  match statement with
  | .createTable name _ =>
    if (db.table? name).isSome then .error (.tableAlreadyExists name db.name) else .ok []
  | statement => match statement.targetTable? with
    | none => .ok []
    | some name => do
      let t ← tableIn db name
      let positions ← positionsIn t statement
      checkTuples statement
      return positions

/-- The checks of a statement that works on whole databases. -/
def checkDatabase (c : Catalog) : Statement → Except SqlError Unit
  | .createDatabase name =>
    if c.hasDatabase name then .error (.databaseAlreadyExists name) else .ok ()
  | .dropDatabase name | .use name =>
    if c.hasDatabase name then .ok () else .error (.databaseNotFound name)
  | _ => .ok ()

/-- Checks a statement and resolves its columns to positions. -/
def resolve (statement : Statement) (c : Catalog) (s : Selection) : Except SqlError (List Nat) :=
  if statement.command.isTableScoped then do
    resolveIn (← selectedDatabase c s) statement
  else do
    checkDatabase c statement
    return []

end Statement

end SmallSql
