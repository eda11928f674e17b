/-
  SmallSql.Statement.Effect
  ────────────────────────────────
  What a statement does.  Carrying it out changes nothing by itself: the effect holds the reply and
  the catalog and selection that are to take the place of the old ones, if the statement changes
  them.

  The columns of the statement come as positions, as `Statement.resolve` gives them; their names are
  not looked at again.
-/
import SmallSql.Statement.Resolution

namespace SmallSql

/-- The answer to a statement that was carried out. -/
structure Reply where
  command : Command
  message : String
  /-- The columns of a SELECT. -/
  columns : Option (List String) := none
  /-- The rows of a SELECT, cell by cell under its columns. -/
  rows : Option (List Row) := none
  /-- How many rows were inserted, updated or deleted. -/
  affected : Option Nat := none
deriving DecidableEq, Repr

/-- How many rows a reply shows. -/
def Reply.rowCount (r : Reply) : Nat := (r.rows.map List.length).getD 0

/-- A reply and the replacements that come with it. -/
structure Effect where
  reply : Reply
  catalog? : Option Catalog := none
  selection? : Option Selection := none
deriving DecidableEq, Repr

/-- Whether anything is replaced. -/
def Effect.isMutation (e : Effect) : Bool := e.catalog?.isSome || e.selection?.isSome

/-- Whether the condition selects a row with this cell in its column.  Equality is equality of the
written text; the orders compare integer views and select nothing where a side has none. -/
def Condition.selects (c : Condition) (stored : Cell) : Bool :=
  let ordered (holds : Int → Int → Bool) : Bool :=
    match stored.leadingInteger, c.value.leadingInteger with
    | some a, some b => holds a b
    | _, _ => false
  match c.comparison with
  | .eq => stored == c.value
  | .ne => stored != c.value
  | .lt => ordered (fun a b => decide (a < b))
  | .le => ordered (fun a b => decide (a ≤ b))
  | .gt => ordered (fun a b => decide (a > b))
  | .ge => ordered (fun a b => decide (a ≥ b))

namespace Catalog

/-- Puts a table in the place of the first of this name in the selected database. -/
def setTable (c : Catalog) (s : Selection) (name : String) (t : Table) : Catalog :=
  match s.name? with
  | some selected => c.modifyDatabase selected (fun db => db.modifyTable name (fun _ => t))
  | none => c

/-- Changes the selected database. -/
def modifySelected (c : Catalog) (s : Selection) (f : Database → Database) : Catalog :=
  match s.name? with
  | some selected => c.modifyDatabase selected f
  | none => c

end Catalog

namespace Statement

/-- SELECT: the cells at the positions, row by row; NULL where a row has none. -/
def executeSelect (table : String) (projection : Projection) (positions : List Nat) (c : Catalog)
    (s : Selection) : Except SqlError Effect := do
  let db ← selectedDatabase c s
  let t ← tableIn db table
  let columns := match projection with
    | .all => t.columns
    | .columns names => names
  let rows := t.rows.map fun row => positions.map fun position => row[position]?.getD .null
  return { reply := {
    command := .select
    message := "Retrieved " ++ toString rows.length ++ " rows from " ++ table
    columns := some columns
    rows := some rows } }

/-- INSERT: one row for each tuple, with its values at the positions and NULL elsewhere. -/
def executeInsert (table : String) (tuples : List (List Cell)) (positions : List Nat) (c : Catalog)
    (s : Selection) : Except SqlError Effect := do
  let db ← selectedDatabase c s
  let t ← tableIn db table
  let rows := tuples.map fun tuple => t.rowOf (positions.zip tuple)
  return {
    reply := {
      command := .insert
      message := toString rows.length ++ " rows inserted into " ++ table
      affected := some rows.length }
    catalog? := some (c.setTable s table (t.append rows)) }

/-- UPDATE: the assigned cells, in every row that has the compared value at the last position. -/
def executeUpdate (table : String) (assignments : List (String × Cell)) (condition : Condition)
    (positions : List Nat) (c : Catalog) (s : Selection) : Except SqlError Effect := do
  let some compared := positions.getLast? | throw (.unknownColumn [condition.column])
  let db ← selectedDatabase c s
  let t ← tableIn db table
  let cells := positions.dropLast.zip (assignments.map (·.2))
  let some (t', count) := t.updateWhere? cells (fun row => row[compared]? == some condition.value)
    | throw .outsideRow
  return {
    reply := {
      command := .update
      message := "Updated " ++ toString count ++ " rows in " ++ table
      affected := some count }
    catalog? := some (c.setTable s table t') }

/-- DELETE: the rows whose cell at the first position the condition does not select stay. -/
def executeDelete (table : String) (condition : Condition) (positions : List Nat) (c : Catalog)
    (s : Selection) : Except SqlError Effect := do
  let some compared := positions.head? | throw (.unknownColumn [condition.column])
  let db ← selectedDatabase c s
  let t ← tableIn db table
  let (t', count) := t.retain fun row => !condition.selects (row[compared]?.getD .null)
  return {
    reply := {
      command := .delete
      message := "Deleted " ++ toString count ++ " rows from " ++ table
      affected := some count }
    catalog? := some (c.setTable s table t') }

/-- CREATE TABLE: a new table without rows, behind the others. -/
def executeCreateTable (name : String) (columns : List String) (c : Catalog) (s : Selection) :
    Except SqlError Effect := do
  let db ← selectedDatabase c s
  return {
    reply := {
      command := .createTable
      message := "Table '" ++ name ++ "' created in database '" ++ db.name ++ "'" }
    catalog? := some (c.modifySelected s (·.addTable { name, columns })) }

/-- DROP TABLE: the first table of the name goes. -/
def executeDropTable (name : String) (c : Catalog) (s : Selection) : Except SqlError Effect := do
  let db ← selectedDatabase c s
  let _ ← tableIn db name
  return {
    reply := {
      command := .dropTable
      message := "Table '" ++ name ++ "' dropped from '" ++ db.name ++ "'" }
    catalog? := some (c.modifySelected s (·.removeTable name)) }

/-- SHOW TABLES: the names of the tables, one on a line. -/
def executeShowTables (c : Catalog) (s : Selection) : Except SqlError Effect := do
  let db ← selectedDatabase c s
  let message :=
    if db.tables.isEmpty then "No tables in database '" ++ db.name ++ "'"
    else "Tables in '" ++ db.name ++ "':\n" ++ "\n".intercalate db.tableNames
  return { reply := { command := .showTables, message } }

/-- CREATE DATABASE: a new database without tables, behind the others. -/
def executeCreateDatabase (name : String) (c : Catalog) : Effect where
  reply := {
    command := .createDatabase
    message := "Database '" ++ name ++ "' created successfully" }
  catalog? := some (c.addDatabase { name })

/-- USE: the database of the name is selected, by its stored name. -/
def executeUse (name : String) (c : Catalog) : Except SqlError Effect :=
  match c.database? name with
  | none => .error (.databaseNotFound name)
  | some db => .ok {
      reply := { command := .use, message := "Using database '" ++ db.name ++ "'" }
      selection? := some (.of db.name) }

/-- SHOW DATABASES: the names of the databases, one on a line. -/
def executeShowDatabases (c : Catalog) : Effect where
  reply := {
    command := .showDatabases
    message := "Databases:\n" ++ "\n".intercalate c.databaseNames }

/-- DROP DATABASE: the first database of the name goes, and with it the selection of that name. -/
def executeDropDatabase (name : String) (c : Catalog) (s : Selection) : Except SqlError Effect :=
  match c.database? name with
  | none => .error (.databaseNotFound name)
  | some db => .ok {
      reply := {
        command := .dropDatabase
        message := "Database '" ++ name ++ "' dropped successfully" }
      catalog? := some (c.removeDatabase name)
      selection? := if s.name?.any (sameName · db.name) then some .empty else none }

/-- Carries out a statement whose columns stand at these positions. -/
def execute (statement : Statement) (positions : List Nat) (c : Catalog) (s : Selection) :
    Except SqlError Effect :=
  match statement with
  | .select table projection => executeSelect table projection positions c s
  | .insert table _ tuples => executeInsert table tuples positions c s
  | .update table assignments condition => executeUpdate table assignments condition positions c s
  | .delete table condition => executeDelete table condition positions c s
  | .createDatabase name => .ok (executeCreateDatabase name c)
  | .use name => executeUse name c
  | .createTable name columns => executeCreateTable name columns c s
  | .showDatabases => .ok (executeShowDatabases c)
  | .showTables => executeShowTables c s
  | .dropDatabase name => executeDropDatabase name c s
  | .dropTable name => executeDropTable name c s

end Statement

end SmallSql
