/-
  SmallSql.Proofs.Named.World
  ────────────────────────────────
  The statements over rows that go by name.  A record maps each column to its cell; there are no
  positions, and a database or a table is any that has the name, in whatever case.

      refusal?   the first check that fails, as a sort of error
      answer     the columns, rows and counts that a statement gives
      after      the world that it leaves

  This is how the dialect is explained to its users.  Nothing here looks at how tables are stored.
-/
import SmallSql.Proofs.Statement.Run

namespace SmallSql

/-- The cell that comes last under a name. -/
def lastListed (listed : List (String × Cell)) (name : String) : Option Cell :=
  listed.reverse.lookup name

/-! ## §1. Records. -/

/-- A row by name: the cell of each column, and nothing under any other name. -/
abbrev Record := String → Option Cell

namespace Record

/-- The record that INSERT appends: NULL under the columns that are not listed. -/
def inserted (columns : List String) (listed : List (String × Cell)) : Record :=
  fun name => if name ∈ columns then some ((lastListed listed name).getD .null) else none

example : inserted ["a", "b"] [("b", .text "1"), ("b", .text "2")] "b" = some (.text "2") := by
  decide

/-- The record that UPDATE makes of another. -/
def written (r : Record) (assigned : List (String × Cell)) : Record :=
  fun name => (lastListed assigned name).or (r name)

/-- Whether UPDATE writes into a record. -/
def isUpdated (condition : Condition) (r : Record) : Bool :=
  r condition.column == some condition.value

/-- Whether DELETE removes a record. -/
def isDeleted (condition : Condition) (r : Record) : Bool :=
  (r condition.column).any condition.selects

end Record

/-! ## §2. Worlds. -/

/-- A table of records. -/
structure Relation where
  name : String
  columns : List String
  records : List Record := []

/-- A database of such tables. -/
structure Schema where
  name : String
  relations : List Relation := []

/-- All databases, and the name of the selected one. -/
structure World where
  schemas : List Schema := []
  selected : Option String := none

/-- What a statement answers, apart from its message. -/
structure Answer where
  columns : Option (List String) := none
  rows : Option (List (List Cell)) := none
  affected : Option Nat := none
deriving DecidableEq, Repr

namespace Relation

/-- Appends a record for each tuple. -/
def insert (r : Relation) (columns : List String) (tuples : List (List Cell)) : Relation :=
  { r with records := r.records ++
      tuples.map fun tuple => .inserted r.columns (columns.zip tuple) }

/-- Writes the assigned cells into the records that the condition picks, as they were before. -/
def update (r : Relation) (assignments : List (String × Cell)) (condition : Condition) : Relation :=
  { r with records := r.records.map fun record =>
      if record.isUpdated condition then record.written assignments else record }

/-- Removes the records that the condition selects. -/
def delete (r : Relation) (condition : Condition) : Relation :=
  { r with records := r.records.filter fun record => !record.isDeleted condition }

end Relation

namespace Schema

def relation? (schema : Schema) (name : String) : Option Relation :=
  schema.relations.find? fun r => sameName r.name name

/-- Changes the table of this name. -/
def modifyRelation (schema : Schema) (name : String) (f : Relation → Relation) : Schema :=
  { schema with relations := schema.relations.map fun r => if sameName r.name name then f r else r }

end Schema

namespace World

def schemaOf? (w : World) (name : String) : Option Schema :=
  w.schemas.find? fun schema => sameName schema.name name

/-- The selected database. -/
def schema? (w : World) : Option Schema := w.selected.bind w.schemaOf?

/-- The table of this name in the selected database. -/
def relation? (w : World) (name : String) : Option Relation :=
  w.schema?.bind fun schema => schema.relation? name

/-- The records of the table of this name. -/
def records (w : World) (name : String) : List Record :=
  ((w.relation? name).map (·.records)).getD []

/-- Changes the selected database. -/
def modifySelected (w : World) (f : Schema → Schema) : World where
  schemas := w.schemas.map fun schema =>
    if w.selected.any (fun name => sameName schema.name name) then f schema else schema
  selected := w.selected

/-- Changes the table of this name in the selected database. -/
def modifyRelation (w : World) (name : String) (f : Relation → Relation) : World :=
  w.modifySelected fun schema => schema.modifyRelation name f

/-! ## §3. Checks. -/

/-- Whether the table that a statement is about exists and passes. -/
def targetPasses (w : World) (statement : Statement) (passes : Relation → Bool) : Bool :=
  statement.targetTable?.all fun name => (w.relation? name).any passes

/-- Whether the name of a new table is free. -/
def tableIsFree (w : World) : Statement → Bool
  | .createTable name _ => (w.relation? name).isNone
  | _ => true

/-- Whether each tuple of an INSERT has a value for each listed column. -/
def tuplesFit : Statement → Bool
  | .insert _ columns tuples => tuples.all fun tuple => tuple.length == columns.length
  | _ => true

/-- Whether the name of a new database is free. -/
def databaseIsFree (w : World) : Statement → Bool
  | .createDatabase name => (w.schemaOf? name).isNone
  | _ => true

/-- Whether the database to select or to drop is there. -/
def databaseExists (w : World) : Statement → Bool
  | .use name | .dropDatabase name => (w.schemaOf? name).isSome
  | _ => true

/-- The checks in their order, each with the error where it fails. -/
def checks (w : World) (statement : Statement) : List (Bool × ErrorKind) := [
  (!statement.command.isTableScoped || w.schema?.isSome, .noDatabaseSelected),
  (w.tableIsFree statement, .tableAlreadyExists),
  (w.targetPasses statement fun _ => true, .tableNotFound),
  (w.targetPasses statement fun r => statement.namedColumns.all r.columns.contains, .unknownColumn),
  (tuplesFit statement, .arityMismatch),
  (w.databaseIsFree statement, .databaseAlreadyExists),
  (w.databaseExists statement, .databaseNotFound)]

/-- The error of the first check that fails. -/
def refusal? (w : World) (statement : Statement) : Option ErrorKind :=
  ((w.checks statement).find? fun check => !check.1).map (·.2)

/-! ## §4. Effects. -/

/-- The columns that SELECT shows. -/
def shownColumns (w : World) (table : String) : Projection → List String
  | .all => ((w.relation? table).map (·.columns)).getD []
  | .columns names => names

/-- The answer to a statement that passes. -/
def answer (w : World) : Statement → Answer
  | .select table projection => {
      columns := some (w.shownColumns table projection)
      rows := some ((w.records table).map fun r =>
        (w.shownColumns table projection).map fun name => (r name).getD .null) }
  | .insert _ _ tuples => { affected := some tuples.length }
  | .update table _ condition =>
    { affected := some ((w.records table).countP (·.isUpdated condition)) }
  | .delete table condition =>
    { affected := some ((w.records table).countP (·.isDeleted condition)) }
  | _ => {}

/-- The world after a statement that passes. -/
def after (w : World) : Statement → World
  | .select .. | .showDatabases | .showTables => w
  | .insert table columns tuples => w.modifyRelation table (·.insert columns tuples)
  | .update table assignments condition =>
    w.modifyRelation table (·.update assignments condition)
  | .delete table condition => w.modifyRelation table (·.delete condition)
  | .createDatabase name => { w with schemas := w.schemas ++ [{ name }] }
  | .use name => { w with selected := (w.schemaOf? name).map (·.name) }
  | .createTable name columns => w.modifySelected fun schema =>
    { schema with relations := schema.relations ++ [{ name, columns }] }
  | .dropDatabase name => {
      schemas := w.schemas.filter fun schema => !sameName schema.name name
      selected := w.selected.filter fun selected => !sameName selected name }
  | .dropTable name => w.modifySelected fun schema =>
    { schema with relations := schema.relations.filter fun r => !sameName r.name name }

/-- Carries out a statement; one that is refused leaves the world as it is. -/
def perform (w : World) (statement : Statement) : Except ErrorKind Answer × World :=
  match w.refusal? statement with
  | some kind => (.error kind, w)
  | none => (.ok (w.answer statement), w.after statement)

/-- Carries out the statement that a text writes. -/
def execute (w : World) (sql : String) : Except ErrorKind Answer × World :=
  match Statement.written sql with
  | .error fault => (.error fault.kind, w)
  | .ok statement => w.perform statement

/-- The outcomes of texts, one after the other, and the world after them. -/
def executeAll (w : World) : List String → List (Except ErrorKind Answer) × World
  | [] => ([], w)
  | sql :: rest =>
    let first := w.execute sql
    let others := first.2.executeAll rest
    (first.1 :: others.1, others.2)

end World

end SmallSql
