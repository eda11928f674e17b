/-
  SmallSql.Command
  ────────────────────────────────
  The eleven commands of the dialect and how a text announces one: by the words it begins with, in
  any case, white space in front not counted.  The two SHOW commands have no parameters and are
  known only in their full written form.
-/
import SmallSql.Error
import SmallSql.Text.Blank
import SmallSql.Text.Fold

namespace SmallSql

/-- The kinds of statement. -/
inductive Command where
  | select
  | insert
  | update
  | delete
  | createDatabase
  | use
  | createTable
  | showDatabases
  | showTables
  | dropDatabase
  | dropTable
deriving DecidableEq, Repr

namespace Command

/-- The words that open a statement of this kind. -/
def keyword : Command → String
  | select => "SELECT"
  | insert => "INSERT INTO"
  | update => "UPDATE"
  | delete => "DELETE FROM"
  | createDatabase => "CREATE DATABASE"
  | use => "USE"
  | createTable => "CREATE TABLE"
  | showDatabases => "SHOW DATABASES"
  | showTables => "SHOW TABLES"
  | dropDatabase => "DROP DATABASE"
  | dropTable => "DROP TABLE"

/-- The opening words in lower case. -/
def opening : Command → String
  | select => "select"
  | insert => "insert into"
  | update => "update"
  | delete => "delete from"
  | createDatabase => "create database"
  | use => "use"
  | createTable => "create table"
  | showDatabases => "show databases"
  | showTables => "show tables"
  | dropDatabase => "drop database"
  | dropTable => "drop table"

/-- The commands in the order in which their openings are tried. -/
def trialOrder : List Command :=
  [select, insert, update, delete, createDatabase, use, createTable, showDatabases, showTables,
   dropDatabase, dropTable]

/-- The commands in the order in which they are presented. -/
def all : List Command :=
  [createDatabase, use, createTable, insert, select, update, delete, showDatabases, showTables,
   dropDatabase, dropTable]

/-- Statements that work inside the selected database. -/
def isTableScoped : Command → Bool
  | select | insert | update | delete | createTable | showTables | dropTable => true
  | createDatabase | use | showDatabases | dropDatabase => false

/-- The only text, trimmed and in lower case, of a command without parameters. -/
def fullForm? : Command → Option String
  | showDatabases => some "show databases;"
  | showTables => some "show tables;"
  | _ => none

/-- Whether a trimmed text in lower case is in the form that the command asks for. -/
def admits (k : Command) (folded : List Char) : Bool :=
  match k.fullForm? with
  | some form => folded == form.toList
  | none => true

/-- The first command whose opening words begin the text. -/
def announced? (folded : List Char) : Option Command :=
  trialOrder.find? (fun k => k.opening.toList.isPrefixOf folded)

/-- The command that a text announces. -/
def ofText (cs : List Char) : Except SqlError Command :=
  let folded := Text.lowercase (Text.trim cs)
  match announced? folded with
  | some k =>
    if k.admits folded then .ok k
    else .error (.unsupportedCommand (String.ofList (Text.firstWord cs)))
  | none => .error (.unsupportedCommand (String.ofList (Text.firstWord cs)))

end Command

end SmallSql
