/-
  SmallSql.Catalog
  ────────────────────────────────
  The catalog: a list of databases, each with a list of tables.  Names of databases and tables are
  kept as written and compared without regard to case; of several that match, the first is meant.

  Every edit is a function from the old value to the new one, so a statement that fails half-way
  leaves nothing behind.
-/
import SmallSql.Table
import SmallSql.Text.Fold

namespace SmallSql

/-- Two names that are equal in lower case. -/
def sameName (a b : String) : Bool := Text.lowercase a.toList == Text.lowercase b.toList

/-- Changes the first element that `wanted` selects. -/
def modifyFirst {α : Type} (wanted : α → Bool) (f : α → α) : List α → List α
  | [] => []
  | a :: rest => if wanted a then f a :: rest else a :: modifyFirst wanted f rest

/-- A named list of tables. -/
structure Database where
  name : String
  /-- Tables in creation order. -/
  tables : List Table := []
deriving DecidableEq, Repr

namespace Database

/-- The first table of this name. -/
def table? (db : Database) (name : String) : Option Table :=
  db.tables.find? (fun t => sameName t.name name)

/-- Appends a table. -/
def addTable (db : Database) (t : Table) : Database := { db with tables := db.tables ++ [t] }

/-- Removes the first table of this name, if there is one. -/
def removeTable (db : Database) (name : String) : Database :=
  { db with tables := db.tables.eraseP (fun t => sameName t.name name) }

/-- Replaces the first table of this name, if there is one, by what `f` makes of it. -/
def modifyTable (db : Database) (name : String) (f : Table → Table) : Database :=
  { db with tables := modifyFirst (fun t => sameName t.name name) f db.tables }

/-- The names of the tables, in creation order. -/
def tableNames (db : Database) : List String := db.tables.map (·.name)

/-- Every table is rectangular. -/
def Rectangular (db : Database) : Prop := ∀ t ∈ db.tables, t.Rectangular

end Database

/-- All databases, in creation order. -/
structure Catalog where
  databases : List Database := []
deriving DecidableEq, Repr

namespace Catalog

/-- The first database of this name. -/
def database? (c : Catalog) (name : String) : Option Database :=
  c.databases.find? (fun db => sameName db.name name)

/-- Whether there is a database of this name. -/
def hasDatabase (c : Catalog) (name : String) : Bool := (c.database? name).isSome

/-- Appends a database. -/
def addDatabase (c : Catalog) (db : Database) : Catalog := { databases := c.databases ++ [db] }

/-- Removes the first database of this name, if there is one. -/
def removeDatabase (c : Catalog) (name : String) : Catalog :=
  { databases := c.databases.eraseP (fun db => sameName db.name name) }

/-- Replaces the first database of this name, if there is one, by what `f` makes of it. -/
def modifyDatabase (c : Catalog) (name : String) (f : Database → Database) : Catalog :=
  { databases := modifyFirst (fun db => sameName db.name name) f c.databases }

/-- The names of the databases, in creation order. -/
def databaseNames (c : Catalog) : List String := c.databases.map (·.name)

/-- Every table of every database is rectangular. -/
def Rectangular (c : Catalog) : Prop := ∀ db ∈ c.databases, db.Rectangular

end Catalog

/-- The database that table statements run against, by name; `none` when nothing is selected. -/
structure Selection where
  name? : Option String := none
deriving DecidableEq, Repr

namespace Selection

/-- Nothing selected. -/
def empty : Selection := {}

/-- The database of this name. -/
def of (name : String) : Selection := { name? := some name }

/-- The selected database, as far as the catalog still has it. -/
def current? (s : Selection) (c : Catalog) : Option Database := s.name?.bind c.database?

/-- Nothing is selected, or what is selected exists. -/
def isValidFor (s : Selection) (c : Catalog) : Bool :=
  match s.name? with
  | none => true
  | some name => c.hasDatabase name

end Selection

end SmallSql
