/-
  SmallSql.Snapshot
  ────────────────────────────────
  The written form of a catalog: one line of JSON, objects with their members in a fixed order and
  rows as lists of cells.  A text may also give the members in another order, leave out lists that
  have no elements, write an object as the list of its members, and hold members that mean nothing.

  A table is read only if it is rectangular.  A snapshot of a state stands in a store under two keys
  that are written together: the catalog, and the selected name, which is missing when nothing is
  selected.
-/
import SmallSql.Catalog
import SmallSql.Json.Reading
import SmallSql.Storage.Store

namespace SmallSql.Snapshot

open Json (AtomParser Fault)

/-! ## §1. Writing. -/

/-- A JSON list of written values. -/
def renderList (items : List (List Char)) : List Char :=
  '[' :: ([','].intercalate items ++ [']'])

/-- A JSON object of written members. -/
def renderObject (members : List (String × List Char)) : List Char :=
  '\x7b' :: ([','].intercalate (members.map fun m => Json.quoted m.1.toList ++ ':' :: m.2)
    ++ ['\x7d'])

def renderString (s : String) : List Char := Json.quoted s.toList

def renderCell : Cell → List Char
  | .null => ['n', 'u', 'l', 'l']
  | .text content => renderString content

def renderRow (row : Row) : List Char := renderList (row.map renderCell)

def renderTable (t : Table) : List Char :=
  renderObject [("name", renderString t.name),
    ("columns", renderList (t.columns.map renderString)),
    ("rows", renderList (t.rows.map renderRow))]

def renderDatabase (db : Database) : List Char :=
  renderObject [("name", renderString db.name), ("tables", renderList (db.tables.map renderTable))]

def renderCatalog (c : Catalog) : List Char :=
  renderObject [("databases", renderList (c.databases.map renderDatabase))]

/-- The written form of a catalog. -/
def render (c : Catalog) : String := String.ofList (renderCatalog c)

/-! ## §2. Reading. -/

/-- Reads an object: its members in any order, or the list of its fields.  `member` takes on one
member, `fields` reads the list, `finish` makes the object of what was found. -/
def readRecord {σ α : Type} (start : σ) (member : σ → String → AtomParser σ)
    (fields : AtomParser σ) (finish : σ → Except Fault α) : AtomParser α := do
  let isObject ← Parser.token
    (fun | .openBrace => some true | .openBracket => some false | _ => none) Json.wrongValue
  let found ←
    if isObject then Json.members start member
    else do
      let found ← fields
      Json.mark .closeBracket
      pure found
  match finish found with
  | .ok a => return a
  | .error f => Parser.fail fun _ => f

/-- The value of a member that is known and that was not there before. -/
def newField {α β : Type} (old : Option α) (value : AtomParser β) : AtomParser β := do
  if old.isSome then Parser.fail fun _ => .shape
  Json.mark .colon
  value

/-- The value of a member that means nothing. -/
def strayField : AtomParser Unit := do
  Json.mark .colon
  Json.skipValue

/-- The value of a field that must be there. -/
def due {α : Type} : Option α → Except Fault α
  | some a => .ok a
  | none => .error .shape

/-- How many brackets may be open inside a cell before its text counts as malformed: seven of the
hundred and twenty-seven that a text may have open are around every cell. -/
def cellDepth : Nat := 120

/-- A cell: null or a string. -/
def readCell : AtomParser Cell :=
  Parser.token (fun | .null => some .null | .string s => some (.text s) | _ => none)
    (Json.unwanted cellDepth)

def readRow : AtomParser Row := Json.list readCell

/-- The first row, counted from `number`, that does not have `width` cells, with its width. -/
def ragged? (width number : Nat) : List Row → Option (Nat × Nat)
  | [] => none
  | row :: rest =>
    if row.length = width then ragged? width (number + 1) rest else some (number, row.length)

/-- A table of these fields, if it is rectangular. -/
def tableOf (name : String) (columns : List String) (rows : List Row) : Except Fault Table :=
  match ragged? columns.length 1 rows with
  | some (row, width) => .error (.ragged row name width columns.length)
  | none => .ok { name, columns, rows }

/-- The fields of a table that were found. -/
structure TableFields where
  name : Option String := none
  columns : Option (List String) := none
  rows : Option (List Row) := none

namespace TableFields

/-- Takes on the value of one more member. -/
def member (found : TableFields) (key : String) : AtomParser TableFields := do
  if key = "name" then
    return { found with name := some (← newField found.name Json.string) }
  else if key = "columns" then
    return { found with columns := some (← newField found.columns (Json.list Json.string)) }
  else if key = "rows" then
    return { found with rows := some (← newField found.rows (Json.list readRow)) }
  else
    strayField
    return found

/-- The fields of a table that is written as a list. -/
def ofList : AtomParser TableFields := do
  let name ← Json.dueItem true Json.string
  let columns ← Json.dueItem false (Json.list Json.string)
  let rows ← Json.nextItem false (Json.list readRow)
  return { name := some name, columns := some columns, rows }

/-- The table of the fields. -/
def finish (found : TableFields) : Except Fault Table := do
  tableOf (← due found.name) (← due found.columns) (found.rows.getD [])

end TableFields

def readTable : AtomParser Table :=
  readRecord {} TableFields.member TableFields.ofList TableFields.finish

/-- The fields of a database that were found. -/
structure DatabaseFields where
  name : Option String := none
  tables : Option (List Table) := none

namespace DatabaseFields

/-- Takes on the value of one more member. -/
def member (found : DatabaseFields) (key : String) : AtomParser DatabaseFields := do
  if key = "name" then
    return { found with name := some (← newField found.name Json.string) }
  else if key = "tables" then
    return { found with tables := some (← newField found.tables (Json.list readTable)) }
  else
    strayField
    return found

/-- The fields of a database that is written as a list. -/
def ofList : AtomParser DatabaseFields := do
  let name ← Json.dueItem true Json.string
  let tables ← Json.nextItem false (Json.list readTable)
  return { name := some name, tables }

/-- The database of the fields. -/
def finish (found : DatabaseFields) : Except Fault Database := do
  return { name := ← due found.name, tables := found.tables.getD [] }

end DatabaseFields

def readDatabase : AtomParser Database :=
  readRecord {} DatabaseFields.member DatabaseFields.ofList DatabaseFields.finish

namespace CatalogFields

/-- Takes on the value of one more member of a catalog, whose only field is its databases. -/
def member (found : Option (List Database)) (key : String) :
    AtomParser (Option (List Database)) := do
  if key = "databases" then
    return some (← newField found (Json.list readDatabase))
  else
    strayField
    return found

/-- The field of a catalog that is written as a list. -/
def ofList : AtomParser (Option (List Database)) := Json.nextItem true (Json.list readDatabase)

/-- The catalog of the field. -/
def finish (found : Option (List Database)) : Except Fault Catalog :=
  .ok { databases := found.getD [] }

end CatalogFields

def readCatalog : AtomParser Catalog :=
  readRecord none CatalogFields.member CatalogFields.ofList CatalogFields.finish

/-- The catalog that a text holds. -/
def parse (text : String) : Except Fault Catalog := Json.readText readCatalog text.toList

/-! ## §3. In a store. -/

/-- The key of the catalog. -/
def catalogKey : String := "catalog"

/-- The key of the selected name. -/
def selectionKey : String := "selected_database"

/-- The writes that put a catalog and a selection in the place of the old ones. -/
def batch (c : Catalog) (s : Selection) : Batch :=
  [.set catalogKey (render c),
   match s.name? with
   | some name => .set selectionKey name
   | none => .remove selectionKey]

variable {σ : Type} [KeyValueStore σ]

/-- Writes a catalog and a selection into a store. -/
def save (store : σ) (c : Catalog) (s : Selection) : Except SqlError Unit × σ :=
  KeyValueStore.apply store (batch c s)

/-- The catalog and the selection in a store: empty where a key is missing, and without the
selection if it names no database of the catalog. -/
def load (store : σ) : Except SqlError (Catalog × Selection) := do
  let c ← match KeyValueStore.get? store catalogKey with
    | some text => (parse text).mapError .json
    | none => pure {}
  let s := match KeyValueStore.get? store selectionKey with
    | some name => if c.hasDatabase name then .of name else .empty
    | none => .empty
  return (c, s)

end SmallSql.Snapshot
