/-
  SmallSql.State
  ────────────────────────────────
  The state of the interpreter: a catalog and a selection.  A statement's text goes through four
  stages, each of which can refuse it:

      text ──▶ command ──▶ statement ──▶ positions ──▶ effect

  `State.prepare` works out the effect without changing anything, `State.apply` takes it on.
-/
import SmallSql.Statement.Effect
import SmallSql.Statement.Reading

namespace SmallSql

/-- The effect of a text on a catalog and a selection. -/
def Effect.ofText (sql : String) (c : Catalog) (s : Selection) : Except SqlError Effect := do
  let command ← Command.ofText sql.toList
  let statement ← Statement.ofText command sql.toList
  let positions ← statement.resolve c s
  statement.execute positions c s

/-- All databases and the selected one. -/
structure State where
  catalog : Catalog := {}
  selection : Selection := {}
deriving DecidableEq, Repr

namespace State

/-- No database, nothing selected. -/
def empty : State := {}

/-- Restored state: a selection that names no database of the catalog is dropped. -/
def restore (catalog : Catalog) (selection : Selection) : State where
  catalog := catalog
  selection := if selection.isValidFor catalog then selection else .empty

/-- What a text would do. -/
def prepare (s : State) (sql : String) : Except SqlError Effect :=
  Effect.ofText sql s.catalog s.selection

/-- The state after an effect. -/
def apply (s : State) (e : Effect) : State where
  catalog := e.catalog?.getD s.catalog
  selection := e.selection?.getD s.selection

/-- Runs a text: its reply and the state after it.  An error leaves the state as it is. -/
def execute (s : State) (sql : String) : Except SqlError Reply × State :=
  match s.prepare sql with
  | .ok e => (.ok e.reply, s.apply e)
  | .error e => (.error e, s)

/-- The outcomes of texts, one after the other, and the state after them. -/
def executeAll (s : State) : List String → List (Except SqlError Reply) × State
  | [] => ([], s)
  | sql :: rest =>
    let first := s.execute sql
    let others := first.2.executeAll rest
    (first.1 :: others.1, others.2)

end State

end SmallSql
