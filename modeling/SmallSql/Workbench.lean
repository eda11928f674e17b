/-
  SmallSql.Workbench
  ────────────────────────────────
  A state that is kept in a store, and the log of the statements run on it.  A statement that
  changes something is saved before it takes effect: if the store refuses, the statement counts as
  failed and both sides stay as they were.
-/
import SmallSql.Snapshot
import SmallSql.State

namespace SmallSql

/-- How a statement ended. -/
inductive Outcome where
  | success (message : String)
  | failure (kind : ErrorKind) (message : String)
deriving DecidableEq, Repr

namespace Outcome

def isSuccess : Outcome → Bool
  | success _ => true
  | failure .. => false

def message : Outcome → String
  | success m => m
  | failure _ m => m

/-- The outcome that a result is logged as. -/
def ofResult : Except SqlError Reply → Outcome
  | .ok reply => .success reply.message
  | .error e => .failure e.kind e.message

end Outcome

/-- One statement that was run, without the white space around it. -/
structure LogEntry where
  statement : String
  outcome : Outcome
deriving DecidableEq, Repr

/-- A state, the store it is kept in, and the log. -/
structure Workbench (σ : Type) where
  state : State
  store : σ
  /-- The statements run so far, the first one first. -/
  log : List LogEntry := []

namespace Workbench

variable {σ : Type} [KeyValueStore σ]

/-- A workbench with the state that a store holds. -/
def openStore (store : σ) : Except SqlError (Workbench σ) := do
  let (catalog, selection) ← Snapshot.load store
  return { state := State.restore catalog selection, store }

/-- Saves what an effect changes, then takes it on. -/
def commit (w : Workbench σ) (e : Effect) : Except SqlError Reply × Workbench σ :=
  let next := w.state.apply e
  if e.isMutation then
    match Snapshot.save w.store next.catalog next.selection with
    | (.ok (), store) => (.ok e.reply, { w with state := next, store })
    | (.error fault, store) => (.error fault, { w with store })
  else (.ok e.reply, { w with state := next })

/-- Runs a statement without logging it. -/
def attempt (w : Workbench σ) (statement : String) : Except SqlError Reply × Workbench σ :=
  match w.state.prepare statement with
  | .ok e => w.commit e
  | .error fault => (.error fault, w)

/-- Runs one statement and logs it. -/
def run (w : Workbench σ) (sql : String) : Except SqlError Reply × Workbench σ :=
  let statement := String.ofList (Text.trim sql.toList)
  let (result, after) := w.attempt statement
  (result, { after with log := w.log ++ [{ statement, outcome := .ofResult result }] })

/-- Drops all databases, in the store and then in the state; the log goes on. -/
def reset (w : Workbench σ) : Except SqlError Unit × Workbench σ :=
  match Snapshot.save w.store {} .empty with
  | (.ok (), store) => (.ok (), { w with state := .empty, store })
  | (.error fault, store) => (.error fault, { w with store })

end Workbench

end SmallSql
