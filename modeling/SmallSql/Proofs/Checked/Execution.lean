/-
  SmallSql.Proofs.Checked.Execution
  ────────────────────────────────
  The interpreter with every stop made visible, and that it never stops.  A statement is read by
  position and carried out with the edits that can crash:

      text ──read──▶ statement ──resolve──▶ positions ──execute──▶ effect
           crash?                                     crash?

  Reading is safe on every text.  Carrying out is safe where rows have the width of their table:
  positions come from the column list, so they lie inside the rows.  The width is an invariant:
  stored text with a row of another width is refused, and every statement keeps it.  The run lemma
  is by induction on the texts.
-/
import SmallSql.Proofs.Checked.Agreement
import SmallSql.Proofs.Checked.Rows
import SmallSql.Proofs.Snapshot
import SmallSql.Proofs.State.Invariant

namespace SmallSql.Checked

/-! ## §1. Statements. -/

/-- An answer that is an error. -/
def refuse {α : Type} (fault : SqlError) : Checked SqlError α := .error (.refused fault)

/-- INSERT: one row for each tuple, pushed one after the other. -/
def executeInsert (table : String) (tuples : List (List Cell)) (positions : List Nat) (c : Catalog)
    (s : Selection) : Checked SqlError Effect := do
  let db ← safe (selectedDatabase c s)
  let t ← safe (tableIn db table)
  let rows := tuples.map fun tuple => t.rowOf (positions.zip tuple)
  let t' ← rows.foldlM pushRow t
  return { Statement.insertEffect table rows c s t with
    catalog? := some (c.setTable s table t') }

/-- UPDATE: the assigned cells, written into every row that has the compared value at the last
position. -/
def executeUpdate (table : String) (assignments : List (String × Cell)) (condition : Condition)
    (positions : List Nat) (c : Catalog) (s : Selection) : Checked SqlError Effect := do
  let some compared := positions.getLast? | refuse (.unknownColumn [condition.column])
  let db ← safe (selectedDatabase c s)
  let t ← safe (tableIn db table)
  let cells := positions.dropLast.zip (assignments.map (·.2))
  let written ← updateWhere t cells fun row => row[compared]? == some condition.value
  return Statement.updateEffect table c s written

/-- DELETE: the rows that the condition does not select stay, and the others are counted by what is
missing. -/
def executeDelete (table : String) (condition : Condition) (positions : List Nat) (c : Catalog)
    (s : Selection) : Checked SqlError Effect := do
  let some compared := positions.head? | refuse (.unknownColumn [condition.column])
  let db ← safe (selectedDatabase c s)
  let t ← safe (tableIn db table)
  let left ← retainRows t fun row => keeps condition (row[compared]?.getD .null)
  return Statement.deleteEffect table c s left

/-- DROP DATABASE: the database at the first position of the name goes. -/
def executeDropDatabase (name : String) (c : Catalog) (s : Selection) :
    Checked SqlError Effect := do
  match ← removeFirst (fun db => sameName db.name name) c.databases with
  | none => refuse (.databaseNotFound name)
  | some (db, databases) => return {
      reply := {
        command := .dropDatabase
        message := "Database '" ++ name ++ "' dropped successfully" }
      catalog? := some { databases }
      selection? := if s.name?.any (sameName · db.name) then some .empty else none }

/-- DROP TABLE: the table at the first position of the name goes. -/
def executeDropTable (name : String) (c : Catalog) (s : Selection) : Checked SqlError Effect := do
  let db ← safe (selectedDatabase c s)
  match ← removeFirst (fun t => sameName t.name name) db.tables with
  | none => refuse (.tableNotFound name db.name)
  | some (_, tables) => return {
      reply := {
        command := .dropTable
        message := "Table '" ++ name ++ "' dropped from '" ++ db.name ++ "'" }
      catalog? := some (c.modifySelected s fun _ => { db with tables }) }

/-- Carries out a statement.  Those that only look up and append have nothing that could crash. -/
def execute (statement : Statement) (positions : List Nat) (c : Catalog) (s : Selection) :
    Checked SqlError Effect :=
  match statement with
  | .insert table _ tuples => executeInsert table tuples positions c s
  | .update table assignments condition => executeUpdate table assignments condition positions c s
  | .delete table condition => executeDelete table condition positions c s
  | .dropDatabase name => executeDropDatabase name c s
  | .dropTable name => executeDropTable name c s
  | statement => safe (statement.execute positions c s)

theorem executeInsert_eq (table : String) (tuples : List (List Cell)) (positions : List Nat)
    (c : Catalog) (s : Selection) :
    executeInsert table tuples positions c s
      = safe (Statement.executeInsert table tuples positions c s) := by
  refine safe_bind fun db _ => safe_bind fun t _ => ?_
  -- rows are made with the width of the table
  have hwidth : ∀ row ∈ tuples.map fun tuple => t.rowOf (positions.zip tuple),
      row.length = t.columns.length := by
    intro row hrow
    obtain ⟨tuple, -, rfl⟩ := List.mem_map.1 hrow
    exact t.rowOf_length _
  dsimp only
  rw [foldlM_pushRow _ t hwidth]
  rfl

theorem executeUpdate_eq {table : String} (assignments : List (String × Cell))
    (condition : Condition) {positions : List Nat} {c : Catalog} {s : Selection}
    (h : ∀ db t, s.current? c = some db → db.table? table = some t →
      ∀ row ∈ t.rows, ∀ position ∈ positions, position < row.length) :
    executeUpdate table assignments condition positions c s
      = safe (Statement.executeUpdate table assignments condition positions c s) := by
  unfold executeUpdate Statement.executeUpdate
  cases positions.getLast? with
  | none => rfl
  | some compared =>
      refine safe_bind fun db hdb => safe_bind fun t ht => ?_
      -- the places of the cells are among the positions
      have hinside : ∀ row ∈ t.rows,
          ∀ p ∈ positions.dropLast.zip (assignments.map (·.2)), p.1 < row.length := by
        intro row hrow p hp
        have hposition : p.1 ∈ positions := List.dropLast_subset _ (List.of_mem_zip hp).1
        exact h db t (selectedDatabase_eq_ok.1 hdb) (tableIn_eq_ok.1 ht) row hrow p.1 hposition
      dsimp only
      rw [updateWhere_eq _ hinside, Statement.updateWhere?_eq_overwrite _ hinside]
      rfl

theorem executeDelete_eq (table : String) (condition : Condition) (positions : List Nat)
    (c : Catalog) (s : Selection) :
    executeDelete table condition positions c s
      = safe (Statement.executeDelete table condition positions c s) := by
  unfold executeDelete Statement.executeDelete
  cases positions.head? with
  | none => rfl
  | some compared =>
      refine safe_bind fun db _ => safe_bind fun t _ => ?_
      rw [retainRows_eq (fun row => keeps_eq condition (row[compared]?.getD .null)) t]
      rfl

theorem executeDropDatabase_eq (name : String) (c : Catalog) (s : Selection) :
    executeDropDatabase name c s = safe (Statement.executeDropDatabase name c s) := by
  unfold executeDropDatabase Statement.executeDropDatabase Catalog.database?
  rw [removeFirst_eq]
  cases c.databases.find? fun db => sameName db.name name <;> rfl

theorem executeDropTable_eq (name : String) (c : Catalog) (s : Selection) :
    executeDropTable name c s = safe (Statement.executeDropTable name c s) := by
  refine safe_bind fun db hdb => ?_
  rw [removeFirst_eq]
  unfold tableIn Database.table?
  cases db.tables.find? fun t => sameName t.name name with
  | none => rfl
  | some t =>
      -- the list without the table is put in the place of that of the selected database
      have hcatalog : (c.modifySelected s fun _ =>
            { db with tables := db.tables.eraseP fun t => sameName t.name name })
          = c.modifySelected s (·.removeTable name) := by
        refine Catalog.modifySelected_congr fun db' hdb' => ?_
        rw [Option.some.inj (hdb'.symm.trans (selectedDatabase_eq_ok.1 hdb))]
        rfl
      show Except.ok (Effect.mk _ (some (c.modifySelected s _)) none) = _
      rw [hcatalog]
      rfl

/-- **A statement that has passed its checks is carried out without a crash.** -/
theorem execute_eq {statement : Statement} {positions : List Nat} {c : Catalog} {s : Selection}
    (hc : c.Rectangular) (h : statement.resolve c s = .ok positions) :
    execute statement positions c s = safe (statement.execute positions c s) := by
  cases statement with
  | insert table listed tuples => exact executeInsert_eq table tuples positions c s
  | update table assignments condition =>
      -- the table that is looked up again is the one that the positions were resolved in
      refine executeUpdate_eq assignments condition fun db t hdb ht => ?_
      obtain ⟨db', t', hdb', ht', hsuits⟩ := Statement.suits_of_resolve hc h rfl
      cases hdb.symm.trans hdb'
      cases ht.symm.trans ht'
      exact hsuits.inRows
  | delete table condition => exact executeDelete_eq table condition positions c s
  | dropDatabase name => exact executeDropDatabase_eq name c s
  | dropTable name => exact executeDropTable_eq name c s
  | select | createDatabase | use | createTable | showDatabases | showTables => rfl

/-! ## §2. Texts. -/

/-- The effect of a text on a catalog and a selection. -/
def effectOf (sql : String) (c : Catalog) (s : Selection) : Checked SqlError Effect := do
  let command ← safe (Command.ofText sql.toList)
  let statement ← (read command sql.toList).mapError (.map (Statement.faultError command))
  let positions ← safe (statement.resolve c s)
  execute statement positions c s

/-- **No text crashes** where rows have the width of their table. -/
theorem effectOf_eq (sql : String) {c : Catalog} (hc : c.Rectangular) (s : Selection) :
    effectOf sql c s = safe (Effect.ofText sql c s) := by
  refine safe_bind fun command _ => ?_
  -- reading is safe whatever the text; carrying out needs the positions to be resolved ones
  rw [read_eq, safe_mapError]
  exact safe_bind fun statement _ => safe_bind fun positions hpositions =>
    execute_eq hc hpositions

/-! ## §3. Runs. -/

/-- Runs a text: its answer and the state after it, if it does not crash. -/
def step (s : State) (sql : String) : Except Crash (Except SqlError Reply × State) :=
  match effectOf sql s.catalog s.selection with
  | .ok e => .ok (.ok e.reply, s.apply e)
  | .error (.refused fault) => .ok (.error fault, s)
  | .error (.crash c) => .error c

/-- Runs texts, one after the other, up to the first crash. -/
def run (s : State) : List String → Except Crash (List (Except SqlError Reply) × State)
  | [] => .ok ([], s)
  | sql :: rest => do
    let first ← step s sql
    let others ← run first.2 rest
    return (first.1 :: others.1, others.2)

/-- Step lemma: a text does not crash, and leaves rows of the width of their table. -/
theorem step_eq {s : State} (hs : s.catalog.Rectangular) (sql : String) :
    step s sql = .ok (s.execute sql) ∧ (s.execute sql).2.catalog.Rectangular := by
  unfold step
  rw [effectOf_eq sql hs]
  rcases s.execute_eq sql with ⟨e, he, hx⟩ | ⟨fault, he, hx⟩
  · have heffect : Effect.ofText sql s.catalog s.selection = .ok e := he
    rw [hx, heffect]
    exact ⟨rfl, State.rectangular_apply he hs⟩
  · have heffect : Effect.ofText sql s.catalog s.selection = .error fault := he
    rw [hx, heffect]
    exact ⟨rfl, hs⟩

/-- Run lemma: no run crashes. -/
theorem run_eq (sqls : List String) :
    ∀ s : State, s.catalog.Rectangular → run s sqls = .ok (s.executeAll sqls) := by
  induction sqls with
  | nil =>
      intro s _
      rfl
  | cons sql rest ih =>
      intro s hs
      obtain ⟨hstep, hafter⟩ := step_eq hs sql
      unfold run
      rw [hstep, ok_bind, ih _ hafter]
      rfl

/-- A row that is too short, which no stored text brings, would be written past. -/
example : run ⟨⟨[⟨"shop", [⟨"t", ["a", "b"], [[.text "1"]]⟩]⟩]⟩, .of "shop"⟩
    ["UPDATE t SET b = 2 WHERE a = 1;"] = .error .index := by
  decide +kernel

/-- **No input text crashes the interpreter.**  On every catalog that was read from stored text, with
whatever selection, and for every list of texts, the run with all its stops made visible goes to its
end: it gives the answers and the state of the interpreter. -/
theorem run_of_parse {stored : String} {c : Catalog} (h : Snapshot.parse stored = .ok c)
    (s : Selection) (sqls : List String) :
    run (State.restore c s) sqls = .ok ((State.restore c s).executeAll sqls) :=
  run_eq sqls (State.restore c s) (Snapshot.rectangular_of_parse h)

/-- A database with one table, as it is stored. -/
def storedShop : String :=
  "\x7b\"databases\":[\x7b\"name\":\"shop\",\"tables\":[\x7b\"name\":\"t\"," ++
    "\"columns\":[\"a\",\"b\"],\"rows\":[[\"-9223372036854775807\",null]]\x7d]\x7d]\x7d"

/-- The database of `storedShop`, with these rows. -/
def shop (rows : List Row) : Catalog := ⟨[⟨"shop", [⟨"t", ["a", "b"], rows⟩]⟩]⟩

/-- Texts that come near every place that could crash: parentheses that do not pair, values that are
missing or break off, a write into the last column, the least integer view. -/
def awkwardTexts : List String :=
  ["CREATE TABLE u (a int));",
    "CREATE TABLE u (a decimal(10, 2",
    "INSERT INTO t (b) VALUES (",
    "UPDATE t SET b = ;",
    "UPDATE t SET b = x y WHERE a = -9223372036854775807;",
    "DELETE FROM t WHERE a <",
    "DELETE FROM t WHERE a <= +00 pears;"]

/-- The awkward texts are answered one by one; the last of them finds the row and deletes it. -/
theorem run_of_parse_shop :
    Snapshot.parse storedShop = .ok (shop [[.text "-9223372036854775807", .null]])
      ∧ run (State.restore (shop [[.text "-9223372036854775807", .null]]) (.of "SHOP")) awkwardTexts
        = .ok ((State.restore (shop [[.text "-9223372036854775807", .null]]) (.of "SHOP")).executeAll
          awkwardTexts)
      ∧ ((State.restore (shop [[.text "-9223372036854775807", .null]]) (.of "SHOP")).executeAll
          awkwardTexts).2.catalog = shop [] := by
  have hparse : Snapshot.parse storedShop
      = .ok (shop [[.text "-9223372036854775807", .null]]) := by
    decide +kernel
  exact ⟨hparse, run_of_parse hparse _ _, by decide +kernel⟩

end SmallSql.Checked
