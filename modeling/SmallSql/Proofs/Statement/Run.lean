/-
  SmallSql.Proofs.Statement.Run
  ────────────────────────────────
  Checking a statement and carrying it out, as one function.  `resolve` looks up the selected
  database and the target table and `execute` looks them up again; `run_…` says for each kind of
  statement what is left when the second look-up is taken away and every column has become its
  place in the table:

      run  =  database  ──▶  table  ──▶  columns  ──▶  tuples  ──▶  effect

  What holds of all statements is derived from these equations.
-/
import SmallSql.Proofs.Parsing
import SmallSql.State

namespace SmallSql

/-! ## §1. Look-ups. -/

theorem selectedDatabase_eq_ok {c : Catalog} {s : Selection} {db : Database} :
    selectedDatabase c s = .ok db ↔ s.current? c = some db := by
  unfold selectedDatabase
  split <;> simp_all

theorem tableIn_eq_ok {db : Database} {name : String} {t : Table} :
    tableIn db name = .ok t ↔ db.table? name = some t := by
  unfold tableIn
  split <;> simp_all

/-! ## §2. Places of columns. -/

namespace Table

/-- The position of the first column of this name. -/
def place (t : Table) (column : String) : Nat := t.columns.idxOf column

/-- Passes if all the names are columns of the table. -/
def require (t : Table) (names : List String) : Except SqlError Unit :=
  if (t.unknown names).isEmpty then .ok () else .error (.unknownColumn (t.unknown names))

theorem hasColumn_iff {t : Table} {column : String} :
    t.hasColumn column = true ↔ column ∈ t.columns := by
  unfold hasColumn
  rw [List.contains_iff_mem]

theorem position?_eq {t : Table} {column : String} (h : column ∈ t.columns) :
    t.position? column = some (t.place column) := by
  show t.columns.findIdx? (fun c => c == column) = some (t.columns.findIdx (fun c => c == column))
  rw [List.findIdx?_eq_some_iff_findIdx_eq]
  refine ⟨?_, rfl⟩
  rw [List.findIdx_lt_length]
  exact ⟨column, h, by simp⟩

/-- There are no unknown names exactly if all names are columns. -/
theorem unknown_isEmpty_iff {t : Table} {names : List String} :
    (t.unknown names).isEmpty = true ↔ ∀ n ∈ names, n ∈ t.columns := by
  have hf : (names.filter fun n => !t.hasColumn n) = [] ↔ ∀ n ∈ names, n ∈ t.columns := by
    simp [hasColumn_iff]
  rw [← hf]
  unfold unknown
  cases names.filter fun n => !t.hasColumn n with
  | nil => simp
  | cons n rest => simp [List.eraseDups_cons]

theorem require_eq_ok {t : Table} {names : List String} :
    t.require names = .ok () ↔ ∀ n ∈ names, n ∈ t.columns := by
  rw [← unknown_isEmpty_iff]
  unfold require
  split <;> simp_all

theorem positions_eq {t : Table} {names : List String} (h : ∀ n ∈ names, n ∈ t.columns) :
    names.filterMap t.position? = names.map t.place := by
  induction names with
  | nil => rfl
  | cons n rest ih =>
      rw [List.filterMap_cons_some (position?_eq (h n List.mem_cons_self)), List.map_cons,
        ih fun m hm => h m (List.mem_cons_of_mem _ hm)]

end Table

namespace Projection

/-- The columns that a projection shows. -/
def columnsIn (t : Table) : Projection → List String
  | all => t.columns
  | columns names => names

/-- The places of the columns that a projection shows. -/
def placesIn (t : Table) : Projection → List Nat
  | all => List.range t.columns.length
  | columns names => names.map t.place

end Projection

namespace Statement

/-! ## §3. One function for check and effect. -/

/-- Checks a statement and carries it out. -/
def run (statement : Statement) (c : Catalog) (s : Selection) : Except SqlError Effect := do
  let positions ← statement.resolve c s
  statement.execute positions c s

/-- The statement that a text writes. -/
def written (sql : String) : Except SqlError Statement := do
  let command ← Command.ofText sql.toList
  Statement.ofText command sql.toList

/-- The effect of a text is that of the statement it writes. -/
theorem ofText_eq_run (sql : String) (c : Catalog) (s : Selection) :
    Effect.ofText sql c s = (do
      let statement ← written sql
      statement.run c s) := by
  unfold written
  show (Command.ofText sql.toList >>= fun command => Statement.ofText command sql.toList >>=
    fun statement => statement.run c s) = _
  cases Command.ofText sql.toList <;> rfl

/-- Executing a text that writes a statement is running the statement. -/
theorem execute_of_written {sql : String} {statement : Statement}
    (h : written sql = .ok statement) (s : State) :
    s.execute sql = match statement.run s.catalog s.selection with
      | .ok e => (.ok e.reply, s.apply e)
      | .error fault => (.error fault, s) := by
  unfold State.execute State.prepare
  rw [ofText_eq_run, h]
  rfl

/-- A text that writes no statement changes nothing. -/
theorem execute_of_not_written {sql : String} {fault : SqlError} (h : written sql = .error fault)
    (s : State) : s.execute sql = (.error fault, s) := by
  unfold State.execute State.prepare
  rw [ofText_eq_run, h]
  rfl

/-- The table of this name in the selected database, once the columns and the tuples of the
statement have passed their checks. -/
def target (statement : Statement) (name : String) (c : Catalog) (s : Selection) :
    Except SqlError Table := do
  let db ← selectedDatabase c s
  let t ← tableIn db name
  t.require statement.namedColumns
  checkTuples statement
  return t

theorem target_eq_ok {statement : Statement} {name : String} {c : Catalog} {s : Selection}
    {t : Table} (h : statement.target name c s = .ok t) :
    ∃ db, s.current? c = some db ∧ db.table? name = some t
      ∧ (∀ n ∈ statement.namedColumns, n ∈ t.columns) ∧ checkTuples statement = .ok () := by
  unfold target at h
  obtain ⟨db, hdb, h⟩ := bind_eq_ok.1 h
  obtain ⟨t', ht, h⟩ := bind_eq_ok.1 h
  obtain ⟨_, hr, h⟩ := bind_eq_ok.1 h
  obtain ⟨_, hc, h⟩ := bind_eq_ok.1 h
  cases h
  exact ⟨db, selectedDatabase_eq_ok.1 hdb, tableIn_eq_ok.1 ht, Table.require_eq_ok.1 hr, hc⟩

/-- The checks in their order: a selected database, the table in it, its columns, the tuples. -/
theorem target_eq_ok_of {statement : Statement} {name : String} {c : Catalog} {s : Selection}
    {db : Database} {t : Table} (hdb : s.current? c = some db) (ht : db.table? name = some t)
    (hcolumns : ∀ n ∈ statement.namedColumns, n ∈ t.columns)
    (htuples : checkTuples statement = .ok ()) : statement.target name c s = .ok t := by
  unfold target
  rw [selectedDatabase_eq_ok.2 hdb, ok_bind, tableIn_eq_ok.2 ht, ok_bind,
    Table.require_eq_ok.2 hcolumns, ok_bind, htuples, ok_bind]
  rfl

/-- No tuple is out of width exactly if all have the width. -/
theorem misfit?_eq_none {width number : Nat} {tuples : List (List Cell)} :
    misfit? width number tuples = none
      ↔ tuples.all (fun tuple => tuple.length == width) = true := by
  induction tuples generalizing number with
  | nil => simp [misfit?]
  | cons tuple rest ih =>
      unfold misfit?
      by_cases h : tuple.length = width
      · rw [if_pos h, ih]
        simp [h]
      · rw [if_neg h]
        simp [h]

/-- The tuples of an INSERT pass their check exactly if all have a value for each listed column. -/
theorem checkTuples_insert_eq_ok {name : String} {columns : List String}
    {tuples : List (List Cell)} :
    checkTuples (insert name columns tuples) = .ok ()
      ↔ ∀ tuple ∈ tuples, tuple.length = columns.length := by
  have hchecked : checkTuples (insert name columns tuples) = .ok ()
      ↔ misfit? columns.length 1 tuples = none := by
    unfold checkTuples
    dsimp only
    cases misfit? columns.length 1 tuples <;> simp
  rw [hchecked, misfit?_eq_none]
  simp

/-- What SELECT answers. -/
def selectEffect (table : String) (projection : Projection) (t : Table) : Effect where
  reply := {
    command := .select
    message := "Retrieved " ++ toString t.rows.length ++ " rows from " ++ table
    columns := some (projection.columnsIn t)
    rows := some (t.rows.map fun row => (projection.placesIn t).map fun i => row[i]?.getD .null) }

/-- The rows that INSERT appends. -/
def insertedRows (columns : List String) (tuples : List (List Cell)) (t : Table) : List Row :=
  tuples.map fun tuple => t.rowOf ((columns.map t.place).zip tuple)

/-- What INSERT does. -/
def insertEffect (table : String) (rows : List Row) (c : Catalog) (s : Selection) (t : Table) :
    Effect where
  reply := {
    command := .insert
    message := toString rows.length ++ " rows inserted into " ++ table
    affected := some rows.length }
  catalog? := some (c.setTable s table (t.append rows))

/-- What UPDATE does once its rows are written. -/
def updateEffect (table : String) (c : Catalog) (s : Selection) (written : Table × Nat) :
    Effect where
  reply := {
    command := .update
    message := "Updated " ++ toString written.2 ++ " rows in " ++ table
    affected := some written.2 }
  catalog? := some (c.setTable s table written.1)

/-- The cells that UPDATE writes, with their places. -/
def assignedCells (assignments : List (String × Cell)) (t : Table) : List (Nat × Cell) :=
  assignments.map fun a => (t.place a.1, a.2)

/-- Whether UPDATE writes into a row. -/
def isUpdated (condition : Condition) (t : Table) (row : Row) : Bool :=
  row[t.place condition.column]? == some condition.value

/-- Whether DELETE leaves a row. -/
def isKept (condition : Condition) (t : Table) (row : Row) : Bool :=
  !condition.selects (row[t.place condition.column]?.getD .null)

/-- What DELETE does once its rows are gone. -/
def deleteEffect (table : String) (c : Catalog) (s : Selection) (left : Table × Nat) : Effect where
  reply := {
    command := .delete
    message := "Deleted " ++ toString left.2 ++ " rows from " ++ table
    affected := some left.2 }
  catalog? := some (c.setTable s table left.1)

/-! ## §4. The statements on a table. -/

/-- The places of the columns that a statement names; all places for a star. -/
def placesIn (t : Table) : Statement → List Nat
  | select _ projection => projection.placesIn t
  | statement => statement.namedColumns.map t.place

theorem positionsIn_eq (t : Table) (statement : Statement) :
    positionsIn t statement = (do
      t.require statement.namedColumns
      .ok (statement.placesIn t)) := by
  have hnamed : ∀ names : List String,
      (if (t.unknown names).isEmpty then .ok (names.filterMap t.position?)
        else .error (.unknownColumn (t.unknown names)) : Except SqlError (List Nat))
      = (do
        t.require names
        .ok (names.map t.place)) := by
    intro names
    unfold Table.require
    split
    · next h => rw [Table.positions_eq (Table.unknown_isEmpty_iff.1 h), ok_bind]
    · rfl
  cases statement with
  | select table projection =>
      cases projection with
      | all => rfl
      | columns names => exact hnamed names
  | insert table columns tuples => exact hnamed columns
  | update table assignments condition => exact hnamed _
  | delete table condition => exact hnamed _
  | createDatabase | use | createTable | showDatabases | showTables | dropDatabase | dropTable =>
      exact hnamed []

/-- A statement with a target is resolved to the places of its columns in it. -/
theorem resolve_eq_target {statement : Statement} {name : String}
    (h : statement.targetTable? = some name) (c : Catalog) (s : Selection) :
    statement.resolve c s = (do
      let t ← statement.target name c s
      return statement.placesIn t) := by
  -- every statement with a target is resolved by the same four steps
  have hresolve : statement.resolve c s = (do
      let db ← selectedDatabase c s
      let t ← tableIn db name
      let positions ← positionsIn t statement
      checkTuples statement
      return positions) := by
    cases statement <;> cases h <;> rfl
  unfold target
  rw [hresolve]
  cases selectedDatabase c s with
  | error e => rfl
  | ok db =>
      simp only [ok_bind]
      cases tableIn db name with
      | error e => rfl
      | ok t =>
          simp only [ok_bind, positionsIn_eq]
          cases t.require statement.namedColumns with
          | error e => rfl
          | ok _ =>
              simp only [ok_bind]
              cases checkTuples statement <;> rfl

/-- A statement with a target is checked against it and then carried out at the places of its
columns. -/
theorem run_eq_target {statement : Statement} {name : String}
    (h : statement.targetTable? = some name) (c : Catalog) (s : Selection) :
    statement.run c s
      = (do
        let t ← statement.target name c s
        statement.execute (statement.placesIn t) c s) := by
  unfold run
  rw [resolve_eq_target h]
  cases statement.target name c s <;> rfl

/-- After the checks of a statement, carrying it out finds the database and the table again. -/
theorem target_bind_congr {statement : Statement} {name : String} {c : Catalog} {s : Selection}
    {f g : Table → Except SqlError Effect}
    (h : ∀ db t, selectedDatabase c s = .ok db → tableIn db name = .ok t → f t = g t) :
    (do
      let t ← statement.target name c s
      f t) = (do
      let t ← statement.target name c s
      g t) := by
  cases ht : statement.target name c s with
  | error e => rfl
  | ok t =>
      obtain ⟨db, hdb, htable, -⟩ := target_eq_ok ht
      exact h db t (selectedDatabase_eq_ok.2 hdb) (tableIn_eq_ok.2 htable)

theorem run_select (table : String) (projection : Projection) (c : Catalog) (s : Selection) :
    (select table projection).run c s = (do
      let t ← (select table projection).target table c s
      .ok (selectEffect table projection t)) := by
  rw [run_eq_target rfl]
  refine target_bind_congr fun db t hdb ht => ?_
  show executeSelect table projection (projection.placesIn t) c s = _
  unfold executeSelect
  rw [hdb, ok_bind, ht, ok_bind]
  simp only [List.length_map]
  cases projection <;> rfl

theorem run_insert (table : String) (columns : List String) (tuples : List (List Cell))
    (c : Catalog) (s : Selection) :
    (insert table columns tuples).run c s = (do
      let t ← (insert table columns tuples).target table c s
      .ok (insertEffect table (insertedRows columns tuples t) c s t)) := by
  rw [run_eq_target rfl]
  refine target_bind_congr fun db t hdb ht => ?_
  show executeInsert table tuples (columns.map t.place) c s = _
  unfold executeInsert
  rw [hdb, ok_bind, ht, ok_bind]
  rfl

theorem run_update (table : String) (assignments : List (String × Cell)) (condition : Condition)
    (c : Catalog) (s : Selection) :
    (update table assignments condition).run c s = (do
      let t ← (update table assignments condition).target table c s
      match t.updateWhere? (assignedCells assignments t) (isUpdated condition t) with
      | some written => .ok (updateEffect table c s written)
      | none => .error .outsideRow) := by
  rw [run_eq_target rfl]
  refine target_bind_congr fun db t hdb ht => ?_
  show executeUpdate table assignments condition
    ((assignments.map (·.1) ++ [condition.column]).map t.place) c s = _
  -- the names of the assignments and of the condition are resolved in one list; its last
  -- place is that of the condition, the others are those of the assignments
  have hcells : ((assignments.map (·.1)).map t.place).zip (assignments.map (·.2))
      = assignedCells assignments t := by
    simp [assignedCells, List.zip_map', Function.comp_def]
  unfold executeUpdate
  simp only [List.map_append, List.map_cons, List.map_nil, List.getLast?_append,
    List.getLast?_singleton, Option.some_or, List.dropLast_concat, hdb, ok_bind, ht, hcells]
  unfold isUpdated
  cases t.updateWhere? (assignedCells assignments t)
    fun row => row[t.place condition.column]? == some condition.value <;> rfl

theorem run_delete (table : String) (condition : Condition) (c : Catalog) (s : Selection) :
    (delete table condition).run c s = (do
      let t ← (delete table condition).target table c s
      .ok (deleteEffect table c s (t.retain (isKept condition t)))) := by
  rw [run_eq_target rfl]
  refine target_bind_congr fun db t hdb ht => ?_
  show executeDelete table condition [t.place condition.column] c s = _
  unfold executeDelete
  simp only [List.head?_cons, hdb, ok_bind, ht]
  rfl

/-! ## §5. The statements on databases. -/

/-- What CREATE TABLE does. -/
def createTableEffect (name : String) (columns : List String) (c : Catalog) (s : Selection)
    (db : Database) : Effect where
  reply := {
    command := .createTable
    message := "Table '" ++ name ++ "' created in database '" ++ db.name ++ "'" }
  catalog? := some (c.modifySelected s (·.addTable { name, columns }))

theorem run_createTable (name : String) (columns : List String) (c : Catalog) (s : Selection) :
    (createTable name columns).run c s = (do
      let db ← selectedDatabase c s
      if (db.table? name).isSome then .error (.tableAlreadyExists name db.name)
      else .ok (createTableEffect name columns c s db)) := by
  show ((do resolveIn (← selectedDatabase c s) (createTable name columns)) >>= fun _ =>
    executeCreateTable name columns c s) = _
  unfold executeCreateTable
  cases selectedDatabase c s with
  | error e => rfl
  | ok db =>
      simp only [ok_bind, resolveIn]
      split <;> rfl

theorem run_showTables (c : Catalog) (s : Selection) :
    showTables.run c s = executeShowTables c s := by
  show ((do resolveIn (← selectedDatabase c s) showTables) >>= fun _ => executeShowTables c s) = _
  unfold executeShowTables
  cases selectedDatabase c s <;> rfl

theorem run_createDatabase (name : String) (c : Catalog) (s : Selection) :
    (createDatabase name).run c s
      = if c.hasDatabase name then .error (.databaseAlreadyExists name)
        else .ok (executeCreateDatabase name c) := by
  show ((do checkDatabase c (createDatabase name); return []) >>= fun _ : List Nat =>
    .ok (executeCreateDatabase name c)) = _
  unfold checkDatabase
  dsimp only
  split <;> rfl

theorem run_use (name : String) (c : Catalog) (s : Selection) :
    (use name).run c s = executeUse name c := by
  show ((do checkDatabase c (use name); return []) >>= fun _ : List Nat => executeUse name c) = _
  unfold checkDatabase executeUse Catalog.hasDatabase
  dsimp only
  cases c.database? name <;> rfl

theorem run_showDatabases (c : Catalog) (s : Selection) :
    showDatabases.run c s = .ok (executeShowDatabases c) := rfl

theorem run_dropDatabase (name : String) (c : Catalog) (s : Selection) :
    (dropDatabase name).run c s = executeDropDatabase name c s := by
  show ((do checkDatabase c (dropDatabase name); return []) >>= fun _ : List Nat =>
    executeDropDatabase name c s) = _
  unfold checkDatabase executeDropDatabase Catalog.hasDatabase
  dsimp only
  cases c.database? name <;> rfl

/-- The reply to a statement is one to its command. -/
theorem command_of_run {statement : Statement} {c : Catalog} {s : Selection} {e : Effect}
    (h : statement.run c s = .ok e) : e.reply.command = statement.command := by
  cases statement with
  | select table projection =>
      rw [run_select] at h
      obtain ⟨t, -, he⟩ := bind_eq_ok.1 h
      cases he
      rfl
  | insert table columns tuples =>
      rw [run_insert] at h
      obtain ⟨t, -, he⟩ := bind_eq_ok.1 h
      cases he
      rfl
  | update table assignments condition =>
      rw [run_update] at h
      obtain ⟨t, -, he⟩ := bind_eq_ok.1 h
      split at he <;> cases he
      rfl
  | delete table condition =>
      rw [run_delete] at h
      obtain ⟨t, -, he⟩ := bind_eq_ok.1 h
      cases he
      rfl
  | createDatabase name =>
      rw [run_createDatabase] at h
      split at h <;> cases h
      rfl
  | use name =>
      rw [run_use, executeUse] at h
      split at h <;> cases h
      rfl
  | createTable name columns =>
      rw [run_createTable] at h
      obtain ⟨db, -, he⟩ := bind_eq_ok.1 h
      split at he <;> cases he
      rfl
  | showDatabases =>
      cases h
      rfl
  | showTables =>
      rw [run_showTables] at h
      obtain ⟨db, -, he⟩ := bind_eq_ok.1 h
      cases he
      rfl
  | dropDatabase name =>
      rw [run_dropDatabase, executeDropDatabase] at h
      split at h <;> cases h
      rfl
  | dropTable name =>
      rw [run_eq_target rfl] at h
      obtain ⟨t, -, he⟩ := bind_eq_ok.1 h
      obtain ⟨db, -, he⟩ := bind_eq_ok.1 he
      obtain ⟨_, -, he⟩ := bind_eq_ok.1 he
      cases he
      rfl

end Statement

end SmallSql
