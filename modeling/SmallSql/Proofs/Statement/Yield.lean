/-
  SmallSql.Proofs.Statement.Yield
  ────────────────────────────────
  What an accepted statement can put in the place of the catalog and the selection.  `Yields` has
  one case for each way, with what the checks have made sure of; `run_yields` says that there is no
  other.  Every invariant of the catalog is a case analysis over `Yields`:

      run c s = .ok e   →   statement yields e.catalog? and e.selection?
-/
import SmallSql.Proofs.Catalog.Edits
import SmallSql.Proofs.Statement.Run

namespace SmallSql.Statement

/-- The replacements of the catalog and of the selection that a statement can lead to. -/
inductive Yields (c : Catalog) (s : Selection) :
    Statement → Option Catalog → Option Selection → Prop where
  /-- Nothing is replaced. -/
  | nothing (statement : Statement) : Yields c s statement none none
  /-- A database of a name that was free comes last. -/
  | createDatabase (name : String) (free : c.hasDatabase name = false) :
      Yields c s (.createDatabase name) (some (c.addDatabase { name })) none
  /-- The selection gets the stored name of a database. -/
  | use (name : String) (db : Database) (found : c.database? name = some db) :
      Yields c s (.use name) none (some (.of db.name))
  /-- The first database of the name goes, and the selection with it if it is the same name. -/
  | dropDatabase (name : String) (db : Database) (found : c.database? name = some db) :
      Yields c s (.dropDatabase name) (some (c.removeDatabase name))
        (if s.name?.any (sameName · db.name) then some .empty else none)
  /-- A table without rows, of a name that was free in the selected database, comes last in it. -/
  | createTable (name : String) (columns : List String) (db : Database)
      (selected : s.current? c = some db) (free : db.table? name = none) :
      Yields c s (.createTable name columns)
        (some (c.modifySelected s (·.addTable { name, columns }))) none
  /-- The first table of the name in the selected database goes. -/
  | dropTable (name : String) (db : Database) (selected : s.current? c = some db) :
      Yields c s (.dropTable name) (some (c.modifySelected s (·.removeTable name))) none
  /-- The first table of the name in the selected database gets other rows of the same width. -/
  | rows (statement : Statement) (name : String) (db : Database) (t t' : Table)
      (target : statement.targetTable? = some name) (selected : s.current? c = some db)
      (found : db.table? name = some t)
      (sameTableName : t'.name = t.name) (sameColumns : t'.columns = t.columns)
      (sameWidth : t.Rectangular → t'.Rectangular) :
      Yields c s statement (some (c.setTable s name t')) none

/-- The rows that INSERT appends have the width of the table. -/
theorem insertedRows_length {columns : List String} {tuples : List (List Cell)} {t : Table}
    {row : Row} (h : row ∈ insertedRows columns tuples t) : row.length = t.columns.length := by
  unfold insertedRows at h
  obtain ⟨tuple, -, rfl⟩ := List.mem_map.1 h
  exact Table.rowOf_length t _

/-- **What an accepted statement replaces is one of the ways of `Yields`.** -/
theorem run_yields {statement : Statement} {c : Catalog} {s : Selection} {e : Effect}
    (h : statement.run c s = .ok e) : statement.Yields c s e.catalog? e.selection? := by
  cases statement with
  | select table projection =>
      rw [run_select] at h
      obtain ⟨t, -, he⟩ := bind_eq_ok.1 h
      cases he
      exact .nothing _
  | insert table columns tuples =>
      rw [run_insert] at h
      obtain ⟨t, ht, he⟩ := bind_eq_ok.1 h
      obtain ⟨db, hdb, htable, -⟩ := target_eq_ok ht
      cases he
      exact .rows _ table db t _ rfl hdb htable rfl rfl
        fun hr => hr.append fun row hrow => insertedRows_length hrow
  | update table assignments condition =>
      rw [run_update] at h
      obtain ⟨t, ht, he⟩ := bind_eq_ok.1 h
      obtain ⟨db, hdb, htable, -⟩ := target_eq_ok ht
      split at he
      · next written hw =>
        obtain ⟨hname, hcolumns, hwidth⟩ := Table.updateWhere?_eq_some hw
        cases he
        exact .rows _ table db t _ rfl hdb htable hname hcolumns hwidth
      · cases he
  | delete table condition =>
      rw [run_delete] at h
      obtain ⟨t, ht, he⟩ := bind_eq_ok.1 h
      obtain ⟨db, hdb, htable, -⟩ := target_eq_ok ht
      cases he
      exact .rows _ table db t _ rfl hdb htable rfl rfl fun hr => hr.retain _
  | createDatabase name =>
      rw [run_createDatabase] at h
      split at h
      · cases h
      · next hfree =>
        cases h
        exact .createDatabase name (Bool.not_eq_true _ ▸ hfree)
  | use name =>
      rw [run_use] at h
      unfold executeUse at h
      split at h
      · cases h
      · next db hdb =>
        cases h
        exact .use name db hdb
  | createTable name columns =>
      rw [run_createTable] at h
      obtain ⟨db, hdb, he⟩ := bind_eq_ok.1 h
      split at he
      · cases he
      · next hfree =>
        cases he
        exact .createTable name columns db (selectedDatabase_eq_ok.1 hdb) (by simpa using hfree)
  | showDatabases =>
      rw [run_showDatabases] at h
      cases h
      exact .nothing _
  | showTables =>
      rw [run_showTables] at h
      obtain ⟨db, -, he⟩ := bind_eq_ok.1 h
      cases he
      exact .nothing _
  | dropDatabase name =>
      rw [run_dropDatabase] at h
      unfold executeDropDatabase at h
      split at h
      · cases h
      · next db hdb =>
        cases h
        exact .dropDatabase name db hdb
  | dropTable name =>
      rw [run_eq_target rfl] at h
      obtain ⟨t, -, he⟩ := bind_eq_ok.1 h
      obtain ⟨db, hdb, he⟩ := bind_eq_ok.1 he
      obtain ⟨_, -, he⟩ := bind_eq_ok.1 he
      cases he
      exact .dropTable name db (selectedDatabase_eq_ok.1 hdb)

end SmallSql.Statement
