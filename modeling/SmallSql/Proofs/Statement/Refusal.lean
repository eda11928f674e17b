/-
  SmallSql.Proofs.Statement.Refusal
  ────────────────────────────────
  Which error a statement is refused with.  The checks stand in an order,

      selection  ──▶  table  ──▶  columns  ──▶  tuples  ──▶  database

  `Fails` says of each of them, by what is and what is not in the catalog, when it fails and with
  which error; it looks nothing up by the functions of the checks but the database and the table
  that are meant.  `resolve` reports the error of the first check that fails and succeeds where none
  does.
-/
import Mathlib.Data.List.Nodup
import SmallSql.Proofs.Catalog.Edits
import SmallSql.Proofs.Statement.Run

namespace SmallSql

/-! ## §1. The first check that fails. -/

/-- The checks of a statement. -/
inductive Check where
  /-- A database is selected and there. -/
  | selection
  /-- The name of a new table is free; the table of any other statement is there. -/
  | table
  /-- The named columns are columns of the table. -/
  | columns
  /-- The tuples of an INSERT have the width of its column list. -/
  | tuples
  /-- The name of a new database is free; a database to select or to drop is there. -/
  | database
deriving DecidableEq, Repr

/-- The checks in their order. -/
def Check.order : List Check := [selection, table, columns, tuples, database]

/-- The error is that of the first of these checks that fails. -/
inductive FirstFailure (fails : Check → SqlError → Prop) : List Check → SqlError → Prop
  | here {check : Check} {later : List Check} {e : SqlError} : fails check e →
      FirstFailure fails (check :: later) e
  | later {check : Check} {later : List Check} {e : SqlError} : (∀ e', ¬ fails check e') →
      FirstFailure fails later e → FirstFailure fails (check :: later) e

section FirstFailure

variable {fails : Check → SqlError → Prop} {checks : List Check} {e e' : SqlError}

/-- There is a first failure only where a check fails. -/
theorem FirstFailure.exists_fails (h : FirstFailure fails checks e) : ∃ check, fails check e := by
  induction h with
  | here h => exact ⟨_, h⟩
  | later _ _ ih => exact ih

/-- If no check fails with two errors, there is one error of the first that fails. -/
theorem FirstFailure.unique (hone : ∀ check e e', fails check e → fails check e' → e = e')
    (h : FirstFailure fails checks e) (h' : FirstFailure fails checks e') : e = e' := by
  induction h with
  | here h =>
      cases h' with
      | here h' => exact hone _ _ _ h h'
      | later hnone => exact absurd h (hnone _)
  | later hnone _ ih =>
      cases h' with
      | here h' => exact absurd h' (hnone _)
      | later _ h' => exact ih h'

end FirstFailure

/-! ## §2. Names that are no columns. -/

/-- The list has the names that are no columns, each once, in the order in which the names are first
mentioned. -/
structure ListsUnknown (columns names unknown : List String) : Prop where
  mem_iff : ∀ name, name ∈ unknown ↔ name ∈ names ∧ name ∉ columns
  distinct : unknown.Nodup
  inOrder : unknown.Pairwise fun a b => names.idxOf a < names.idxOf b

/-- There is only one such list. -/
theorem ListsUnknown.unique {columns names unknown unknown' : List String}
    (h : ListsUnknown columns names unknown) (h' : ListsUnknown columns names unknown') :
    unknown = unknown' := by
  have hperm : unknown.Perm unknown' :=
    (List.perm_ext_iff_of_nodup h.distinct h'.distinct).2 fun name =>
      (h.mem_iff name).trans (h'.mem_iff name).symm
  refine hperm.eq_of_pairwise ?_ h.inOrder h'.inOrder
  intro a b _ _ hab hba
  exact absurd hba (Nat.lt_asymm hab)

/-- Some of the names, each taken once, come in the order in which they are first mentioned. -/
theorem pairwise_idxOf_eraseDups (names : List String) : ∀ p : String → Bool,
    (names.filter p).eraseDups.Pairwise fun a b => names.idxOf a < names.idxOf b := by
  induction names with
  | nil =>
      intro p
      exact .nil
  | cons n rest ih =>
      intro p
      -- behind a mention of `n`, the first mentions of other names are one further on
      have hothers : ∀ q : String → Bool, q n = false →
          (rest.filter q).eraseDups.Pairwise
            fun a b => (n :: rest).idxOf a < (n :: rest).idxOf b := by
        intro q hq
        have hne : ∀ a ∈ (rest.filter q).eraseDups, a ≠ n := by
          rintro a ha rfl
          have hqa := (List.mem_filter.1 (List.mem_eraseDups.1 ha)).2
          rw [hq] at hqa
          cases hqa
        refine (ih q).imp_of_mem ?_
        intro a b ha hb hab
        rw [List.idxOf_cons_ne rest (hne a ha).symm, List.idxOf_cons_ne rest (hne b hb).symm]
        exact Nat.succ_lt_succ hab
      by_cases hn : p n = true
      · rw [List.filter_cons_of_pos hn, List.eraseDups_cons, List.filter_filter]
        refine List.pairwise_cons.2 ⟨?_, hothers _ (by simp)⟩
        intro b hb
        have hbn : b ≠ n := by
          have hmem := (List.mem_filter.1 (List.mem_eraseDups.1 hb)).2
          simp only [Bool.and_eq_true, Bool.not_eq_true', beq_eq_false_iff_ne] at hmem
          exact hmem.1
        rw [List.idxOf_cons_self, List.idxOf_cons_ne rest hbn.symm]
        exact Nat.succ_pos _
      · rw [List.filter_cons_of_neg hn]
        exact hothers p (Bool.eq_false_iff.2 hn)

/-- The unknown names of a table are listed so. -/
theorem Table.listsUnknown (t : Table) (names : List String) :
    ListsUnknown t.columns names (t.unknown names) where
  mem_iff name := by
    unfold Table.unknown
    rw [List.mem_eraseDups, List.mem_filter, Bool.not_eq_true', ← Bool.not_eq_true, hasColumn_iff]
  distinct := (pairwise_idxOf_eraseDups names _).imp fun hlt he =>
    absurd (he ▸ hlt) (Nat.lt_irrefl _)
  inOrder := pairwise_idxOf_eraseDups names _

/-! ## §3. Tuples of another width. -/

/-- The tuple at this position is the first that does not have the width. -/
structure FirstMisfit (width : Nat) (tuples : List (List Cell)) (i : Nat) (tuple : List Cell) :
    Prop where
  at_position : tuples[i]? = some tuple
  misfits : tuple.length ≠ width
  earlier_fit : ∀ j < i, ∀ earlier, tuples[j]? = some earlier → earlier.length = width

/-- Only one tuple is the first. -/
theorem FirstMisfit.unique {width i i' : Nat} {tuples : List (List Cell)} {tuple tuple' : List Cell}
    (h : FirstMisfit width tuples i tuple) (h' : FirstMisfit width tuples i' tuple') :
    i = i' ∧ tuple = tuple' := by
  obtain rfl : i = i' := by
    rcases Nat.lt_trichotomy i i' with hlt | rfl | hlt
    · exact absurd (h'.earlier_fit i hlt tuple h.at_position) h.misfits
    · rfl
    · exact absurd (h.earlier_fit i' hlt tuple' h'.at_position) h'.misfits
  exact ⟨rfl, Option.some.inj (h.at_position.symm.trans h'.at_position)⟩

namespace Statement

/-- The tuple that is reported is the first that does not have the width. -/
theorem firstMisfit_of_misfit? {width number row actual : Nat} {tuples : List (List Cell)}
    (h : misfit? width number tuples = some (row, actual)) :
    ∃ i tuple, FirstMisfit width tuples i tuple ∧ row = number + i ∧ actual = tuple.length := by
  induction tuples generalizing number with
  | nil => cases h
  | cons tuple rest ih =>
      unfold misfit? at h
      by_cases hfits : tuple.length = width
      · rw [if_pos hfits] at h
        obtain ⟨i, later, ⟨hat, hmisfits, hearlier⟩, hrow, hactual⟩ := ih h
        refine ⟨i + 1, later, ⟨hat, hmisfits, ?_⟩, by omega, hactual⟩
        intro j hj earlier hget
        cases j with
        | zero =>
            cases hget
            exact hfits
        | succ j => exact hearlier j (Nat.lt_of_succ_lt_succ hj) earlier hget
      · rw [if_neg hfits] at h
        cases h
        exact ⟨0, tuple, ⟨rfl, hfits, fun j hj => absurd hj (Nat.not_lt_zero j)⟩, rfl, rfl⟩

/-! ## §4. When a check fails. -/

/-- The check fails with this error. -/
inductive Fails (statement : Statement) (c : Catalog) (s : Selection) : Check → SqlError → Prop
  | notSelected : statement.command.isTableScoped = true → s.current? c = none →
      Fails statement c s .selection .noDatabaseSelected
  | tableTaken {name : String} {columns : List String} {db : Database} {t : Table} :
      statement = createTable name columns → s.current? c = some db → t ∈ db.tables →
      sameName t.name name = true →
      Fails statement c s .table (.tableAlreadyExists name db.name)
  | tableMissing {name : String} {db : Database} : statement.targetTable? = some name →
      s.current? c = some db → (∀ t ∈ db.tables, ¬ sameName t.name name = true) →
      Fails statement c s .table (.tableNotFound name db.name)
  | columnsUnknown {name : String} {db : Database} {t : Table} {unknown : List String} :
      statement.targetTable? = some name → s.current? c = some db → db.table? name = some t →
      ListsUnknown t.columns statement.namedColumns unknown → unknown ≠ [] →
      Fails statement c s .columns (.unknownColumn unknown)
  | tupleMisfits {name : String} {columns : List String} {rows : List (List Cell)} {i : Nat}
      {tuple : List Cell} : statement = insert name columns rows →
      FirstMisfit columns.length rows i tuple →
      Fails statement c s .tuples (.arityMismatch (i + 1) columns.length tuple.length)
  | databaseTaken {name : String} {db : Database} : statement = createDatabase name →
      db ∈ c.databases → sameName db.name name = true →
      Fails statement c s .database (.databaseAlreadyExists name)
  | databaseMissing {name : String} : statement = use name ∨ statement = dropDatabase name →
      (∀ db ∈ c.databases, ¬ sameName db.name name = true) →
      Fails statement c s .database (.databaseNotFound name)

variable {statement : Statement} {c : Catalog} {s : Selection} {check : Check} {e e' : SqlError}
  {name : String} {db : Database} {t : Table}

/-- A check fails with one error only. -/
theorem Fails.unique (h : statement.Fails c s check e) (h' : statement.Fails c s check e') :
    e = e' := by
  cases h with
  | notSelected =>
      cases h'
      rfl
  | tableTaken hs hdb ht hname =>
      cases h' with
      | tableTaken hs' hdb' =>
          cases hs.symm.trans hs'
          cases hdb.symm.trans hdb'
          rfl
      | tableMissing htarget =>
          rw [hs] at htarget
          cases htarget
  | tableMissing htarget hdb hnone =>
      cases h' with
      | tableTaken hs' =>
          rw [hs'] at htarget
          cases htarget
      | tableMissing htarget' hdb' =>
          cases htarget.symm.trans htarget'
          cases hdb.symm.trans hdb'
          rfl
  | columnsUnknown htarget hdb ht hlists =>
      cases h' with
      | columnsUnknown htarget' hdb' ht' hlists' =>
          cases htarget.symm.trans htarget'
          cases hdb.symm.trans hdb'
          cases ht.symm.trans ht'
          rw [hlists.unique hlists']
  | tupleMisfits hs hfirst =>
      cases h' with
      | tupleMisfits hs' hfirst' =>
          cases hs.symm.trans hs'
          obtain ⟨rfl, rfl⟩ := hfirst.unique hfirst'
          rfl
  | databaseTaken hs =>
      cases h' with
      | databaseTaken hs' =>
          cases hs.symm.trans hs'
          rfl
      | databaseMissing hs' => rcases hs' with hs' | hs' <;> cases hs.symm.trans hs'
  | databaseMissing hs =>
      cases h' with
      | databaseTaken hs' => rcases hs with hs | hs <;> cases hs.symm.trans hs'
      | databaseMissing hs' =>
          -- one statement is not both, and has one name
          rcases hs with rfl | rfl <;> rcases hs' with hs' | hs' <;> cases hs' <;> rfl

/-! ## §5. What is found passes its check. -/

theorem not_fails_selection (hdb : s.current? c = some db) :
    ¬ statement.Fails c s .selection e := by
  rintro ⟨-, hnone⟩
  rw [hdb] at hnone
  cases hnone

theorem not_fails_table (htarget : statement.targetTable? = some name)
    (hdb : s.current? c = some db) (ht : db.table? name = some t) :
    ¬ statement.Fails c s .table e := by
  intro h
  cases h with
  | tableTaken hs =>
      rw [hs] at htarget
      cases htarget
  | tableMissing htarget' hdb' hnone =>
      cases htarget.symm.trans htarget'
      cases hdb.symm.trans hdb'
      obtain ⟨hmem, hname⟩ := Database.mem_of_table? ht
      exact hnone t hmem hname

theorem not_fails_columns (htarget : statement.targetTable? = some name)
    (hdb : s.current? c = some db) (ht : db.table? name = some t)
    (hall : ∀ n ∈ statement.namedColumns, n ∈ t.columns) :
    ¬ statement.Fails c s .columns e := by
  intro h
  cases h with
  | columnsUnknown htarget' hdb' ht' hlists hsome =>
      cases htarget.symm.trans htarget'
      cases hdb.symm.trans hdb'
      cases ht.symm.trans ht'
      refine hsome (List.eq_nil_iff_forall_not_mem.2 fun n hn => ?_)
      obtain ⟨hnamed, hunknown⟩ := (hlists.mem_iff n).1 hn
      exact hunknown (hall n hnamed)

theorem not_fails_tuples (htuples : checkTuples statement = .ok ()) :
    ¬ statement.Fails c s .tuples e := by
  intro h
  cases h with
  | @tupleMisfits _ columns rows i tuple hs hfirst =>
      subst hs
      exact hfirst.misfits
        (checkTuples_insert_eq_ok.1 htuples tuple (List.mem_of_getElem? hfirst.at_position))

theorem not_fails_database (hscoped : statement.command.isTableScoped = true) :
    ¬ statement.Fails c s .database e := by
  intro h
  cases h with
  | databaseTaken hs =>
      rw [hs] at hscoped
      cases hscoped
  | databaseMissing hs => rcases hs with rfl | rfl <;> cases hscoped

theorem not_fails_columns_of_untargeted (htarget : statement.targetTable? = none) :
    ¬ statement.Fails c s .columns e := by
  intro h
  cases h with
  | columnsUnknown htarget' => cases htarget.symm.trans htarget'

/-- A statement on whole databases can fail the last check only. -/
theorem eq_database_of_fails (hscoped : statement.command.isTableScoped = false)
    (h : statement.Fails c s check e) : check = .database := by
  have hscope : ∀ name, statement.targetTable? = some name →
      statement.command.isTableScoped = true := by
    intro name htarget
    cases statement with
    | select | insert | update | delete | dropTable => rfl
    | createDatabase | use | createTable | showDatabases | showTables | dropDatabase =>
        cases htarget
  cases h with
  | notSelected h => cases hscoped.symm.trans h
  | tableTaken hs =>
      rw [hs] at hscoped
      cases hscoped
  | tableMissing htarget => cases hscoped.symm.trans (hscope _ htarget)
  | columnsUnknown htarget => cases hscoped.symm.trans (hscope _ htarget)
  | tupleMisfits hs =>
      rw [hs] at hscoped
      cases hscoped
  | databaseTaken => rfl
  | databaseMissing => rfl

/-! ## §6. What is reported. -/

/-- The outcome is the error of the first check that fails, or success where none does. -/
def Reported (statement : Statement) (c : Catalog) (s : Selection) :
    Except SqlError (List Nat) → Prop
  | .ok _ => ∀ check e, ¬ statement.Fails c s check e
  | .error e => FirstFailure (statement.Fails c s) Check.order e

/-- Passing every check is passing them in their order. -/
theorem reported_ok {positions : List Nat} (hselection : ∀ e, ¬ statement.Fails c s .selection e)
    (htable : ∀ e, ¬ statement.Fails c s .table e)
    (hcolumns : ∀ e, ¬ statement.Fails c s .columns e)
    (htuples : ∀ e, ¬ statement.Fails c s .tuples e)
    (hdatabase : ∀ e, ¬ statement.Fails c s .database e) :
    statement.Reported c s (.ok positions) := by
  intro check
  cases check with
  | selection => exact hselection
  | table => exact htable
  | columns => exact hcolumns
  | tuples => exact htuples
  | database => exact hdatabase

/-- The error of the tuples is that of the first that misfits. -/
theorem fails_of_checkTuples (h : checkTuples statement = .error e) :
    statement.Fails c s .tuples e := by
  cases statement with
  | insert table columns rows =>
      unfold checkTuples at h
      dsimp only at h
      split at h
      · next row actual hmisfit =>
        obtain ⟨i, tuple, hfirst, rfl, rfl⟩ := firstMisfit_of_misfit? hmisfit
        cases h
        rw [Nat.add_comm 1 i]
        exact .tupleMisfits rfl hfirst
      · cases h
  | select | update | delete | createDatabase | use | createTable | showDatabases | showTables
    | dropDatabase | dropTable => cases h

/-- Of a statement that works inside a database, the selection is checked first. -/
theorem reported_of_scoped (hscoped : statement.command.isTableScoped = true)
    (hfound : ∀ db, s.current? c = some db → statement.Reported c s (statement.resolve c s)) :
    statement.Reported c s (statement.resolve c s) := by
  cases hdb : s.current? c with
  | some db => exact hfound db hdb
  | none =>
      have herror : selectedDatabase c s = .error .noDatabaseSelected := by
        unfold selectedDatabase
        rw [hdb]
      unfold resolve
      rw [if_pos hscoped, herror]
      exact FirstFailure.here (.notSelected hscoped hdb)

/-- A statement with a target goes on with the table, the columns and the tuples. -/
theorem reported_of_target (hscoped : statement.command.isTableScoped = true)
    (htarget : statement.targetTable? = some name) (hdb : s.current? c = some db) :
    statement.Reported c s (statement.resolve c s) := by
  have hselection : ∀ e, ¬ statement.Fails c s .selection e := fun e => not_fails_selection hdb
  rw [resolve_eq_target htarget]
  unfold target
  rw [selectedDatabase_eq_ok.2 hdb, ok_bind]
  cases ht : db.table? name with
  | none =>
      have herror : tableIn db name = .error (.tableNotFound name db.name) := by
        unfold tableIn
        rw [ht]
      rw [herror]
      exact FirstFailure.later hselection
        (.here (.tableMissing htarget hdb (List.find?_eq_none.1 ht)))
  | some t =>
      have htable : ∀ e, ¬ statement.Fails c s .table e := fun e => not_fails_table htarget hdb ht
      rw [tableIn_eq_ok.2 ht, ok_bind]
      by_cases hall : ∀ n ∈ statement.namedColumns, n ∈ t.columns
      · have hcolumns : ∀ e, ¬ statement.Fails c s .columns e :=
          fun e => not_fails_columns htarget hdb ht hall
        rw [Table.require_eq_ok.2 hall, ok_bind]
        cases htuples : checkTuples statement with
        | error e =>
            exact FirstFailure.later hselection
              (.later htable (.later hcolumns (.here (fails_of_checkTuples htuples))))
        | ok _ =>
            exact reported_ok hselection htable hcolumns
              (fun e => not_fails_tuples htuples) fun e => not_fails_database hscoped
      · have hsome : ¬ (t.unknown statement.namedColumns).isEmpty = true :=
          fun h => hall (Table.unknown_isEmpty_iff.1 h)
        have herror : t.require statement.namedColumns
            = .error (.unknownColumn (t.unknown statement.namedColumns)) := if_neg hsome
        rw [herror]
        refine FirstFailure.later hselection (.later htable (.here ?_))
        exact .columnsUnknown htarget hdb ht (t.listsUnknown _) (by simpa using hsome)

/-- CREATE TABLE goes on with the name of the new table. -/
theorem reported_createTable {columns : List String} (hdb : s.current? c = some db) :
    (createTable name columns).Reported c s ((createTable name columns).resolve c s) := by
  have hselection : ∀ e, ¬ (createTable name columns).Fails c s .selection e :=
    fun e => not_fails_selection hdb
  have hresolve : (createTable name columns).resolve c s = (do
      let db ← selectedDatabase c s
      resolveIn db (createTable name columns)) := rfl
  rw [hresolve, selectedDatabase_eq_ok.2 hdb, ok_bind]
  unfold resolveIn
  dsimp only
  cases ht : db.table? name with
  | some t =>
      obtain ⟨hmem, hname⟩ := Database.mem_of_table? ht
      exact FirstFailure.later hselection (.here (.tableTaken rfl hdb hmem hname))
  | none =>
      have htable : ∀ e, ¬ (createTable name columns).Fails c s .table e := by
        intro e h
        cases h with
        | tableTaken hs hdb' hmem hname =>
            cases hs
            cases hdb.symm.trans hdb'
            exact List.find?_eq_none.1 ht _ hmem hname
        | tableMissing htarget => cases htarget
      exact reported_ok hselection htable (fun e => not_fails_columns_of_untargeted rfl)
        (fun e => not_fails_tuples rfl) fun e => not_fails_database rfl

/-- SHOW TABLES needs no more than the selected database. -/
theorem reported_showTables (hdb : s.current? c = some db) :
    showTables.Reported c s (showTables.resolve c s) := by
  have hresolve : showTables.resolve c s = (do
      let _ ← selectedDatabase c s
      return []) := rfl
  rw [hresolve, selectedDatabase_eq_ok.2 hdb]
  have htable : ∀ e, ¬ showTables.Fails c s .table e := by
    intro e h
    cases h with
    | tableTaken hs => cases hs
    | tableMissing htarget => cases htarget
  exact reported_ok (fun e => not_fails_selection hdb) htable
    (fun e => not_fails_columns_of_untargeted rfl) (fun e => not_fails_tuples rfl)
    fun e => not_fails_database rfl

/-- The check of the databases fails as it says. -/
theorem checkDatabase_eq_error :
    checkDatabase c statement = .error e ↔ statement.Fails c s .database e := by
  -- of a database that is looked up by name, only its being there matters
  have hnone : ∀ name, ¬ c.hasDatabase name = true →
      ∀ db ∈ c.databases, ¬ sameName db.name name = true :=
    fun name hhas db hdb hname => hhas (Catalog.hasDatabase_iff.2 ⟨db, hdb, hname⟩)
  constructor
  · intro h
    cases statement with
    | createDatabase name =>
        unfold checkDatabase at h
        dsimp only at h
        split at h
        · next hhas =>
          obtain ⟨db, hdb, hname⟩ := Catalog.hasDatabase_iff.1 hhas
          cases h
          exact .databaseTaken rfl hdb hname
        · cases h
    | use name =>
        unfold checkDatabase at h
        dsimp only at h
        split at h
        · cases h
        · next hhas =>
          cases h
          exact .databaseMissing (.inl rfl) (hnone name hhas)
    | dropDatabase name =>
        unfold checkDatabase at h
        dsimp only at h
        split at h
        · cases h
        · next hhas =>
          cases h
          exact .databaseMissing (.inr rfl) (hnone name hhas)
    | select | insert | update | delete | createTable | showDatabases | showTables | dropTable =>
        cases h
  · intro h
    cases h with
    | databaseTaken hs hdb hname =>
        subst hs
        exact if_pos (Catalog.hasDatabase_iff.2 ⟨_, hdb, hname⟩)
    | @databaseMissing name hs hmissing =>
        have hhas : ¬ c.hasDatabase name = true := by
          intro hhas
          obtain ⟨db, hdb, hname⟩ := Catalog.hasDatabase_iff.1 hhas
          exact hmissing db hdb hname
        rcases hs with rfl | rfl
        · exact if_neg hhas
        · exact if_neg hhas

/-- A statement on whole databases goes through the last check only. -/
theorem reported_of_unscoped (hscoped : statement.command.isTableScoped = false) :
    statement.Reported c s (statement.resolve c s) := by
  have hother : ∀ check, check ≠ .database → ∀ e, ¬ statement.Fails c s check e :=
    fun check hne e h => hne (eq_database_of_fails hscoped h)
  have hresolve : statement.resolve c s = (do
      checkDatabase c statement
      return []) := by
    unfold resolve
    rw [hscoped]
    rfl
  rw [hresolve]
  cases hcheck : checkDatabase c statement with
  | error e =>
      exact FirstFailure.later (hother _ nofun) (.later (hother _ nofun) (.later (hother _ nofun)
        (.later (hother _ nofun) (.here (checkDatabase_eq_error.1 hcheck)))))
  | ok _ =>
      refine reported_ok (hother _ nofun) (hother _ nofun) (hother _ nofun) (hother _ nofun) ?_
      intro e h
      cases hcheck.symm.trans (checkDatabase_eq_error.2 h)

theorem reported_resolve (statement : Statement) (c : Catalog) (s : Selection) :
    statement.Reported c s (statement.resolve c s) := by
  cases statement with
  | select | insert | update | delete | dropTable =>
      exact reported_of_scoped rfl fun db hdb => reported_of_target rfl rfl hdb
  | createTable => exact reported_of_scoped rfl fun db hdb => reported_createTable hdb
  | showTables => exact reported_of_scoped rfl fun db hdb => reported_showTables hdb
  | createDatabase | use | showDatabases | dropDatabase => exact reported_of_unscoped rfl

/-- **A refused statement reports exactly the first check that fails**, with what that check found,
and a statement that fails no check is accepted. -/
theorem resolve_reports_first_failure (statement : Statement) (c : Catalog) (s : Selection) :
    (∀ e, statement.resolve c s = .error e
        ↔ FirstFailure (statement.Fails c s) Check.order e)
      ∧ ((∃ positions, statement.resolve c s = .ok positions)
        ↔ ∀ check e, ¬ statement.Fails c s check e) := by
  have hreported := reported_resolve statement c s
  cases hresolve : statement.resolve c s with
  | ok positions =>
      rw [hresolve] at hreported
      refine ⟨fun e => ⟨nofun, fun hfirst => ?_⟩, fun _ => hreported, fun _ => ⟨positions, rfl⟩⟩
      obtain ⟨check, hfails⟩ := hfirst.exists_fails
      exact absurd hfails (hreported check e)
  | error fault =>
      rw [hresolve] at hreported
      have hfirst : FirstFailure (statement.Fails c s) Check.order fault := hreported
      obtain ⟨check, hfails⟩ := hfirst.exists_fails
      refine ⟨fun e => ⟨?_, fun hfirst' => ?_⟩, nofun,
        fun hnone => absurd hfails (hnone check fault)⟩
      · intro h
        cases h
        exact hfirst
      · rw [FirstFailure.unique (fun _ _ _ h h' => h.unique h') hfirst hfirst']

/-- An INSERT into a table of another spelling: of its unknown columns each is reported once, and
its tuple of another width not at all. -/
example : (insert "NOTES" ["b", "id", "c", "b"] [[.null]]).resolve
    { databases := [{ name := "shop", tables := [{ name := "notes", columns := ["id"] }] }] }
    (.of "shop") = .error (.unknownColumn ["b", "c"]) := by
  decide +kernel

end Statement

end SmallSql
