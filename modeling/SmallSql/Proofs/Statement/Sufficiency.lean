/-
  SmallSql.Proofs.Statement.Sufficiency
  ────────────────────────────────
  The checks of a statement are enough to carry it out.  `resolve` turns the column names of a
  statement into positions; `execute` looks the database and the table up once more and takes the
  positions as they come:

      resolve statement = positions  →  positions point at the named columns of the target table,
                                        inside every row of it, and execute statement succeeds

  Databases, tables and columns may stand twice in the catalog, and the statement need not come from
  a text.  All that is asked of the catalog is that rows have the width of their table.
-/
import Mathlib.Data.List.Forall2
import SmallSql.Proofs.Catalog.Edits
import SmallSql.Proofs.Statement.Run

namespace SmallSql

/-! ## §1. Positions of names. -/

/-- The first column of this name stands at the position. -/
def IsFirstAt (columns : List String) (name : String) (position : Nat) : Prop :=
  columns[position]? = some name ∧ ∀ earlier < position, columns[earlier]? ≠ some name

theorem IsFirstAt.lt_length {columns : List String} {name : String} {position : Nat}
    (h : IsFirstAt columns name position) : position < columns.length :=
  (List.getElem?_eq_some_iff.1 h.1).1

/-- The place of a column is that of the first of its name. -/
theorem Table.isFirstAt_place {t : Table} {name : String} (h : name ∈ t.columns) :
    IsFirstAt t.columns name (t.place name) := by
  unfold Table.place
  refine ⟨List.getElem?_idxOf h, ?_⟩
  intro earlier hearlier he
  obtain ⟨hlt, heq⟩ := List.getElem?_eq_some_iff.1 he
  -- an earlier column of the name would have been found first
  have hne : (t.columns[earlier] == name) = false := List.not_of_lt_findIdx hearlier
  rw [heq, beq_self_eq_true] at hne
  cases hne

/-- Names that are columns stand, one by one, at their places. -/
theorem Table.forall₂_isFirstAt {t : Table} {names : List String}
    (h : ∀ name ∈ names, name ∈ t.columns) :
    List.Forall₂ (IsFirstAt t.columns) names (names.map t.place) := by
  rw [List.forall₂_map_right_iff, List.forall₂_same]
  intro name hname
  exact t.isFirstAt_place (h name hname)

/-- Positions of names lie inside the column list. -/
theorem lt_length_of_forall₂ {columns names : List String} {positions : List Nat}
    (h : List.Forall₂ (IsFirstAt columns) names positions) :
    ∀ position ∈ positions, position < columns.length := by
  induction h with
  | nil => simp
  | cons hfirst _ ih =>
      intro position hposition
      rcases List.mem_cons.1 hposition with rfl | hposition
      · exact hfirst.lt_length
      · exact ih position hposition

namespace Statement

/-! ## §2. Positions of a statement. -/

/-- The positions that the statement asks for in a table with these columns: one for each column that
it names, in the order in which it names them.  A star asks for all columns; UPDATE names the
assigned columns and then the compared one. -/
def PointsAt (columns : List String) (positions : List Nat) : Statement → Prop
  | select _ .all => positions = List.range columns.length
  | select _ (.columns names) => List.Forall₂ (IsFirstAt columns) names positions
  | insert _ listed _ => List.Forall₂ (IsFirstAt columns) listed positions
  | update _ assignments condition =>
    List.Forall₂ (IsFirstAt columns) (assignments.map (·.1) ++ [condition.column]) positions
  | delete _ condition => List.Forall₂ (IsFirstAt columns) [condition.column] positions
  | _ => positions = []

/-- Positions at which a statement can be carried out in a table. -/
structure Suits (statement : Statement) (positions : List Nat) (t : Table) : Prop where
  points : statement.PointsAt t.columns positions
  inColumns : ∀ position ∈ positions, position < t.columns.length
  inRows : ∀ row ∈ t.rows, ∀ position ∈ positions, position < row.length

variable {statement : Statement} {c : Catalog} {s : Selection} {positions : List Nat}

/-- The places of the named columns are the positions asked for. -/
theorem pointsAt_placesIn {t : Table} (h : ∀ name ∈ statement.namedColumns, name ∈ t.columns) :
    statement.PointsAt t.columns (statement.placesIn t) := by
  cases statement with
  | select table projection =>
      cases projection with
      | all => rfl
      | columns names => exact Table.forall₂_isFirstAt h
  | insert | update | delete => exact Table.forall₂_isFirstAt h
  | createDatabase | use | createTable | showDatabases | showTables | dropDatabase | dropTable =>
      rfl

/-- Positions that are asked for lie inside the table. -/
theorem PointsAt.lt_length {columns : List String} (h : statement.PointsAt columns positions) :
    ∀ position ∈ positions, position < columns.length := by
  cases statement with
  | select table projection =>
      cases projection with
      | all =>
          intro position hposition
          have hrange : positions = List.range columns.length := h
          rw [hrange] at hposition
          exact List.mem_range.1 hposition
      | columns names => exact lt_length_of_forall₂ h
  | insert | update | delete => exact lt_length_of_forall₂ h
  | createDatabase | use | createTable | showDatabases | showTables | dropDatabase | dropTable =>
      have hnone : positions = [] := h
      rw [hnone]
      simp

/-- A table that a statement can find in a catalog is one of the catalog. -/
theorem rectangular_of_table? {db : Database} {t : Table} {name : String} (hc : c.Rectangular)
    (hdb : s.current? c = some db) (ht : db.table? name = some t) : t.Rectangular :=
  hc db (Selection.current?_mem hdb) t (Database.mem_of_table? ht).1

/-- In a table whose rows have its width, positions in the column list are positions in the rows. -/
theorem Suits.of_pointsAt {t : Table} (ht : t.Rectangular)
    (h : statement.PointsAt t.columns positions) : statement.Suits positions t where
  points := h
  inColumns := h.lt_length
  inRows := by
    intro row hrow position hposition
    rw [ht row hrow]
    exact h.lt_length position hposition

/-- **A statement is resolved to positions that suit its target.** -/
theorem suits_of_resolve (hc : c.Rectangular) (h : statement.resolve c s = .ok positions)
    {name : String} (htarget : statement.targetTable? = some name) :
    ∃ db t, s.current? c = some db ∧ db.table? name = some t ∧ statement.Suits positions t := by
  rw [resolve_eq_target htarget] at h
  obtain ⟨t, ht, hpositions⟩ := bind_eq_ok.1 h
  cases hpositions
  obtain ⟨db, hdb, htable, hnamed, -⟩ := target_eq_ok ht
  exact ⟨db, t, hdb, htable, .of_pointsAt (rectangular_of_table? hc hdb htable)
    (pointsAt_placesIn hnamed)⟩

/-! ## §3. Carrying out. -/

/-- A row with the cells written into it, if `hit` selects it. -/
def overwritten (cells : List (Nat × Cell)) (hit : Row → Bool) (row : Row) : Row :=
  if hit row then cells.foldl (fun row p => row.set p.1 p.2) row else row

/-- The table with the cells written into every row that `hit` selects, and the number of those
rows. -/
def overwrite (t : Table) (cells : List (Nat × Cell)) (hit : Row → Bool) : Table × Nat :=
  ({ t with rows := t.rows.map (overwritten cells hit) }, t.rows.countP hit)

/-- Writing inside the rows succeeds. -/
theorem updateWhere?_eq_overwrite {t : Table} {cells : List (Nat × Cell)} (hit : Row → Bool)
    (h : ∀ row ∈ t.rows, ∀ p ∈ cells, p.1 < row.length) :
    t.updateWhere? cells hit = some (overwrite t cells hit) := by
  have hrows : t.rows.mapM (fun row => if hit row then row.assign? cells else some row)
      = some (t.rows.map (overwritten cells hit)) := by
    rw [mapM_eq_some, List.map_map]
    apply List.map_congr_left
    intro row hrow
    show (if hit row then row.assign? cells else some row) = some (overwritten cells hit row)
    unfold overwritten
    by_cases hhit : hit row = true
    · rw [if_pos hhit, if_pos hhit, Row.assign?_eq (h row hrow)]
    · rw [if_neg hhit, if_neg hhit]
  unfold Table.updateWhere?
  rw [hrows]
  rfl

/-- The places that UPDATE writes at lie inside the rows of its target. -/
theorem assignedCells_lt {table : String} {assignments : List (String × Cell)}
    {condition : Condition} {t : Table} (ht : t.Rectangular)
    (h : ∀ name ∈ (update table assignments condition).namedColumns, name ∈ t.columns) :
    ∀ row ∈ t.rows, ∀ p ∈ assignedCells assignments t, p.1 < row.length := by
  intro row hrow p hp
  obtain ⟨a, ha, rfl⟩ := List.mem_map.1 hp
  have hcolumn : a.1 ∈ t.columns :=
    h a.1 (List.mem_append_left _ (List.mem_map_of_mem ha))
  rw [ht row hrow]
  exact (t.isFirstAt_place hcolumn).lt_length

/-- A statement with a target that passes the checks has an effect, if the rows of its target have
its width. -/
theorem run_of_rectangular {name : String} (htarget : statement.targetTable? = some name)
    {t : Table} (hrows : t.Rectangular) (ht : statement.target name c s = .ok t) :
    ∃ e, statement.run c s = .ok e := by
  obtain ⟨db, hdb, htable, hnamed, -⟩ := target_eq_ok ht
  cases statement with
  | select _ projection =>
      cases htarget
      rw [run_select, ht, ok_bind]
      exact ⟨_, rfl⟩
  | insert _ listed tuples =>
      cases htarget
      rw [run_insert, ht, ok_bind]
      exact ⟨_, rfl⟩
  | update _ assignments condition =>
      cases htarget
      -- the only statement that writes into rows: the rows are wide enough
      have hinside := assignedCells_lt hrows hnamed
      have hwritten := updateWhere?_eq_overwrite (isUpdated condition t) hinside
      rw [run_update, ht, ok_bind, hwritten]
      exact ⟨_, rfl⟩
  | delete _ condition =>
      cases htarget
      rw [run_delete, ht, ok_bind]
      exact ⟨_, rfl⟩
  | dropTable _ =>
      cases htarget
      rw [run_eq_target rfl, ht, ok_bind]
      show ∃ e, executeDropTable name c s = .ok e
      unfold executeDropTable
      rw [selectedDatabase_eq_ok.2 hdb, ok_bind, tableIn_eq_ok.2 htable, ok_bind]
      exact ⟨_, rfl⟩
  | createDatabase | use | createTable | showDatabases | showTables | dropDatabase => cases htarget

/-- A statement with a target that passes the checks has an effect. -/
theorem run_of_target (hc : c.Rectangular) {name : String}
    (htarget : statement.targetTable? = some name) {t : Table}
    (ht : statement.target name c s = .ok t) : ∃ e, statement.run c s = .ok e := by
  obtain ⟨db, hdb, htable, -⟩ := target_eq_ok ht
  exact run_of_rectangular htarget (rectangular_of_table? hc hdb htable) ht

/-- The database that has to be there is found. -/
theorem database?_of_checked {name : String} {fault : SqlError} {u : Unit}
    (h : (if c.hasDatabase name then .ok () else .error fault) = Except.ok u) :
    ∃ db, c.database? name = some db := by
  split at h
  · next hhas => exact Option.isSome_iff_exists.1 hhas
  · cases h

/-- A statement without a target names no columns, and has an effect if it passes the checks. -/
theorem run_of_untargeted (htarget : statement.targetTable? = none)
    (h : statement.resolve c s = .ok positions) :
    positions = [] ∧ ∃ e, statement.run c s = .ok e := by
  cases statement with
  | select | insert | update | delete | dropTable => cases htarget
  | createTable name columns =>
      obtain ⟨db, hdb, hfree⟩ := bind_eq_ok.1 h
      unfold resolveIn at hfree
      dsimp only at hfree
      split at hfree
      · cases hfree
      · next hnew =>
        cases hfree
        refine ⟨rfl, createTableEffect name columns c s db, ?_⟩
        rw [run_createTable, hdb, ok_bind, if_neg hnew]
  | showTables =>
      obtain ⟨db, hdb, hnone⟩ := bind_eq_ok.1 h
      cases hnone
      rw [run_showTables]
      unfold executeShowTables
      rw [hdb, ok_bind]
      exact ⟨rfl, _, rfl⟩
  | createDatabase name =>
      obtain ⟨_, hfree, hnone⟩ := bind_eq_ok.1 h
      cases hnone
      refine ⟨rfl, executeCreateDatabase name c, ?_⟩
      unfold checkDatabase at hfree
      dsimp only at hfree
      split at hfree
      · cases hfree
      · next hnew => rw [run_createDatabase, if_neg hnew]
  | showDatabases =>
      cases h
      exact ⟨rfl, executeShowDatabases c, rfl⟩
  | use name =>
      obtain ⟨_, hfound, hnone⟩ := bind_eq_ok.1 h
      cases hnone
      obtain ⟨db, hdb⟩ := database?_of_checked hfound
      rw [run_use]
      unfold executeUse
      rw [hdb]
      exact ⟨rfl, _, rfl⟩
  | dropDatabase name =>
      obtain ⟨_, hfound, hnone⟩ := bind_eq_ok.1 h
      cases hnone
      obtain ⟨db, hdb⟩ := database?_of_checked hfound
      rw [run_dropDatabase]
      unfold executeDropDatabase
      rw [hdb]
      exact ⟨rfl, _, rfl⟩

/-- **The checks are enough.**  In a catalog whose rows have the width of their table, a statement that
passes the checks has the positions it asks for, all of them inside its target table and the rows
of it, and is carried out at these positions without an error. -/
theorem execute_of_resolve (hc : c.Rectangular) (h : statement.resolve c s = .ok positions) :
    (∀ name, statement.targetTable? = some name → ∃ db t,
      s.current? c = some db ∧ db.table? name = some t ∧ statement.Suits positions t)
    ∧ (statement.targetTable? = none → positions = [])
    ∧ ∃ e, statement.execute positions c s = .ok e := by
  have hrun : statement.run c s = statement.execute positions c s := by
    unfold run
    rw [h, ok_bind]
  rw [← hrun]
  cases htarget : statement.targetTable? with
  | none =>
      obtain ⟨hnone, heffect⟩ := run_of_untargeted htarget h
      exact ⟨nofun, fun _ => hnone, heffect⟩
  | some name =>
      refine ⟨?_, nofun, ?_⟩
      · intro name' hname'
        cases hname'
        exact suits_of_resolve hc h htarget
      · rw [resolve_eq_target htarget] at h
        obtain ⟨t, ht, -⟩ := bind_eq_ok.1 h
        exact run_of_target hc htarget ht

/-- Two databases and two tables of one name, and a table with a column that stands twice. -/
def repeatedNames : Catalog :=
  ⟨[⟨"Shop", [⟨"t", ["a", "b", "a"], [[.text "1", .null, .text "2"]]⟩, ⟨"T", ["c"], [[.null]]⟩]⟩,
    ⟨"SHOP", []⟩]⟩

/-- An UPDATE among repeated names: of each the first is meant, for the look-up of the checks and for
that of the effect. -/
theorem execute_of_resolve_repeatedNames :
    repeatedNames.Rectangular
      ∧ (update "T" [("b", .text "x"), ("a", .null)] ⟨"a", .eq, .text "1"⟩).resolve repeatedNames
        (.of "sHOP") = .ok [1, 0, 0]
      ∧ (∃ db t, (Selection.of "sHOP").current? repeatedNames = some db
        ∧ db.table? "T" = some t
        ∧ (update "T" [("b", .text "x"), ("a", .null)] ⟨"a", .eq, .text "1"⟩).Suits [1, 0, 0] t)
      ∧ ∃ e, (update "T" [("b", .text "x"), ("a", .null)] ⟨"a", .eq, .text "1"⟩).execute [1, 0, 0]
        repeatedNames (.of "sHOP") = .ok e := by
  have hc : repeatedNames.Rectangular := by
    simp [repeatedNames, Catalog.Rectangular, Database.Rectangular, Table.Rectangular]
  have hresolve : (update "T" [("b", .text "x"), ("a", .null)] ⟨"a", .eq, .text "1"⟩).resolve
      repeatedNames (.of "sHOP") = .ok [1, 0, 0] := by
    decide +kernel
  obtain ⟨htarget, -, heffect⟩ := execute_of_resolve hc hresolve
  exact ⟨hc, hresolve, htarget "T" rfl, heffect⟩

end Statement

end SmallSql
