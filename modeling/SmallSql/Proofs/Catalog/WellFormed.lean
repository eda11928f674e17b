/-
  SmallSql.Proofs.Catalog.WellFormed
  ────────────────────────────────
  What stays true of a catalog that only statements have changed:

      names      no two databases, and no two tables of one database, have the same name
      columns    every table has at least one column, and no column twice
      rows       every row has a cell for each column and none besides

  The edits of a catalog check nothing of this.  `Yields.wellFormed` puts it together from what the
  checks of a statement and its form make sure of.  Of these only the rows are checked when a stored
  catalog is read, so `Yields.rectangular` keeps them on their own.
-/
import SmallSql.Proofs.Statement.Formed
import SmallSql.Proofs.Statement.Yield

namespace SmallSql

/-! ## §1. The properties. -/

/-- A table that CREATE TABLE and the statements on rows can lead to. -/
structure Table.WellFormed (t : Table) : Prop where
  columnList : Statement.IsColumnList t.columns
  rectangular : t.Rectangular

/-- A database whose tables can be told apart by name. -/
structure Database.WellFormed (db : Database) : Prop where
  apart : db.tableNames.Pairwise fun a b => ¬ sameName a b = true
  tables : ∀ t ∈ db.tables, t.WellFormed

/-- A catalog whose databases can be told apart by name. -/
structure Catalog.WellFormed (c : Catalog) : Prop where
  apart : c.databaseNames.Pairwise fun a b => ¬ sameName a b = true
  databases : ∀ db ∈ c.databases, db.WellFormed

/-- A selection that is the stored name of a database of the catalog, if it is anything. -/
def Selection.IsStoredIn (s : Selection) (c : Catalog) : Prop :=
  ∀ name, s.name? = some name → name ∈ c.databaseNames

theorem Catalog.wellFormed_empty : ({} : Catalog).WellFormed where
  apart := .nil
  databases := by intro db hdb; cases hdb

/-! ## §2. A new name behind names. -/

/-- A name that is the same as none of those in front of it leaves them apart. -/
theorem pairwise_concat {names : List String} {name : String}
    (h : names.Pairwise fun a b => ¬ sameName a b = true)
    (hnew : ∀ a ∈ names, ¬ sameName a name = true) :
    (names ++ [name]).Pairwise fun a b => ¬ sameName a b = true := by
  rw [List.pairwise_append]
  refine ⟨h, by simp, ?_⟩
  intro a ha b hb
  rw [List.mem_singleton] at hb
  exact hb ▸ hnew a ha

namespace Database

theorem WellFormed.addTable {db : Database} (h : db.WellFormed) {name : String}
    {columns : List String} (hcolumns : Statement.IsColumnList columns)
    (free : db.table? name = none) : (db.addTable { name, columns }).WellFormed where
  apart := by
    show ((db.tables ++ [({ name, columns } : Table)]).map Table.name).Pairwise _
    rw [List.map_append]
    refine pairwise_concat h.apart ?_
    intro a ha
    obtain ⟨t, ht, rfl⟩ := List.mem_map.1 ha
    exact List.find?_eq_none.1 free t ht
  tables := by
    intro t ht
    rcases List.mem_append.1 ht with ht | ht
    · exact h.tables t ht
    · rw [List.mem_singleton] at ht
      subst ht
      exact ⟨hcolumns, by intro row hrow; cases hrow⟩

theorem WellFormed.removeTable {db : Database} (h : db.WellFormed) (name : String) :
    (db.removeTable name).WellFormed where
  apart := h.apart.sublist ((List.eraseP_sublist).map _)
  tables := fun t ht => h.tables t (List.mem_of_mem_eraseP ht)

/-- Rows of the same width in the place of the rows of a table leave a database well-formed. -/
theorem WellFormed.modifyTable {db : Database} (h : db.WellFormed) {name : String} {t t' : Table}
    (found : db.table? name = some t) (hname : t'.name = t.name)
    (hcolumns : t'.columns = t.columns) (hwidth : t.Rectangular → t'.Rectangular) :
    (db.modifyTable name fun _ => t').WellFormed where
  apart := by
    have hnames : (db.modifyTable name fun _ => t').tableNames = db.tableNames := by
      refine map_modifyFirst fun u hu => ?_
      rw [hname, Option.some.inj (found.symm.trans hu)]
    rw [hnames]
    exact h.apart
  tables := by
    intro u hu
    rcases mem_modifyTable hu with hu | rfl
    · exact h.tables u hu
    · have ht := h.tables t (mem_of_table? found).1
      exact ⟨hcolumns ▸ ht.columnList, hwidth ht.rectangular⟩

end Database

/-! ## §3. Changes of the catalog. -/

namespace Catalog

/-- A change of the selected database that keeps its name and its form keeps that of the catalog. -/
theorem WellFormed.modifySelected {c : Catalog} (h : c.WellFormed) {s : Selection}
    {f : Database → Database} (hname : ∀ db, (f db).name = db.name)
    (hf : ∀ db, s.current? c = some db → db.WellFormed → (f db).WellFormed) :
    (c.modifySelected s f).WellFormed where
  apart := by
    rw [databaseNames_modifySelected c s hname]
    exact h.apart
  databases := by
    intro db hdb
    rcases mem_modifySelected hdb with hdb | ⟨old, hold, rfl⟩
    · exact h.databases db hdb
    · exact hf old hold (h.databases old (Selection.current?_mem hold))

theorem WellFormed.addDatabase {c : Catalog} (h : c.WellFormed) {name : String}
    (free : c.hasDatabase name = false) : (c.addDatabase { name }).WellFormed where
  apart := by
    show ((c.databases ++ [({ name } : Database)]).map Database.name).Pairwise _
    rw [List.map_append]
    refine pairwise_concat h.apart ?_
    intro a ha hsame
    obtain ⟨db, hdb, rfl⟩ := List.mem_map.1 ha
    have hhas := hasDatabase_iff.2 ⟨db, hdb, hsame⟩
    rw [free] at hhas
    cases hhas
  databases := by
    intro db hdb
    rcases List.mem_append.1 hdb with hdb | hdb
    · exact h.databases db hdb
    · rw [List.mem_singleton] at hdb
      subst hdb
      exact ⟨.nil, by intro t ht; cases ht⟩

theorem WellFormed.removeDatabase {c : Catalog} (h : c.WellFormed) (name : String) :
    (c.removeDatabase name).WellFormed where
  apart := h.apart.sublist ((List.eraseP_sublist).map _)
  databases := fun db hdb => h.databases db (List.mem_of_mem_eraseP hdb)

/-- A change of the selected database that keeps its tables rectangular keeps all of them so. -/
theorem Rectangular.modifySelected {c : Catalog} (h : c.Rectangular) {s : Selection}
    {f : Database → Database}
    (hf : ∀ db, s.current? c = some db → db.Rectangular → (f db).Rectangular) :
    (c.modifySelected s f).Rectangular := by
  intro db hdb
  rcases mem_modifySelected hdb with hdb | ⟨old, hold, rfl⟩
  · exact h db hdb
  · exact hf old hold (h old (Selection.current?_mem hold))

end Catalog

/-! ## §4. What a statement yields. -/

namespace Statement

variable {statement : Statement} {c c' : Catalog} {s : Selection} {selection? : Option Selection}

/-- **A statement of good form keeps a catalog well-formed.**  The selection may be any. -/
theorem Yields.wellFormed (h : statement.Yields c s (some c') selection?)
    (hform : statement.Formed) (hc : c.WellFormed) : c'.WellFormed := by
  cases h with
  | createDatabase name free => exact hc.addDatabase free
  | dropDatabase name db found => exact hc.removeDatabase name
  | createTable name columns db selected free =>
      refine hc.modifySelected (fun _ => rfl) ?_
      intro db' hdb' hwf
      rw [Option.some.inj (hdb'.symm.trans selected)] at hwf ⊢
      exact hwf.addTable hform free
  | dropTable name db selected =>
      exact hc.modifySelected (fun _ => rfl) fun _ _ hwf => hwf.removeTable name
  | rows _ name db t t' target selected found hname hcolumns hwidth =>
      rw [Catalog.setTable_eq]
      refine hc.modifySelected (fun _ => rfl) ?_
      intro db' hdb' hwf
      rw [Option.some.inj (hdb'.symm.trans selected)] at hwf ⊢
      exact hwf.modifyTable found hname hcolumns hwidth

/-- **A statement keeps every table rectangular**, whatever else is true of the catalog. -/
theorem Yields.rectangular (h : statement.Yields c s (some c') selection?)
    (hc : c.Rectangular) : c'.Rectangular := by
  cases h with
  | createDatabase name free =>
      intro db hdb
      rcases List.mem_append.1 hdb with hdb | hdb
      · exact hc db hdb
      · rw [List.mem_singleton] at hdb
        subst hdb
        intro t ht
        cases ht
  | dropDatabase name db found => exact fun db hdb => hc db (List.mem_of_mem_eraseP hdb)
  | createTable name columns db selected free =>
      refine hc.modifySelected fun db' _ hdb' t ht => ?_
      rcases List.mem_append.1 ht with ht | ht
      · exact hdb' t ht
      · rw [List.mem_singleton] at ht
        subst ht
        intro row hrow
        cases hrow
  | dropTable name db selected =>
      exact hc.modifySelected fun _ _ hdb' t ht => hdb' t (List.mem_of_mem_eraseP ht)
  | rows _ name db t t' target selected found hname hcolumns hwidth =>
      rw [Catalog.setTable_eq]
      refine hc.modifySelected fun db' hdb' hwf u hu => ?_
      rw [Option.some.inj (hdb'.symm.trans selected)] at hwf hu
      rcases Database.mem_modifyTable hu with hu | rfl
      · exact hwf u hu
      · exact hwidth (hwf t (Database.mem_of_table? found).1)

/-- The stored names of the databases that are not dropped stay. -/
theorem Yields.mem_databaseNames (h : statement.Yields c s (some c') selection?) {name : String}
    (hname : name ∈ c.databaseNames)
    (hdrop : ∀ dropped, statement = .dropDatabase dropped → ¬ sameName name dropped = true) :
    name ∈ c'.databaseNames := by
  cases h with
  | createDatabase created free =>
      show name ∈ (c.databases ++ [({ name := created } : Database)]).map Database.name
      rw [List.map_append]
      exact List.mem_append_left _ hname
  | dropDatabase dropped db found =>
      obtain ⟨db', hdb', rfl⟩ := List.mem_map.1 hname
      exact List.mem_map_of_mem (Catalog.mem_removeDatabase hdb' (hdrop dropped rfl))
  | createTable | dropTable | rows =>
      refine (Catalog.databaseNames_modifySelected c s ?_).symm ▸ hname
      intro db
      rfl

/-- A name that is selected after a statement is the stored name of a database, or it was selected
before and the databases that it can stand for are all still there. -/
theorem Yields.selected {catalog? : Option Catalog} {name : String}
    (h : statement.Yields c s catalog? selection?) (hname : (selection?.getD s).name? = some name) :
    name ∈ (catalog?.getD c).databaseNames
      ∨ s.name? = some name ∧ ∀ stored ∈ c.databaseNames, sameName stored name = true →
        stored ∈ (catalog?.getD c).databaseNames := by
  cases catalog? with
  | none =>
      cases h with
      | nothing => exact .inr ⟨hname, fun _ hstored _ => hstored⟩
      | use used db found =>
          cases hname
          exact .inl (List.mem_map_of_mem (Catalog.mem_of_database? found).1)
  | some c' =>
      -- only DROP DATABASE takes a stored name away, and only one that is the same
      have hstays : ∀ stored ∈ c.databaseNames,
          (∀ dropped, statement = .dropDatabase dropped → ¬ sameName stored dropped = true) →
          stored ∈ c'.databaseNames := fun _ => h.mem_databaseNames
      cases h with
      | dropDatabase dropped db found =>
          by_cases hs : s.name?.any (sameName · db.name) = true
          · rw [if_pos hs] at hname
            cases hname
          · rw [if_neg hs] at hname
            refine .inr ⟨hname, fun stored hstored hsame => hstays stored hstored ?_⟩
            intro dropped' hd hdropped
            cases hd
            -- the selected name would be that of the dropped database, and the selection empty
            have hdb : sameName name db.name = true :=
              sameName_trans (sameName_symm hsame)
                (sameName_trans hdropped (sameName_symm (Catalog.mem_of_database? found).2))
            have hbefore : s.name? = some name := hname
            rw [hbefore] at hs
            exact hs hdb
      | createDatabase | createTable | dropTable =>
          refine .inr ⟨hname, fun stored hstored _ => hstays stored hstored ?_⟩
          intro dropped hd
          cases hd
      | rows _ table db t t' target =>
          refine .inr ⟨hname, fun stored hstored _ => hstays stored hstored ?_⟩
          intro dropped hd
          rw [hd] at target
          cases target

/-- The selection stays a stored name. -/
theorem Yields.isStoredIn {catalog? : Option Catalog} (h : statement.Yields c s catalog? selection?)
    (hs : s.IsStoredIn c) : (selection?.getD s).IsStoredIn (catalog?.getD c) := by
  intro name hname
  rcases h.selected hname with hstored | ⟨hbefore, hstays⟩
  · exact hstored
  · exact hstays name (hs name hbefore) (sameName_refl name)

/-- The selection stays one that names a database. -/
theorem Yields.isValidFor {catalog? : Option Catalog} (h : statement.Yields c s catalog? selection?)
    (hs : s.isValidFor c = true) : (selection?.getD s).isValidFor (catalog?.getD c) = true := by
  unfold Selection.isValidFor
  split
  · rfl
  · next name hname =>
    rw [Catalog.hasDatabase_eq, List.any_eq_true]
    rcases h.selected hname with hstored | ⟨hbefore, hstays⟩
    · exact ⟨name, hstored, sameName_refl name⟩
    · unfold Selection.isValidFor at hs
      rw [hbefore] at hs
      dsimp only at hs
      rw [Catalog.hasDatabase_eq, List.any_eq_true] at hs
      obtain ⟨stored, hstored, hsame⟩ := hs
      exact ⟨stored, hstays stored hstored hsame, hsame⟩

end Statement

end SmallSql
