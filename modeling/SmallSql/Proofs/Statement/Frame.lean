/-
  SmallSql.Proofs.Statement.Frame
  ────────────────────────────────
  What a statement leaves alone.  A list is cut at the first element that a name finds,

      earlier ++ found :: later

  and every statement is described by such cuts of the old catalog: what stands earlier and later
  stands in the new catalog too, equal and in its place.  Names may be repeated; of several elements
  that a name finds, only the first is ever touched.
-/
import Mathlib.Data.List.Basic
import SmallSql.Proofs.Catalog.Edits
import SmallSql.Proofs.Statement.Run

namespace SmallSql

/-! ## §1. Cutting a list at the first element that is wanted. -/

/-- `found` is the first element of the list that is wanted. -/
structure IsFirst {α : Type} (wanted : α → Bool) (l earlier : List α) (found : α)
    (later : List α) : Prop where
  cut : l = earlier ++ found :: later
  isWanted : wanted found = true
  noneEarlier : ∀ a ∈ earlier, ¬ wanted a = true

section IsFirst

variable {α : Type} {wanted : α → Bool} {f : α → α} {l earlier later : List α} {found : α}

/-- Where an element is found, the list can be cut. -/
theorem exists_isFirst (h : l.find? wanted = some found) :
    ∃ earlier later, IsFirst wanted l earlier found later := by
  obtain ⟨hfound, earlier, later, hcut, hnone⟩ := List.find?_eq_some_iff_append.1 h
  exact ⟨earlier, later, hcut, hfound, fun a ha => by simpa using hnone a ha⟩

/-- The first element that is wanted is changed in its place. -/
theorem IsFirst.modifyFirst_eq (h : IsFirst wanted l earlier found later) :
    modifyFirst wanted f l = earlier ++ f found :: later := by
  obtain ⟨rfl, hfound, hnone⟩ := h
  induction earlier with
  | nil => exact if_pos hfound
  | cons a rest ih =>
      have ha : ¬ wanted a = true := hnone a List.mem_cons_self
      rw [List.cons_append, modifyFirst, if_neg ha,
        ih fun b hb => hnone b (List.mem_cons_of_mem _ hb), List.cons_append]

/-- The first element that is wanted is taken out, and the others close up. -/
theorem IsFirst.eraseP_eq (h : IsFirst wanted l earlier found later) :
    l.eraseP wanted = earlier ++ later := by
  rw [h.cut, List.eraseP_append_right _ h.noneEarlier, List.eraseP_cons_of_pos h.isWanted]

end IsFirst

/-! ## §2. Cutting a catalog. -/

/-- `db` is the first database of this name. -/
def Catalog.CutAt (c : Catalog) (name : String) (earlier : List Database) (db : Database)
    (later : List Database) : Prop :=
  IsFirst (fun d : Database => sameName d.name name) c.databases earlier db later

/-- `t` is the first table of this name. -/
def Database.CutAt (db : Database) (name : String) (earlier : List Table) (t : Table)
    (later : List Table) : Prop :=
  IsFirst (fun u : Table => sameName u.name name) db.tables earlier t later

namespace Catalog

variable {c : Catalog} {s : Selection} {db : Database}

theorem exists_cutAt {name : String} (h : c.database? name = some db) :
    ∃ earlier later, c.CutAt name earlier db later := exists_isFirst h

/-- A catalog is cut at the selected database. -/
theorem exists_cutAt_selected (h : s.current? c = some db) :
    ∃ selected earlier later, s.name? = some selected ∧ c.CutAt selected earlier db later := by
  obtain ⟨selected, hselected, hdb⟩ := Option.bind_eq_some_iff.1 h
  obtain ⟨earlier, later, hcut⟩ := exists_cutAt hdb
  exact ⟨selected, earlier, later, hselected, hcut⟩

/-- The selected database is changed in its place. -/
theorem modifySelected_of_cutAt {selected : String} {earlier later : List Database}
    (hs : s.name? = some selected) (h : c.CutAt selected earlier db later)
    (f : Database → Database) :
    c.modifySelected s f = { databases := earlier ++ f db :: later } := by
  unfold modifySelected
  rw [hs]
  exact congrArg Catalog.mk h.modifyFirst_eq

end Catalog

theorem Database.exists_cutAt {db : Database} {name : String} {t : Table}
    (h : db.table? name = some t) : ∃ earlier later, db.CutAt name earlier t later :=
  exists_isFirst h

/-! ## §3. What each statement changes. -/

namespace Statement

/-- All that is replaced are the tables of the selected database, by tables that `become` allows. -/
def ChangesTables (c : Catalog) (s : Selection) (e : Effect)
    (become : Database → List Table → Prop) : Prop :=
  e.selection? = none ∧ ∃ selected earlier db later tables,
    s.name? = some selected ∧ c.CutAt selected earlier db later ∧ become db tables
      ∧ e.catalog? = some { databases := earlier ++ { db with tables } :: later }

/-- A statement replaces nothing but what it is about. -/
def ChangesOnlyTarget (c : Catalog) (s : Selection) (e : Effect) : Statement → Prop
  | select .. | showDatabases | showTables => e.catalog? = none ∧ e.selection? = none
  | insert name _ _ | update name _ _ | delete name _ =>
    ChangesTables c s e fun db tables => ∃ earlier t later rows,
      db.CutAt name earlier t later ∧ tables = earlier ++ { t with rows } :: later
  | createTable name columns =>
    ChangesTables c s e fun db tables => tables = db.tables ++ [{ name, columns, rows := [] }]
  | dropTable name =>
    ChangesTables c s e fun db tables => ∃ earlier t later,
      db.CutAt name earlier t later ∧ tables = earlier ++ later
  | createDatabase name =>
    e.selection? = none
      ∧ e.catalog? = some { databases := c.databases ++ [{ name, tables := [] }] }
  | use name =>
    e.catalog? = none ∧ ∃ earlier db later,
      c.CutAt name earlier db later ∧ e.selection? = some (.of db.name)
  | dropDatabase name => ∃ earlier db later,
    c.CutAt name earlier db later
      ∧ e.catalog? = some { databases := earlier ++ later }
      ∧ (e.selection? = none ∨ e.selection? = some .empty)
      ∧ (e.selection? = some .empty ↔ ∃ selected, s.name? = some selected
          ∧ sameName selected db.name = true)

variable {c : Catalog} {s : Selection} {e : Effect}

/-- A change of the selected database that keeps its name is one of its tables. -/
theorem changesTables_of_modifySelected {db : Database} {f : Database → Database}
    {become : Database → List Table → Prop} (hdb : s.current? c = some db)
    (hcatalog : e.catalog? = some (c.modifySelected s f)) (hselection : e.selection? = none)
    (hname : (f db).name = db.name) (hbecome : become db (f db).tables) :
    ChangesTables c s e become := by
  obtain ⟨selected, earlier, later, hselected, hcut⟩ := Catalog.exists_cutAt_selected hdb
  refine ⟨hselection, selected, earlier, db, later, (f db).tables, hselected, hcut, hbecome, ?_⟩
  rw [hcatalog, Catalog.modifySelected_of_cutAt hselected hcut, ← hname]

/-- Other rows in a table of the selected database are a change in its place. -/
theorem changesTables_of_setTable {db : Database} {name : String} {t t' : Table}
    (hdb : s.current? c = some db) (ht : db.table? name = some t)
    (hcatalog : e.catalog? = some (c.setTable s name t')) (hselection : e.selection? = none)
    (hname : t'.name = t.name) (hcolumns : t'.columns = t.columns) :
    ChangesTables c s e fun db tables => ∃ earlier t later rows,
      db.CutAt name earlier t later ∧ tables = earlier ++ { t with rows } :: later := by
  rw [Catalog.setTable_eq] at hcatalog
  refine changesTables_of_modifySelected hdb hcatalog hselection rfl ?_
  obtain ⟨earlier, later, hcut⟩ := Database.exists_cutAt ht
  refine ⟨earlier, t, later, t'.rows, hcut, ?_⟩
  rw [← hname, ← hcolumns]
  exact hcut.modifyFirst_eq

/-- **A statement that is carried out changes only its target.** -/
theorem changesOnlyTarget_of_run {statement : Statement} (h : statement.run c s = .ok e) :
    statement.ChangesOnlyTarget c s e := by
  cases statement with
  | select table projection =>
      rw [run_select] at h
      obtain ⟨t, -, he⟩ := bind_eq_ok.1 h
      cases he
      exact ⟨rfl, rfl⟩
  | insert table columns tuples =>
      rw [run_insert] at h
      obtain ⟨t, ht, he⟩ := bind_eq_ok.1 h
      obtain ⟨db, hdb, htable, -⟩ := target_eq_ok ht
      cases he
      exact changesTables_of_setTable hdb htable rfl rfl rfl rfl
  | update table assignments condition =>
      rw [run_update] at h
      obtain ⟨t, ht, he⟩ := bind_eq_ok.1 h
      obtain ⟨db, hdb, htable, -⟩ := target_eq_ok ht
      -- a row that is too short would have stopped the statement
      split at he
      · next written hw =>
        obtain ⟨hname, hcolumns, -⟩ := Table.updateWhere?_eq_some hw
        cases he
        exact changesTables_of_setTable hdb htable rfl rfl hname hcolumns
      · cases he
  | delete table condition =>
      rw [run_delete] at h
      obtain ⟨t, ht, he⟩ := bind_eq_ok.1 h
      obtain ⟨db, hdb, htable, -⟩ := target_eq_ok ht
      cases he
      exact changesTables_of_setTable hdb htable rfl rfl rfl rfl
  | createDatabase name =>
      rw [run_createDatabase] at h
      split at h
      · cases h
      · cases h
        exact ⟨rfl, rfl⟩
  | use name =>
      rw [run_use] at h
      unfold executeUse at h
      split at h
      · cases h
      · next db hdb =>
        obtain ⟨earlier, later, hcut⟩ := Catalog.exists_cutAt hdb
        cases h
        exact ⟨rfl, earlier, db, later, hcut, rfl⟩
  | createTable name columns =>
      rw [run_createTable] at h
      obtain ⟨db, hdb, he⟩ := bind_eq_ok.1 h
      split at he
      · cases he
      · cases he
        exact changesTables_of_modifySelected (selectedDatabase_eq_ok.1 hdb) rfl rfl rfl rfl
  | showDatabases =>
      rw [run_showDatabases] at h
      cases h
      exact ⟨rfl, rfl⟩
  | showTables =>
      rw [run_showTables] at h
      obtain ⟨db, -, he⟩ := bind_eq_ok.1 h
      cases he
      exact ⟨rfl, rfl⟩
  | dropDatabase name =>
      rw [run_dropDatabase] at h
      unfold executeDropDatabase at h
      split at h
      · cases h
      · next db hdb =>
        obtain ⟨earlier, later, hcut⟩ := Catalog.exists_cutAt hdb
        cases h
        -- the selection is compared with the name of the database that went, not with the text
        refine ⟨earlier, db, later, hcut, ?_, ?_⟩
        · exact congrArg (fun dbs => some (Catalog.mk dbs)) hcut.eraseP_eq
        · cases s.name? with
          | none => simp
          | some selected => simp
  | dropTable name =>
      rw [run_eq_target rfl] at h
      obtain ⟨t, ht, he⟩ := bind_eq_ok.1 h
      obtain ⟨db, hdb, htable, -⟩ := target_eq_ok ht
      -- carrying it out looks database and table up once more, which finds the same
      obtain ⟨db', hdb', he⟩ := bind_eq_ok.1 he
      obtain ⟨_, -, he⟩ := bind_eq_ok.1 he
      cases he
      refine changesTables_of_modifySelected hdb rfl rfl rfl ?_
      obtain ⟨earlier, later, hcut⟩ := Database.exists_cutAt htable
      exact ⟨earlier, t, later, hcut, hcut.eraseP_eq⟩

end Statement

/-- **A text that is carried out changes only the target of its statement**, whatever names the
catalog repeats. -/
theorem Effect.changesOnlyTarget {sql : String} {c : Catalog} {s : Selection} {e : Effect}
    (h : Effect.ofText sql c s = .ok e) :
    ∃ statement, Statement.written sql = .ok statement
      ∧ statement.ChangesOnlyTarget c s e := by
  rw [Statement.ofText_eq_run] at h
  obtain ⟨statement, hwritten, hrun⟩ := bind_eq_ok.1 h
  exact ⟨statement, hwritten, Statement.changesOnlyTarget_of_run hrun⟩

/-- Two databases and two tables of the same name; the first table of the first has these rows. -/
def Catalog.namesakes (rows : List Row) : Catalog where
  databases := [
    { name := "shop", tables := [
      { name := "notes", columns := ["id"], rows },
      { name := "Notes", columns := ["id"], rows := [[.text "3"]] }] },
    { name := "Shop", tables := [{ name := "notes", columns := ["id"], rows := [[.text "4"]] }] }]

/-- DELETE takes a row of the first table in the first database, and none of the namesakes. -/
theorem Effect.changesOnlyTarget_namesakes :
    ∃ e, Effect.ofText "DELETE FROM NOTES WHERE id > 1;"
        (.namesakes [[.text "1"], [.text "2"]]) (.of "SHOP") = .ok e
      ∧ e.catalog? = some (.namesakes [[.text "1"]])
      ∧ ∃ statement : Statement,
        Statement.written "DELETE FROM NOTES WHERE id > 1;" = .ok statement
          ∧ statement.ChangesOnlyTarget (.namesakes [[.text "1"], [.text "2"]]) (.of "SHOP") e := by
  have h : Effect.ofText "DELETE FROM NOTES WHERE id > 1;"
      (.namesakes [[.text "1"], [.text "2"]]) (.of "SHOP") = .ok {
        reply := {
          command := .delete
          message := "Deleted 1 rows from NOTES"
          affected := some 1 }
        catalog? := some (.namesakes [[.text "1"]]) } := by
    decide +kernel
  exact ⟨_, h, rfl, Effect.changesOnlyTarget h⟩

end SmallSql
