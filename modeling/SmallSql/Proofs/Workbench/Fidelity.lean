/-
  SmallSql.Proofs.Workbench.Fidelity
  ────────────────────────────────
  What is written into a table is read back from the file.  On a workbench over a new store in a
  file,

      CREATE DATABASE  USE  CREATE TABLE  INSERT … INSERT  │  reopen  │  SELECT *

  answers with the columns of the table and the rows of the INSERTs in their order, whatever the
  cells hold and however the statements are laid out.  Each statement leads from one state with at
  most one table to the next (`leads_…`); `Holds.run` carries such a step over from states to
  workbenches, and the statements are followed one by one.
-/
import Mathlib.Data.List.Forall2
import SmallSql.Proofs.Named.Rows
import SmallSql.Proofs.Statement.Writing
import SmallSql.Proofs.Workbench.Session

namespace SmallSql

/-! ## §1. Rows in INSERT statements. -/

/-- An INSERT, its table left out. -/
structure Insertion where
  columns : List String
  tuples : List (List Cell)

/-- The tuple gives the row: both are full, and the listed columns with their values are, in some
order, the columns of the table with the cells of the row. -/
structure Gives (columns listed : List String) (tuple : List Cell) (row : Row) : Prop where
  full : row.length = columns.length
  width : tuple.length = listed.length
  perm : (listed.zip tuple).Perm (columns.zip row)

/-- The tuples of the INSERTs give the rows in their order; every INSERT has a tuple. -/
inductive Supplies (columns : List String) : List Insertion → List Row → Prop
  | none : Supplies columns [] []
  | some {i : Insertion} {more : List Insertion} {rows rest : List Row} (hne : i.tuples ≠ [])
      (hrows : List.Forall₂ (Gives columns i.columns) i.tuples rows)
      (hmore : Supplies columns more rest) : Supplies columns (i :: more) (rows ++ rest)

namespace Gives

variable {columns listed : List String} {tuple : List Cell} {row : Row}

/-- The listed columns are the columns in another order. -/
theorem listed_perm (h : Gives columns listed tuple row) : listed.Perm columns := by
  have hmap := h.perm.map Prod.fst
  rwa [List.map_fst_zip (Nat.le_of_eq h.width.symm), List.map_fst_zip (Nat.le_of_eq h.full.symm)]
    at hmap

/-- INSERT makes the row that its tuple gives. -/
theorem rowOf {t : Table} (h : Gives t.columns listed tuple row) (hnodup : t.columns.Nodup) :
    t.rowOf ((listed.map t.place).zip tuple) = row := by
  have hfst : (t.columns.zip row).map Prod.fst = t.columns :=
    List.map_fst_zip (Nat.le_of_eq h.full.symm)
  have hsnd : (t.columns.zip row).map Prod.snd = row := List.map_snd_zip (Nat.le_of_eq h.full)
  have hkeys : ((listed.zip tuple).map Prod.fst).Nodup := by
    rw [(h.perm.map Prod.fst).nodup_iff, hfst]
    exact hnodup
  let cellOf (name : String) : Cell :=
    (Record.inserted t.columns (listed.zip tuple) name).getD .null
  -- under its own name every column has its own cell, as no name stands twice
  have hcell : ∀ p ∈ t.columns.zip row, cellOf p.1 = p.2 := by
    intro p hp
    have hmem : p.1 ∈ t.columns := (List.of_mem_zip hp).1
    have hlisted := lastListed_of_mem hkeys (h.perm.mem_iff.2 hp)
    show ((if p.1 ∈ t.columns then some ((lastListed (listed.zip tuple) p.1).getD .null)
      else none).getD .null) = p.2
    rw [if_pos hmem, hlisted]
    rfl
  rw [Table.rowOf_eq hnodup fun name hname => h.listed_perm.mem_iff.1 hname]
  calc t.columns.map cellOf
      = ((t.columns.zip row).map Prod.fst).map cellOf := by rw [hfst]
    _ = (t.columns.zip row).map fun p => cellOf p.1 := List.map_map
    _ = (t.columns.zip row).map Prod.snd := List.map_congr_left hcell
    _ = row := hsnd

section Tuples

variable {tuples : List (List Cell)} {rows : List Row}

/-- Tuples that give rows list all the columns, if there is a tuple at all. -/
theorem perm_of_tuples (hne : tuples ≠ []) (h : List.Forall₂ (Gives columns listed) tuples rows) :
    listed.Perm columns := by
  cases h with
  | nil => exact absurd rfl hne
  | cons hgives _ => exact hgives.listed_perm

theorem width_of_tuples (h : List.Forall₂ (Gives columns listed) tuples rows) :
    ∀ tuple ∈ tuples, tuple.length = listed.length :=
  ((List.forall₂_and_left _ _).1 (h.imp fun _ _ hgives => ⟨hgives.width, hgives⟩)).1

theorem full_of_tuples (h : List.Forall₂ (Gives columns listed) tuples rows) :
    ∀ row ∈ rows, row.length = columns.length := by
  have hflip : List.Forall₂ (fun row tuple => Gives columns listed tuple row) rows tuples := h.flip
  exact ((List.forall₂_and_left _ _).1 (hflip.imp fun _ _ hgives => ⟨hgives.full, hgives⟩)).1

end Tuples

end Gives

namespace Supplies

variable {columns : List String} {insertions : List Insertion} {rows : List Row}

/-- Every INSERT lists all the columns. -/
theorem perm (h : Supplies columns insertions rows) :
    ∀ i ∈ insertions, i.columns.Perm columns := by
  induction h with
  | none => exact nofun
  | some hne hrows _ ih => exact List.forall_mem_cons.2 ⟨Gives.perm_of_tuples hne hrows, ih⟩

/-- Every INSERT has a tuple, lists a column, and has no empty tuple. -/
theorem isWritable (table : String) (hcolumns : columns ≠ [])
    (h : Supplies columns insertions rows) :
    ∀ i ∈ insertions, (Statement.insert table i.columns i.tuples).IsWritable := by
  induction h with
  | none => exact nofun
  | @some i more part rest hne hrows _ ih =>
      have hlisted : i.columns ≠ [] := by
        intro hnil
        have hperm := Gives.perm_of_tuples hne hrows
        rw [hnil] at hperm
        exact hcolumns hperm.nil_eq.symm
      refine List.forall_mem_cons.2 ⟨⟨hlisted, hne, fun tuple htuple hnil => hlisted ?_⟩, ih⟩
      have hwidth := Gives.width_of_tuples hrows tuple htuple
      rw [hnil] at hwidth
      exact List.length_eq_zero_iff.1 hwidth.symm

/-- Every row that is given is full. -/
theorem full (h : Supplies columns insertions rows) :
    ∀ row ∈ rows, row.length = columns.length := by
  induction h with
  | none => exact nofun
  | some _ hrows _ ih => exact List.forall_mem_append.2 ⟨Gives.full_of_tuples hrows, ih⟩

end Supplies

/-! ## §2. A state with one table. -/

namespace State

/-- One database, selected, with one table in it. -/
def filled (db table : String) (columns : List String) (rows : List Row) : State where
  catalog := ⟨[⟨db, [⟨table, columns, rows⟩]⟩]⟩
  selection := .of db

variable {db table : String} {columns : List String} {rows : List Row}

theorem current?_filled :
    (filled db table columns rows).selection.current? (filled db table columns rows).catalog
      = some ⟨db, [⟨table, columns, rows⟩]⟩ := by
  simp [filled, Selection.current?, Selection.of, Catalog.database?]

theorem table?_filled :
    Database.table? ⟨db, [⟨table, columns, rows⟩]⟩ table = some ⟨table, columns, rows⟩ := by
  simp [Database.table?]

/-- Putting the rows of the table anew. -/
theorem setTable_filled (rows' : List Row) :
    (filled db table columns rows).catalog.setTable (filled db table columns rows).selection table
      ⟨table, columns, rows'⟩ = (filled db table columns rows').catalog := by
  simp [filled, Catalog.setTable, Selection.of, Catalog.modifyDatabase, Database.modifyTable,
    modifyFirst]

end State

namespace Statement

open State (filled)

variable {db table : String} {columns : List String} {rows : List Row}

/-- The statement is accepted in the first state and leads to the second. -/
def Leads (statement : Statement) (s s' : State) : Prop :=
  ∃ e, statement.run s.catalog s.selection = .ok e ∧ s.apply e = s'

theorem leads_createDatabase (db : String) :
    (createDatabase db).Leads .empty ⟨⟨[⟨db, []⟩]⟩, .empty⟩ := by
  refine ⟨executeCreateDatabase db {}, ?_, rfl⟩
  rw [run_createDatabase]
  rfl

theorem leads_use (db : String) :
    (use db).Leads ⟨⟨[⟨db, []⟩]⟩, .empty⟩ ⟨⟨[⟨db, []⟩]⟩, .of db⟩ := by
  have hdb : Catalog.database? ⟨[⟨db, []⟩]⟩ db = some ⟨db, []⟩ := by
    simp [Catalog.database?]
  refine ⟨{
    reply := { command := .use, message := "Using database '" ++ db ++ "'" }
    selection? := some (.of db) }, ?_, rfl⟩
  rw [run_use]
  unfold executeUse
  rw [hdb]

theorem leads_createTable (db table : String) (columns : List String) :
    (createTable table columns).Leads ⟨⟨[⟨db, []⟩]⟩, .of db⟩ (filled db table columns []) := by
  have hdb : selectedDatabase ⟨[⟨db, []⟩]⟩ (.of db) = .ok ⟨db, []⟩ := by
    simp [selectedDatabase, Selection.current?, Selection.of, Catalog.database?]
  refine ⟨createTableEffect table columns ⟨[⟨db, []⟩]⟩ (.of db) ⟨db, []⟩, ?_, ?_⟩
  · rw [run_createTable, hdb]
    rfl
  · simp [State.apply, createTableEffect, filled, Catalog.modifySelected, Selection.of,
      Catalog.modifyDatabase, modifyFirst, Database.addTable]

/-- INSERT appends the rows that its tuples give. -/
theorem leads_insert (hnodup : columns.Nodup) {i : Insertion} (hne : i.tuples ≠ [])
    {more : List Row} (hmore : List.Forall₂ (Gives columns i.columns) i.tuples more) :
    (insert table i.columns i.tuples).Leads (filled db table columns rows)
      (filled db table columns (rows ++ more)) := by
  -- an INSERT with a tuple lists every column, as the tuple gives a full row
  have hcolumns : ∀ name ∈ i.columns, name ∈ columns := fun name hname =>
    (Gives.perm_of_tuples hne hmore).mem_iff.1 hname
  have hwidth := Gives.width_of_tuples hmore
  have hwidths : checkTuples (insert table i.columns i.tuples) = .ok () :=
    checkTuples_insert_eq_ok.2 hwidth
  have hinserted : insertedRows i.columns i.tuples ⟨table, columns, rows⟩ = more := by
    have heq : List.Forall₂ (fun tuple row =>
        Table.rowOf ⟨table, columns, rows⟩
          ((i.columns.map (Table.place ⟨table, columns, rows⟩)).zip tuple) = row)
        i.tuples more :=
      hmore.imp fun tuple row h => Gives.rowOf (t := ⟨table, columns, rows⟩) h hnodup
    rw [← List.forall₂_map_left_iff, List.forall₂_eq_eq_eq] at heq
    exact heq
  let before := filled db table columns rows
  have htarget : (insert table i.columns i.tuples).target table before.catalog before.selection
      = .ok ⟨table, columns, rows⟩ :=
    target_eq_ok_of State.current?_filled State.table?_filled hcolumns hwidths
  refine ⟨insertEffect table more before.catalog before.selection ⟨table, columns, rows⟩, ?_, ?_⟩
  · rw [run_insert, htarget, ok_bind, hinserted]
  · show (⟨before.catalog.setTable before.selection table ⟨table, columns, rows ++ more⟩,
      before.selection⟩ : State) = _
    rw [State.setTable_filled]
    rfl

/-- SELECT * answers with all columns and rows. -/
theorem run_select_filled (hrows : ∀ row ∈ rows, row.length = columns.length) :
    ∃ e, (select table .all).run (filled db table columns rows).catalog
        (filled db table columns rows).selection = .ok e
      ∧ e.reply.columns = some columns ∧ e.reply.rows = some rows := by
  have hnamed : ∀ name ∈ (select table .all).namedColumns, name ∈ columns := by
    intro name hname
    cases hname
  have hcells : ∀ row ∈ rows,
      ((List.range columns.length).map fun i => row[i]?.getD .null) = row := by
    intro row hrow
    have hlength := hrows row hrow
    apply List.ext_getElem
    · rw [List.length_map, List.length_range, hlength]
    · intro i _ hi
      rw [List.getElem_map, List.getElem_range, List.getElem?_eq_getElem hi]
      rfl
  refine ⟨selectEffect table .all ⟨table, columns, rows⟩, ?_, rfl, ?_⟩
  · rw [run_select, target_eq_ok_of State.current?_filled State.table?_filled hnamed rfl, ok_bind]
  · show some (rows.map fun row =>
      (List.range columns.length).map fun i => row[i]?.getD .null) = some rows
    rw [List.map_congr_left hcells, List.map_id']

end Statement

/-! ## §3. Statements on a workbench. -/

namespace Workbench

open Statement (Leads Writes IsWritable written_of_writes writes_spaced spelling_mark
  spelling_keyword)

/-- Runs texts up to the first that fails. -/
def runAll {σ : Type} [KeyValueStore σ] (w : Workbench σ) :
    List String → Except SqlError (Workbench σ)
  | [] => .ok w
  | sql :: rest => do
    let _ ← (w.run sql).1
    (w.run sql).2.runAll rest

variable {σ : Type} [Exposed σ] {w : Workbench σ} {s s' : State} {statement : Statement}
  {sql : String}

/-- Every batch is applied, and so is every batch after it. -/
def AppliesAll (W : σ → Prop) : Prop :=
  ∀ store, W store → ∀ batch, (KeyValueStore.apply store batch).1 = .ok ()
    ∧ W (KeyValueStore.apply store batch).2

/-- A workbench that was opened and used, with a store that can be written, and this state. -/
structure Holds (W : σ → Prop) (w : Workbench σ) (s : State) : Prop where
  sound : w.Sound
  writable : W w.store
  state : w.state = s

/-- What is prepared from a text that writes a statement is the effect of the statement. -/
theorem prepare_of_writes (hw : statement.IsWritable) (hsql : statement.Writes sql) (s : State) :
    s.prepare sql = statement.run s.catalog s.selection := by
  show Effect.ofText sql s.catalog s.selection = _
  rw [Statement.ofText_eq_run, written_of_writes hw hsql, ok_bind]

/-- Saving succeeds. -/
theorem replace_of_appliesAll {α : Type} {W : σ → Prop} (hW : AppliesAll W) (h : W w.store)
    (next : State) (a : α) :
    (w.replace next a).1 = .ok a ∧ W (w.replace next a).2.store
      ∧ (w.replace next a).2.state = next := by
  obtain ⟨hok, hwritable⟩ := hW w.store h (Snapshot.batch next.catalog next.selection)
  unfold Workbench.replace Snapshot.save
  cases hsave : KeyValueStore.apply w.store (Snapshot.batch next.catalog next.selection) with
  | mk result store =>
      rw [hsave] at hok hwritable
      cases hok
      exact ⟨rfl, hwritable, rfl⟩

variable [Exposed.Lawful σ]

/-- Step lemma: a text that writes an accepted statement is carried out and saved. -/
theorem Holds.run {W : σ → Prop} (hW : AppliesAll W) (h : w.Holds W s)
    (hw : statement.IsWritable) (hsql : statement.Writes sql) {e : Effect}
    (he : statement.run s.catalog s.selection = .ok e) :
    (w.run sql).1 = .ok e.reply ∧ (w.run sql).2.Holds W (s.apply e) := by
  obtain ⟨log, hrun⟩ := w.run_eq sql
  have hprepare : w.state.prepare (String.ofList (Text.trim sql.toList)) = .ok e := by
    rw [prepare_of_writes hw hsql.trim, h.state, he]
  -- the text between the white space writes the same statement
  have hattempt : w.attempt (String.ofList (Text.trim sql.toList)) = w.commit e := by
    unfold Workbench.attempt
    rw [hprepare]
  have hsound := (h.sound.attempt (String.ofList (Text.trim sql.toList))).log log
  have hcommit : (w.commit e).1 = .ok e.reply ∧ W (w.commit e).2.store
      ∧ (w.commit e).2.state = s.apply e := by
    rw [commit_eq, ← h.state]
    by_cases hm : e.isMutation = true
    · rw [if_pos hm]
      exact replace_of_appliesAll hW h.writable (w.state.apply e) e.reply
    · rw [if_neg hm]
      exact ⟨rfl, h.writable, rfl⟩
  rw [hattempt] at hrun hsound
  rw [hrun]
  exact ⟨hcommit.1, hsound.sound, hcommit.2.1, hcommit.2.2⟩

/-- Statements that are accepted one after the other, from one state to another. -/
inductive LeadsAll : List Statement → State → State → Prop
  | nil (s : State) : LeadsAll [] s s
  | cons {statement : Statement} {rest : List Statement} {s s' s'' : State}
      (h : statement.Leads s s') (hrest : LeadsAll rest s' s'') :
      LeadsAll (statement :: rest) s s''

/-- Run lemma: texts that write accepted statements all succeed. -/
theorem Holds.runAll {W : σ → Prop} (hW : AppliesAll W) (h : w.Holds W s)
    {statements : List Statement} {texts : List String} (hleads : LeadsAll statements s s')
    (hw : ∀ st ∈ statements, st.IsWritable) (htexts : List.Forall₂ Writes statements texts) :
    ∃ last, w.runAll texts = .ok last ∧ last.Holds W s' := by
  -- by induction on the texts; each statement leads to the state that the next starts from
  induction htexts generalizing w s with
  | nil =>
      cases hleads
      exact ⟨w, rfl, h⟩
  | @cons st sql statements texts hsql _ ih =>
      cases hleads with
      | cons hst hrest =>
          obtain ⟨e, he, rfl⟩ := hst
          obtain ⟨hok, hholds⟩ := h.run hW (hw st List.mem_cons_self) hsql he
          obtain ⟨last, hlast, hs'⟩ :=
            ih hholds hrest fun st' hst' => hw st' (List.mem_cons_of_mem _ hst')
          exact ⟨last, bind_eq_ok.2 ⟨e.reply, hok, hlast⟩, hs'⟩

/-! ## §4. Filling a table and reading it again. -/

/-- The statements that make a table and fill it. -/
def filling (db table : String) (columns : List String) (insertions : List Insertion) :
    List Statement :=
  [.createDatabase db, .use db, .createTable table columns]
    ++ insertions.map fun i => .insert table i.columns i.tuples

section Filling

variable {db table : String} {columns : List String} {insertions : List Insertion}
  {rows : List Row}

/-- The INSERTs append all the rows, one part after the other. -/
theorem leadsAll_insertions (hdistinct : columns.Nodup) (h : Supplies columns insertions rows)
    (before : List Row) :
    LeadsAll (insertions.map fun i => .insert table i.columns i.tuples)
      (State.filled db table columns before) (State.filled db table columns (before ++ rows)) := by
  induction h generalizing before with
  | none =>
      rw [List.append_nil]
      exact .nil _
  | @some i more part rest hne hrows _ ih =>
      have hrest := ih (before ++ part)
      rw [List.append_assoc] at hrest
      exact .cons (Statement.leads_insert hdistinct hne hrows) hrest

/-- From nothing, the statements lead to the filled table. -/
theorem leadsAll_filling (hdistinct : columns.Nodup) (h : Supplies columns insertions rows) :
    LeadsAll (filling db table columns insertions) .empty (State.filled db table columns rows) :=
  .cons (Statement.leads_createDatabase db) (.cons (Statement.leads_use db)
    (.cons (Statement.leads_createTable db table columns) (leadsAll_insertions hdistinct h [])))

theorem isWritable_filling (hcolumns : columns ≠ []) (hdistinct : columns.Nodup)
    (h : Supplies columns insertions rows) :
    ∀ st ∈ filling db table columns insertions, st.IsWritable := by
  intro st hst
  unfold filling at hst
  rcases List.mem_append.1 hst with hst | hst
  · simp only [List.mem_cons, List.not_mem_nil, or_false] at hst
    rcases hst with rfl | rfl | rfl
    · trivial
    · trivial
    · exact ⟨hcolumns, hdistinct⟩
  · obtain ⟨i, hi, rfl⟩ := List.mem_map.1 hst
    exact h.isWritable table hcolumns i hi

/-- Where the names are quotable, the filling can be written. -/
theorem exists_writes_filling (hdb : Statement.IsQuotable db) (htable : Statement.IsQuotable table)
    (hcolumns : ∀ name ∈ columns, Statement.IsQuotable name)
    (h : Supplies columns insertions rows) :
    ∃ texts, List.Forall₂ Writes (filling db table columns insertions) texts := by
  apply Statement.exists_forall₂
  intro st hst
  apply Statement.exists_writes
  unfold filling at hst
  rcases List.mem_append.1 hst with hst | hst
  · simp only [List.mem_cons, List.not_mem_nil, or_false] at hst
    rcases hst with rfl | rfl | rfl
    · exact List.forall_mem_singleton.2 hdb
    · exact List.forall_mem_singleton.2 hdb
    · exact List.forall_mem_cons.2 ⟨htable, hcolumns⟩
  · obtain ⟨i, hi, rfl⟩ := List.mem_map.1 hst
    exact List.forall_mem_cons.2 ⟨htable, fun name hname =>
      hcolumns name ((h.perm i hi).mem_iff.1 hname)⟩

/-- A new store that can be written is opened with nothing in it. -/
theorem exists_holds_of_new {folder : Path} {shown : String} {files : Files} {store : FileStore}
    (hopen : FileStore.openAt folder shown files = .ok store) (hnew : store.entries = .empty)
    (hwritable : store.IsWritable) :
    ∃ w, openStore store = .ok w ∧ w.Holds FileStore.IsWritable .empty := by
  have hload : Snapshot.load store = .ok ({}, .empty) := by
    have hget (key : String) : KeyValueStore.get? store key = none := by
      show store.entries.get? key = none
      rw [hnew]
      rfl
    unfold Snapshot.load
    rw [hget, hget]
    rfl
  have hcurrent := FileStore.reopen_iff.2 (FileStore.isCurrent_of_openAt hopen)
  exact ⟨_, openStore_of_load hload, ⟨hcurrent, hload⟩, hwritable, rfl⟩

/-- **Rows survive as they were given.**  If the names can be quoted, the filling and SELECT * can be
written, whatever the cells hold.  However they are written, on a workbench over a new store in a
file that can be written every text of the filling succeeds; and SELECT * on the store, opened again
from its file, answers with the columns and the rows. -/
theorem rows_after_reopening {folder : Path} {shown : String} {files : Files} {store : FileStore}
    (hopen : FileStore.openAt folder shown files = .ok store) (hnew : store.entries = .empty)
    (hwritable : store.IsWritable) (hcolumns : columns ≠ []) (hdistinct : columns.Nodup)
    (hrows : Supplies columns insertions rows) (db table : String) :
    (Statement.IsQuotable db → Statement.IsQuotable table →
      (∀ name ∈ columns, Statement.IsQuotable name) →
      ∃ texts query, List.Forall₂ Writes (filling db table columns insertions) texts
        ∧ (Statement.select table .all).Writes query)
    ∧ ∀ texts query, List.Forall₂ Writes (filling db table columns insertions) texts →
      (Statement.select table .all).Writes query →
      ∃ w last again, openStore store = .ok w ∧ w.runAll texts = .ok last
        ∧ (last.store.reopen >>= openStore) = .ok again
        ∧ ∃ reply, (again.run query).1 = .ok reply
          ∧ reply.columns = some columns ∧ reply.rows = some rows := by
  constructor
  · intro hdb htable hnames
    obtain ⟨texts, htexts⟩ := exists_writes_filling hdb htable hnames hrows
    have hselect : ∃ query, (Statement.select table .all).Writes query :=
      Statement.exists_writes (List.forall_mem_singleton.2 htable)
    obtain ⟨query, hquery⟩ := hselect
    exact ⟨texts, query, htexts, hquery⟩
  intro texts query htexts hquery
  have hW : AppliesAll FileStore.IsWritable := fun _ h batch => h.apply batch
  obtain ⟨w, hw, hstart⟩ := exists_holds_of_new hopen hnew hwritable
  obtain ⟨last, hlast, hend⟩ := hstart.runAll hW (leadsAll_filling hdistinct hrows)
    (isWritable_filling hcolumns hdistinct hrows) htexts
  -- reopening gives the same store, so the query runs on the state that the filling led to
  have hagain : Holds FileStore.IsWritable { last with log := [] }
      (State.filled db table columns rows) :=
    ⟨⟨hend.sound.current, hend.sound.loads⟩, hend.writable, hend.state⟩
  obtain ⟨e, he, hnames, hanswer⟩ := @Statement.run_select_filled db table columns rows hrows.full
  have hselect : IsWritable (.select table .all) := trivial
  obtain ⟨hreply, -⟩ := hagain.run hW hselect hquery he
  exact ⟨w, last, _, hw, hlast, hend.sound.reopened, e.reply, hreply, hnames, hanswer⟩

/-- A table of notes and one row, given in another order than that of the columns: a quote, a
backslash and what would begin a comment in one cell, and NULL in the other. -/
theorem writes_notes :
    List.Forall₂ Writes
      (filling "shop" "notes" ["id", "body"] [⟨["body", "id"], [[.text "it's \\ -- done", .null]]⟩])
      ["CREATE DATABASE `shop`;", "USE `shop`;", "CREATE TABLE `notes` ( `id` , [body] );",
        "INSERT INTO `notes` ( [body] , `id` ) VALUES ( 'it''s \\\\ -- done' , NULL );"] := by
  have hshop : Spelling (.identifier "shop") "`shop`".toList := .name (.inl rfl) (by decide +kernel)
  have hnotes : Spelling (.identifier "notes") "`notes`".toList :=
    .name (.inl rfl) (by decide +kernel)
  have hid : Spelling (.identifier "id") "`id`".toList := .name (.inl rfl) (by decide +kernel)
  have hbody : Spelling (.identifier "body") "[body]".toList := .name (.inr rfl) (by decide +kernel)
  have hcell : Spelling (.string "it's \\ -- done") "'it''s \\\\ -- done'".toList :=
    .string _ (.inl rfl)
  have hopening : Spelling .leftParen ['('] := spelling_mark (by decide) rfl
  have hclosing : Spelling .rightParen [')'] := spelling_mark (by decide) rfl
  have hcomma : Spelling .comma [','] := spelling_mark (by decide) rfl
  refine .cons ?_ (.cons ?_ (.cons ?_ (.cons ?_ .nil)))
  · exact writes_spaced ["`shop`".toList] (by decide +kernel) (.cons hshop .nil)
  · exact writes_spaced ["`shop`".toList] (by decide +kernel) (.cons hshop .nil)
  · apply writes_spaced ["`notes`".toList, ['('], "`id`".toList, [','], "[body]".toList, [')']]
      (by decide +kernel)
    exact .cons hnotes (.cons hopening (.cons hid (.cons hcomma (.cons hbody
      (.cons hclosing .nil)))))
  · apply writes_spaced ["`notes`".toList, ['('], "[body]".toList, [','], "`id`".toList, [')'],
      "VALUES".toList, ['('], "'it''s \\\\ -- done'".toList, [','], "NULL".toList, [')']]
      (by decide +kernel)
    exact .cons hnotes (.cons hopening (.cons hbody (.cons hcomma (.cons hid (.cons hclosing
      (.cons (spelling_keyword .values) (.cons hopening (.cons hcell (.cons hcomma
        (.cons (spelling_keyword .null) (.cons hclosing .nil)))))))))))

/-- The notes are read back from a file in an empty folder. -/
theorem rows_after_reopening_notes :
    ∃ w last again,
      openStore (⟨[], "store.json", .empty, {}⟩ : FileStore) = .ok w
      ∧ w.runAll ["CREATE DATABASE `shop`;", "USE `shop`;",
          "CREATE TABLE `notes` ( `id` , [body] );",
          "INSERT INTO `notes` ( [body] , `id` ) VALUES ( 'it''s \\\\ -- done' , NULL );"]
        = .ok last
      ∧ (last.store.reopen >>= openStore) = .ok again
      ∧ ∃ reply, (again.run "SELECT * FROM `notes`;").1 = .ok reply
        ∧ reply.columns = some ["id", "body"]
        ∧ reply.rows = some [[.null, .text "it's \\ -- done"]] := by
  have hopen : FileStore.openAt [] "store.json" {} = .ok ⟨[], "store.json", .empty, {}⟩ := rfl
  have hwritable : FileStore.IsWritable ⟨[], "store.json", .empty, {}⟩ := by
    have hisOpen : FileStore.IsOpen ⟨[], "store.json", .empty, {}⟩ {} :=
      ⟨by decide +kernel, rfl, by decide +kernel, rfl, by decide +kernel⟩
    intro text
    rw [hisOpen.performAll_eq]
  have hgives : Gives ["id", "body"] ["body", "id"] [.text "it's \\ -- done", .null]
      [.null, .text "it's \\ -- done"] := ⟨rfl, rfl, .swap _ _ _⟩
  have hsupplies : Supplies ["id", "body"] [⟨["body", "id"], [[.text "it's \\ -- done", .null]]⟩]
      ([[.null, .text "it's \\ -- done"]] ++ []) :=
    .some (List.cons_ne_nil _ _) (.cons hgives .nil) .none
  have hquery : (Statement.select "notes" .all).Writes "SELECT * FROM `notes`;" := by
    apply writes_spaced [['*'], "FROM".toList, "`notes`".toList] (by decide +kernel)
    exact .cons (spelling_mark (by decide) rfl) (.cons (spelling_keyword .from)
      (.cons (.name (.inl rfl) (by decide +kernel)) .nil))
  obtain ⟨-, hreopened⟩ := rows_after_reopening hopen rfl hwritable (List.cons_ne_nil _ _)
    (by decide) hsupplies "shop" "notes"
  exact hreopened _ _ writes_notes hquery

end Filling

end Workbench

end SmallSql
