/-
  SmallSql.Proofs.Snapshot.Checking
  ────────────────────────────────
  A table is taken into a catalog only if its rows are in width.  `checked c` is what becomes of the
  catalog `c` when all its tables are looked at in their order:

      all rows in width     `c` itself
      some row is not       the fault of the first such row of the first such table
-/
import SmallSql.Proofs.Parsing
import SmallSql.Snapshot

namespace SmallSql.Snapshot

open Json (Fault)

/-! ## §1. Tables. -/

/-- No row is out of width exactly if all have the width. -/
theorem ragged?_eq_none {width number : Nat} {rows : List Row} :
    ragged? width number rows = none ↔ ∀ row ∈ rows, row.length = width := by
  induction rows generalizing number with
  | nil => simp [ragged?]
  | cons row rest ih =>
      unfold ragged?
      by_cases h : row.length = width
      · rw [if_pos h, ih]
        simp [h]
      · rw [if_neg h]
        simp [h]

/-- A table is made of fields exactly if it is rectangular. -/
theorem tableOf_eq_ok {name : String} {columns : List String} {rows : List Row} {t : Table} :
    tableOf name columns rows = .ok t ↔ t = { name, columns, rows } ∧ t.Rectangular := by
  have hiff : ragged? columns.length 1 rows = none
      ↔ ({ name, columns, rows } : Table).Rectangular := ragged?_eq_none
  unfold tableOf
  cases hr : ragged? columns.length 1 rows with
  | none =>
      have hrect := hiff.1 hr
      constructor
      · intro h
        cases h
        exact ⟨rfl, hrect⟩
      · rintro ⟨rfl, -⟩
        rfl
  | some p =>
      constructor
      · intro h
        cases h
      · rintro ⟨rfl, hrect⟩
        rw [hiff.2 hrect] at hr
        cases hr

/-- A table as it is read back: a table whose rows are not all in width is refused. -/
def checkedTable (t : Table) : Except Fault Table := tableOf t.name t.columns t.rows

theorem checkedTable_eq_ok {t t' : Table} : checkedTable t = .ok t' ↔ t' = t ∧ t.Rectangular := by
  refine tableOf_eq_ok.trans (and_congr_right fun h => ?_)
  rw [show t' = t from h]

/-! ## §2. Databases and catalogs. -/

/-- A database as it is read back. -/
def checkedDatabase (db : Database) : Except Fault Database := do
  return { db with tables := ← db.tables.mapM checkedTable }

/-- A catalog as it is read back. -/
def checked (c : Catalog) : Except Fault Catalog := do
  return { c with databases := ← c.databases.mapM checkedDatabase }

/-- A list is given back exactly if each of its items is. -/
theorem mapM_eq_ok {α : Type} {check : α → Except Fault α} {P : α → Prop}
    (h : ∀ a a', check a = .ok a' ↔ a' = a ∧ P a) {as as' : List α} :
    as.mapM check = .ok as' ↔ as' = as ∧ ∀ a ∈ as, P a := by
  induction as generalizing as' with
  | nil =>
      show Except.ok [] = .ok as' ↔ _
      simp [eq_comm]
  | cons a rest ih =>
      rw [List.mapM_cons, bind_eq_ok, List.forall_mem_cons]
      constructor
      · rintro ⟨a', ha, hrest⟩
        obtain ⟨rest', hrest, he⟩ := bind_eq_ok.1 hrest
        obtain ⟨rfl, ha⟩ := (h a a').1 ha
        obtain ⟨rfl, hrest⟩ := ih.1 hrest
        exact ⟨(Except.ok.inj he).symm, ha, hrest⟩
      · rintro ⟨rfl, ha, hrest⟩
        exact ⟨a, (h a a).2 ⟨rfl, ha⟩, bind_eq_ok.2 ⟨rest, ih.2 ⟨rfl, hrest⟩, rfl⟩⟩

theorem checkedDatabase_eq_ok {db db' : Database} :
    checkedDatabase db = .ok db' ↔ db' = db ∧ db.Rectangular := by
  unfold checkedDatabase
  rw [bind_eq_ok]
  constructor
  · rintro ⟨tables, htables, he⟩
    obtain ⟨rfl, hr⟩ := (mapM_eq_ok fun _ _ => checkedTable_eq_ok).1 htables
    exact ⟨(Except.ok.inj he).symm, hr⟩
  · rintro ⟨rfl, hr⟩
    exact ⟨db'.tables, (mapM_eq_ok fun _ _ => checkedTable_eq_ok).2 ⟨rfl, hr⟩, rfl⟩

/-- A catalog is given back exactly if it is rectangular. -/
theorem checked_eq_ok {c c' : Catalog} : checked c = .ok c' ↔ c' = c ∧ c.Rectangular := by
  unfold checked
  rw [bind_eq_ok]
  constructor
  · rintro ⟨databases, hdatabases, he⟩
    obtain ⟨rfl, hr⟩ := (mapM_eq_ok fun _ _ => checkedDatabase_eq_ok).1 hdatabases
    exact ⟨(Except.ok.inj he).symm, hr⟩
  · rintro ⟨rfl, hr⟩
    exact ⟨c'.databases, (mapM_eq_ok fun _ _ => checkedDatabase_eq_ok).2 ⟨rfl, hr⟩, rfl⟩

/-! ## §3. The first row out of width. -/

/-- The fault tells of the first row of the table that is out of width. -/
def TellsRow (t : Table) (fault : Fault) : Prop :=
  ∃ before row after, t.rows = before ++ row :: after
    ∧ (∀ r ∈ before, r.length = t.columns.length) ∧ row.length ≠ t.columns.length
    ∧ fault = .ragged (before.length + 1) t.name row.length t.columns.length

/-- The fault tells of the first row out of width of the first table that has one. -/
def TellsTable (ts : List Table) (fault : Fault) : Prop :=
  ∃ before t after, ts = before ++ t :: after ∧ (∀ t' ∈ before, t'.Rectangular) ∧ TellsRow t fault

/-- The row that is found is the first out of width. -/
theorem ragged?_eq_some {width number : Nat} {rows : List Row} {p : Nat × Nat}
    (h : ragged? width number rows = some p) : ∃ before row after, rows = before ++ row :: after
      ∧ (∀ r ∈ before, r.length = width) ∧ row.length ≠ width
      ∧ p = (before.length + number, row.length) := by
  induction rows generalizing number with
  | nil => cases h
  | cons row rows ih =>
      unfold ragged? at h
      split at h
      · next hwidth =>
        obtain ⟨before, bad, after, rfl, hbefore, hbad, rfl⟩ := ih h
        refine ⟨row :: before, bad, after, rfl, List.forall_mem_cons.2 ⟨hwidth, hbefore⟩, hbad, ?_⟩
        rw [List.length_cons, Nat.add_right_comm, Nat.add_assoc]
      · next hwidth =>
        cases h
        exact ⟨[], row, rows, rfl, List.forall_mem_nil _, hwidth,
          by rw [List.length_nil, Nat.zero_add]⟩

/-- A table is refused for its first row out of width. -/
theorem tellsRow_of_checkedTable {t : Table} {fault : Fault} (h : checkedTable t = .error fault) :
    TellsRow t fault := by
  unfold checkedTable tableOf at h
  split at h
  · next hragged =>
    cases h
    obtain ⟨before, row, after, hrows, hbefore, hrow, he⟩ := ragged?_eq_some hragged
    cases he
    exact ⟨before, row, after, hrows, hbefore, hrow, rfl⟩
  · cases h

/-- A list is refused for its first item that is. -/
theorem mapM_eq_error {α : Type} {check : α → Except Fault α} {P : α → Prop}
    (hcheck : ∀ a a', check a = .ok a' ↔ a' = a ∧ P a) {as : List α} {fault : Fault}
    (h : as.mapM check = .error fault) :
    ∃ before a after, as = before ++ a :: after ∧ (∀ b ∈ before, P b) ∧ check a = .error fault := by
  induction as with
  | nil => cases h
  | cons a as ih =>
      rw [List.mapM_cons] at h
      cases ha : check a with
      | error fault' =>
          rw [ha] at h
          cases h
          exact ⟨[], a, as, rfl, List.forall_mem_nil _, ha⟩
      | ok a' =>
          rw [ha] at h
          cases hrest : as.mapM check with
          | error fault' =>
              rw [hrest] at h
              cases h
              obtain ⟨before, bad, after, rfl, hbefore, hbad⟩ := ih hrest
              exact ⟨a :: before, bad, after, rfl,
                List.forall_mem_cons.2 ⟨((hcheck a a').1 ha).2, hbefore⟩, hbad⟩
          | ok as' =>
              rw [hrest] at h
              cases h

theorem tellsTable_of_checkedDatabase {db : Database} {fault : Fault}
    (h : checkedDatabase db = .error fault) : TellsTable db.tables fault := by
  have htables : db.tables.mapM checkedTable = .error fault := by
    unfold checkedDatabase at h
    cases hts : db.tables.mapM checkedTable with
    | error fault' =>
        rw [hts] at h
        cases h
        rfl
    | ok ts =>
        rw [hts] at h
        cases h
  obtain ⟨before, t, after, hts, hbefore, ht⟩ :=
    mapM_eq_error (fun _ _ => checkedTable_eq_ok) htables
  exact ⟨before, t, after, hts, hbefore, tellsRow_of_checkedTable ht⟩

/-- A catalog is refused for the first row out of width of its first such table. -/
theorem tellsTable_of_checked {c : Catalog} {fault : Fault} (h : checked c = .error fault) :
    TellsTable (c.databases.flatMap (·.tables)) fault := by
  have hdatabases : c.databases.mapM checkedDatabase = .error fault := by
    unfold checked at h
    cases hdbs : c.databases.mapM checkedDatabase with
    | error fault' =>
        rw [hdbs] at h
        cases h
        rfl
    | ok dbs =>
        rw [hdbs] at h
        cases h
  obtain ⟨dbs, db, dbs', hdbs, hrect, hdb⟩ :=
    mapM_eq_error (fun _ _ => checkedDatabase_eq_ok) hdatabases
  obtain ⟨before, t, after, hts, hbefore, ht⟩ := tellsTable_of_checkedDatabase hdb
  refine ⟨dbs.flatMap (·.tables) ++ before, t, after ++ dbs'.flatMap (·.tables), ?_, ?_, ht⟩
  · rw [hdbs, List.flatMap_append, List.flatMap_cons, hts]
    simp
  · intro t' ht'
    rcases List.mem_append.1 ht' with ht' | ht'
    · obtain ⟨db', hdb', ht'⟩ := List.mem_flatMap.1 ht'
      exact hrect db' hdb' t' ht'
    · exact hbefore t' ht'

end SmallSql.Snapshot
