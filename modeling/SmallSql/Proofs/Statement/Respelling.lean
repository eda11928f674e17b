/-
  SmallSql.Proofs.Statement.Respelling
  ────────────────────────────────
  How a name is spelled never changes what a statement does.  Names that are the same in lower case
  find the same database and the same table in every catalog, so beside the wording of the reply

      c , s    ──  statement   ──▶  outline
      ∥   ≈          ≈               ∥
      c , s'   ──  statement'  ──▶  outline

  The two statements that store the name they are written with, CREATE DATABASE and CREATE TABLE,
  are accepted or refused alike.
-/
import SmallSql.Proofs.Catalog.Edits
import SmallSql.Proofs.Statement.Run

namespace SmallSql

/-! ## §1. Look-ups by names that are the same. -/

/-- Two selections of the same name, or of none. -/
inductive Selection.Respells : Selection → Selection → Prop
  | nothing : Respells ⟨none⟩ ⟨none⟩
  | name {n n' : String} (h : sameName n n' = true) : Respells ⟨some n⟩ ⟨some n'⟩

variable {n n' : String}

/-- Names that are the same want the same elements. -/
theorem wanted_congr {α : Type} (h : sameName n n' = true) (stored : α → String) :
    (fun a => sameName (stored a) n) = fun a => sameName (stored a) n' :=
  funext fun a => sameName_congr h (stored a)

namespace Database

theorem table?_congr (h : sameName n n' = true) (db : Database) : db.table? n = db.table? n' := by
  unfold table?
  rw [wanted_congr h]

theorem modifyTable_congr (h : sameName n n' = true) (db : Database) (f : Table → Table) :
    db.modifyTable n f = db.modifyTable n' f := by
  unfold modifyTable
  rw [wanted_congr h]

theorem removeTable_congr (h : sameName n n' = true) (db : Database) :
    db.removeTable n = db.removeTable n' := by
  unfold removeTable
  rw [wanted_congr h]

end Database

namespace Catalog

theorem database?_congr (h : sameName n n' = true) (c : Catalog) :
    c.database? n = c.database? n' := by
  unfold database?
  rw [wanted_congr h]

theorem hasDatabase_congr (h : sameName n n' = true) (c : Catalog) :
    c.hasDatabase n = c.hasDatabase n' := by
  unfold hasDatabase
  rw [database?_congr h]

theorem modifyDatabase_congr (h : sameName n n' = true) (c : Catalog) (f : Database → Database) :
    c.modifyDatabase n f = c.modifyDatabase n' f := by
  unfold modifyDatabase
  rw [wanted_congr h]

theorem removeDatabase_congr (h : sameName n n' = true) (c : Catalog) :
    c.removeDatabase n = c.removeDatabase n' := by
  unfold removeDatabase
  rw [wanted_congr h]

end Catalog

namespace Selection.Respells

variable {s s' : Selection}

/-- The same database is selected. -/
theorem current?_eq (h : s.Respells s') (c : Catalog) : s.current? c = s'.current? c := by
  cases h with
  | nothing => rfl
  | name h => exact Catalog.database?_congr h c

theorem selectedDatabase_eq (h : s.Respells s') (c : Catalog) :
    selectedDatabase c s = selectedDatabase c s' := by
  unfold selectedDatabase
  rw [h.current?_eq]

theorem modifySelected_eq (h : s.Respells s') (c : Catalog) (f : Database → Database) :
    c.modifySelected s f = c.modifySelected s' f := by
  cases h with
  | nothing => rfl
  | name h => exact Catalog.modifyDatabase_congr h c f

/-- A table is put in the same place. -/
theorem setTable_eq (h : s.Respells s') (hn : sameName n n' = true) (c : Catalog) (t : Table) :
    c.setTable s n t = c.setTable s' n' t := by
  rw [Catalog.setTable_eq, Catalog.setTable_eq, h.modifySelected_eq]
  simp only [Database.modifyTable_congr hn]

/-- The selection has the name of a database or has not. -/
theorem any_sameName_eq (h : s.Respells s') (stored : String) :
    s.name?.any (sameName · stored) = s'.name?.any (sameName · stored) := by
  cases h with
  | nothing => rfl
  | @name n n' h =>
      show sameName n stored = sameName n' stored
      rw [Bool.eq_iff_iff]
      exact ⟨sameName_trans (sameName_symm h), sameName_trans h⟩

end Selection.Respells

/-! ## §2. Outcomes without their wording. -/

/-- What can be told of an outcome without reading a text in it: the sort of the error, or
everything but the message of the reply. -/
def Effect.outline (x : Except SqlError Effect) : Except ErrorKind Effect :=
  (x.mapError SqlError.kind).map fun e => { e with reply := { e.reply with message := "" } }

/-- Whether an outcome is a success, and if not, the sort of the error. -/
def Effect.verdict (x : Except SqlError Effect) : Except ErrorKind Unit :=
  (Effect.outline x).map fun _ => ()

namespace Statement

/-- The table or database that a statement is about, as it is written. -/
def subject? : Statement → Option String
  | select name _ | insert name _ _ | update name _ _ | delete name _ => some name
  | createDatabase name | use name | dropDatabase name => some name
  | createTable name _ | dropTable name => some name
  | showDatabases | showTables => none

/-- The statement about a table or database of another name. -/
def withSubject (name : String) : Statement → Statement
  | select _ projection => select name projection
  | insert _ columns tuples => insert name columns tuples
  | update _ assignments condition => update name assignments condition
  | delete _ condition => delete name condition
  | createDatabase _ => createDatabase name
  | use _ => use name
  | createTable _ columns => createTable name columns
  | showDatabases => showDatabases
  | showTables => showTables
  | dropDatabase _ => dropDatabase name
  | dropTable _ => dropTable name

/-- Whether a statement stores the name that it is written with. -/
def isCreation : Statement → Bool
  | createDatabase _ | createTable .. => true
  | _ => false

variable {statement : Statement} {s s' : Selection} {c : Catalog}

/-! ## §3. The checks against the target table. -/

/-- The target is the same table, or there is an error of the same sort. -/
theorem target_withSubject (statement : Statement) (c : Catalog) (hs : s.Respells s')
    (hn : sameName n n' = true) :
    ((statement.withSubject n').target n' c s').mapError SqlError.kind
      = (statement.target n c s).mapError SqlError.kind := by
  have hnamed : (statement.withSubject n').namedColumns = statement.namedColumns := by
    cases statement with
    | select table projection => cases projection <;> rfl
    | insert | update | delete | createDatabase | use | createTable | showDatabases | showTables
      | dropDatabase | dropTable => rfl
  have htuples : checkTuples (statement.withSubject n') = checkTuples statement := by
    cases statement <;> rfl
  unfold target
  rw [← hs.selectedDatabase_eq, hnamed, htuples]
  cases selectedDatabase c s with
  | error fault => rfl
  | ok db =>
      -- the look-up of the table is the only place where the spelling could be seen
      have htable := Database.table?_congr hn db
      unfold tableIn
      simp only [ok_bind, ← htable]
      cases db.table? n <;> rfl

/-- Statements have the same outline if they have it once they have found their target. -/
theorem outline_target (statement : Statement) {f f' : Table → Except SqlError Effect}
    (hs : s.Respells s') (hn : sameName n n' = true)
    (hf : ∀ t, Effect.outline (f' t) = Effect.outline (f t)) :
    Effect.outline ((statement.withSubject n').target n' c s' >>= f')
      = Effect.outline (statement.target n c s >>= f) := by
  have htarget := target_withSubject statement c hs hn
  revert htarget
  cases (statement.withSubject n').target n' c s' with
  | error fault' =>
      cases statement.target n c s with
      | error fault =>
          intro htarget
          exact congrArg Except.error (Except.error.inj htarget)
      | ok t =>
          intro htarget
          cases htarget
  | ok t' =>
      cases statement.target n c s with
      | error fault =>
          intro htarget
          cases htarget
      | ok t =>
          intro htarget
          obtain rfl : t' = t := Except.ok.inj htarget
          exact hf t'

/-! ## §4. One statement after the other. -/

theorem outline_run_update (hs : s.Respells s') (hn : sameName n n' = true)
    (assignments : List (String × Cell)) (condition : Condition) :
    Effect.outline ((update n' assignments condition).run c s')
      = Effect.outline ((update n assignments condition).run c s) := by
  rw [run_update, run_update]
  refine outline_target (update n assignments condition) hs hn fun t => ?_
  cases t.updateWhere? (assignedCells assignments t) (isUpdated condition t) with
  | none => rfl
  | some written =>
      show Effect.outline (.ok (updateEffect n' c s' written)) = _
      unfold updateEffect
      rw [← hs.setTable_eq hn]
      rfl

theorem outline_run_dropTable (hs : s.Respells s') (hn : sameName n n' = true) :
    Effect.outline ((dropTable n').run c s') = Effect.outline ((dropTable n).run c s) := by
  have hrun : ∀ name c s, (dropTable name).run c s = (do
      let _ ← (dropTable name).target name c s
      executeDropTable name c s) := fun name c s => run_eq_target rfl c s
  rw [hrun, hrun]
  refine outline_target (dropTable n) hs hn fun t => ?_
  show Effect.outline (executeDropTable n' c s') = Effect.outline (executeDropTable n c s)
  unfold executeDropTable tableIn
  rw [← hs.selectedDatabase_eq, ← hs.modifySelected_eq]
  simp only [← Database.removeTable_congr hn, ← Database.table?_congr hn]
  cases selectedDatabase c s with
  | error fault => rfl
  | ok db =>
      simp only [ok_bind]
      cases db.table? n <;> rfl

theorem outline_run_use (hn : sameName n n' = true) :
    Effect.outline ((use n').run c s') = Effect.outline ((use n).run c s) := by
  rw [run_use, run_use]
  unfold executeUse
  rw [← Catalog.database?_congr hn]
  cases c.database? n <;> rfl

/-- The selection is dropped with its database, however the two were spelled. -/
theorem outline_run_dropDatabase (hs : s.Respells s') (hn : sameName n n' = true) :
    Effect.outline ((dropDatabase n').run c s') = Effect.outline ((dropDatabase n).run c s) := by
  rw [run_dropDatabase, run_dropDatabase]
  unfold executeDropDatabase
  rw [← Catalog.database?_congr hn, ← Catalog.removeDatabase_congr hn]
  simp only [← hs.any_sameName_eq]
  cases c.database? n <;> rfl

theorem verdict_run_createDatabase (hn : sameName n n' = true) :
    Effect.verdict ((createDatabase n').run c s')
      = Effect.verdict ((createDatabase n).run c s) := by
  rw [run_createDatabase, run_createDatabase, ← Catalog.hasDatabase_congr hn]
  split <;> rfl

theorem verdict_run_createTable (hs : s.Respells s') (hn : sameName n n' = true)
    (columns : List String) :
    Effect.verdict ((createTable n' columns).run c s')
      = Effect.verdict ((createTable n columns).run c s) := by
  rw [run_createTable, run_createTable, ← hs.selectedDatabase_eq]
  cases selectedDatabase c s with
  | error fault => rfl
  | ok db =>
      simp only [ok_bind, ← Database.table?_congr hn]
      split <;> rfl

/-- The spelling of the name leaves the outline as it is, if the statement does not store it. -/
theorem outline_run_withSubject (hs : s.Respells s') {name' : String}
    (hname : ∀ name, statement.subject? = some name → sameName name name' = true)
    (hcreates : statement.isCreation = false) :
    Effect.outline ((statement.withSubject name').run c s')
      = Effect.outline (statement.run c s) := by
  cases statement with
  | select n projection =>
      show Effect.outline ((select name' projection).run c s') = _
      rw [run_select, run_select]
      exact outline_target (select n projection) hs (hname n rfl) fun t => rfl
  | insert n columns tuples =>
      show Effect.outline ((insert name' columns tuples).run c s') = _
      rw [run_insert, run_insert]
      refine outline_target (insert n columns tuples) hs (hname n rfl) fun t => ?_
      unfold insertEffect
      rw [← hs.setTable_eq (hname n rfl)]
      rfl
  | update n assignments condition =>
      exact outline_run_update hs (hname n rfl) assignments condition
  | delete n condition =>
      show Effect.outline ((delete name' condition).run c s') = _
      rw [run_delete, run_delete]
      refine outline_target (delete n condition) hs (hname n rfl) fun t => ?_
      unfold deleteEffect
      rw [← hs.setTable_eq (hname n rfl)]
      rfl
  | createDatabase n => cases hcreates
  | use n => exact outline_run_use (hname n rfl)
  | createTable n columns => cases hcreates
  | showDatabases => rfl
  | showTables =>
      show Effect.outline (showTables.run c s') = _
      rw [run_showTables, run_showTables]
      unfold executeShowTables
      rw [← hs.selectedDatabase_eq]
  | dropDatabase n => exact outline_run_dropDatabase hs (hname n rfl)
  | dropTable n => exact outline_run_dropTable hs (hname n rfl)

/-- The spelling of a name never changes what a statement does.  With the same name for its table
or database and the same name for the selection, each in another spelling, a statement fails with
an error of the same sort or has the same effect but for the wording of its message; and a
statement that stores the name it is written with is accepted or refused alike. -/
theorem run_respelled (hs : s.Respells s') {name' : String}
    (hname : ∀ name, statement.subject? = some name → sameName name name' = true) (c : Catalog) :
    (statement.isCreation = false →
        Effect.outline ((statement.withSubject name').run c s')
          = Effect.outline (statement.run c s))
      ∧ Effect.verdict ((statement.withSubject name').run c s')
          = Effect.verdict (statement.run c s) := by
  refine ⟨outline_run_withSubject hs hname, ?_⟩
  cases hcreates : statement.isCreation with
  | false =>
      unfold Effect.verdict
      rw [outline_run_withSubject hs hname hcreates]
  | true =>
      cases statement with
      | createDatabase n => exact verdict_run_createDatabase (hname n rfl)
      | createTable n columns => exact verdict_run_createTable hs (hname n rfl) columns
      | select | insert | update | delete | use | showDatabases | showTables | dropDatabase
        | dropTable => cases hcreates

/-- A database dropped under another spelling of its name, while a third spelling is selected, is
gone all the same, and so is the selection. -/
theorem run_respelled_street :
    Selection.Respells (.of "ΟΔΟΣ") (.of "Οδος") ∧ sameName "οδος" "ΟΔΟς" = true
      ∧ Effect.outline
          ((dropDatabase "ΟΔΟς").run { databases := [{ name := "Οδος" }] } (.of "Οδος"))
        = .ok {
          reply := { command := .dropDatabase, message := "" }
          catalog? := some {}
          selection? := some .empty } := by
  have hs : Selection.Respells (.of "ΟΔΟΣ") (.of "Οδος") := .name (by decide +kernel)
  have hn : sameName "οδος" "ΟΔΟς" = true := by decide +kernel
  have hname : ∀ name, (dropDatabase "οδος").subject? = some name
      → sameName name "ΟΔΟς" = true := by
    rintro _ ⟨⟩
    exact hn
  refine ⟨hs, hn, ?_⟩
  exact ((run_respelled hs hname { databases := [{ name := "Οδος" }] }).1 rfl).trans rfl

end Statement

end SmallSql
