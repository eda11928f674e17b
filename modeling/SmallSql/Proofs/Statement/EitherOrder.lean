/-
  SmallSql.Proofs.Statement.EitherOrder
  ────────────────────────────────
  INSERT, UPDATE and DELETE on different tables, in either order.  Such a statement looks its table
  up, edits it and puts it back,

      state  ──▶  table  ──  edit  ──▶  reply , table  ──▶  state

  and the edit depends on the table alone.  A table that is put back under another name is neither
  seen by the look-up nor by the edit (`edited_perform`), and two tables can be put back in either
  order (`putTable_comm`); from these it follows for two statements, accepted or refused.
-/
import SmallSql.Proofs.Catalog.Lookup

namespace SmallSql

namespace Statement

/-! ## §1. Edits of one table. -/

/-- The table whose rows a statement edits. -/
def editedTable? : Statement → Option String
  | insert table _ _ | update table _ _ | delete table _ => some table
  | _ => none

/-- All that the statement does is `edit` the table of this name and put it back. -/
structure IsEdit (statement : Statement) (name : String)
    (edit : Table → Except SqlError (Reply × Table)) : Prop where
  keepsName : ∀ {t t' : Table} {reply : Reply}, edit t = .ok (reply, t') → t'.name = t.name
  run_eq : ∀ (c : Catalog) (s : Selection), statement.run c s = (do
    let t ← statement.target name c s
    let (reply, t') ← edit t
    return { reply, catalog? := some (c.setTable s name t') })

/-- The edit of an INSERT. -/
def insertEdit (table : String) (columns : List String) (tuples : List (List Cell)) (t : Table) :
    Except SqlError (Reply × Table) :=
  let rows := insertedRows columns tuples t
  .ok ((insertEffect table rows {} {} t).reply, t.append rows)

/-- The edit of an UPDATE. -/
def updateEdit (table : String) (assignments : List (String × Cell)) (condition : Condition)
    (t : Table) : Except SqlError (Reply × Table) :=
  (t.updateWhere? (assignedCells assignments t) (isUpdated condition t)).elim (.error .outsideRow)
    fun written => .ok ((updateEffect table {} {} written).reply, written.1)

/-- The edit of a DELETE. -/
def deleteEdit (table : String) (condition : Condition) (t : Table) :
    Except SqlError (Reply × Table) :=
  let left := t.retain (isKept condition t)
  .ok ((deleteEffect table {} {} left).reply, left.1)

theorem isEdit_insert (table : String) (columns : List String) (tuples : List (List Cell)) :
    (insert table columns tuples).IsEdit table (insertEdit table columns tuples) where
  keepsName he := by
    cases he
    rfl
  run_eq c s := by
    rw [run_insert]
    rfl

theorem isEdit_update (table : String) (assignments : List (String × Cell))
    (condition : Condition) :
    (update table assignments condition).IsEdit table
      (updateEdit table assignments condition) where
  keepsName {t t' reply} he := by
    unfold updateEdit at he
    cases hw : t.updateWhere? (assignedCells assignments t) (isUpdated condition t) with
    | none =>
        rw [hw] at he
        cases he
    | some written =>
        rw [hw] at he
        cases he
        exact (Table.updateWhere?_eq_some hw).1
  run_eq c s := by
    rw [run_update]
    refine target_bind_congr fun db t _ _ => ?_
    unfold updateEdit
    cases t.updateWhere? (assignedCells assignments t) (isUpdated condition t) <;> rfl

theorem isEdit_delete (table : String) (condition : Condition) :
    (delete table condition).IsEdit table (deleteEdit table condition) where
  keepsName he := by
    cases he
    rfl
  run_eq c s := by
    rw [run_delete]
    rfl

/-- INSERT, UPDATE and DELETE are edits; no reply looks at the catalog or the selection. -/
theorem exists_isEdit {statement : Statement} {name : String}
    (h : statement.editedTable? = some name) : ∃ edit, statement.IsEdit name edit := by
  cases statement with
  | insert table columns tuples =>
      obtain rfl : table = name := Option.some.inj h
      exact ⟨_, isEdit_insert table columns tuples⟩
  | update table assignments condition =>
      obtain rfl : table = name := Option.some.inj h
      exact ⟨_, isEdit_update table assignments condition⟩
  | delete table condition =>
      obtain rfl : table = name := Option.some.inj h
      exact ⟨_, isEdit_delete table condition⟩
  | select | createDatabase | use | createTable | showDatabases | showTables | dropDatabase
    | dropTable => cases h

end Statement

namespace State

/-! ## §2. Putting tables back. -/

/-- Puts a table in the place of the first of this name in the selected database. -/
def putTable (s : State) (name : String) (t : Table) : State :=
  { s with catalog := s.catalog.setTable s.selection name t }

/-- The table has the stored name of the table that it would take the place of. -/
def CanPut (s : State) (name : String) (t' : Table) : Prop :=
  ∃ db t, s.selection.current? s.catalog = some db ∧ db.table? name = some t ∧ t'.name = t.name

variable {s : State} {n m : String} {t u : Table}

/-- A statement on another table passes or fails its checks as before. -/
theorem target_putTable (ht : s.CanPut n t) (hapart : ¬ sameName n m = true)
    (statement : Statement) :
    statement.target m (s.putTable n t).catalog (s.putTable n t).selection
      = statement.target m s.catalog s.selection := by
  obtain ⟨db, old, hdb, hold, hname⟩ := ht
  have hput : (s.putTable n t).selection.current? (s.putTable n t).catalog
      = some (db.modifyTable n fun _ => t) :=
    Catalog.current?_modifySelected (f := (·.modifyTable n fun _ => t)) hdb rfl
  have htable : tableIn (db.modifyTable n fun _ => t) m = tableIn db m := by
    unfold tableIn
    rw [Database.table?_modifyTable_of_apart hapart hold hname]
    rfl
  unfold Statement.target
  rw [selectedDatabase_eq_ok.2 hput, selectedDatabase_eq_ok.2 hdb, ok_bind, ok_bind, htable]

/-- Two tables can be put back in either order. -/
theorem putTable_comm (ht : s.CanPut n t) (hu : s.CanPut m u) (hapart : ¬ sameName n m = true) :
    (s.putTable n t).putTable m u = (s.putTable m u).putTable n t := by
  obtain ⟨db, oldT, hdb, holdT, hnameT⟩ := ht
  obtain ⟨db', oldU, hdb', holdU, hnameU⟩ := hu
  obtain rfl : db = db' := Option.some.inj (hdb.symm.trans hdb')
  have hcatalog : (s.catalog.setTable s.selection n t).setTable s.selection m u
      = (s.catalog.setTable s.selection m u).setTable s.selection n t := by
    simp only [Catalog.setTable_eq]
    rw [Catalog.modifySelected_modifySelected hdb rfl,
      Catalog.modifySelected_modifySelected hdb rfl]
    -- only what becomes of the selected database matters
    refine Catalog.modifySelected_congr fun d hd => ?_
    obtain rfl : db = d := Option.some.inj (hdb.symm.trans hd)
    exact Database.modifyTable_comm hapart holdT holdU hnameT hnameU
  exact congrArg (State.mk · s.selection) hcatalog

/-! ## §3. Performing edits. -/

/-- Performs a statement: its reply and the state after it.  An error leaves the state as it is. -/
def perform (s : State) (statement : Statement) : Except SqlError Reply × State :=
  match statement.run s.catalog s.selection with
  | .ok e => (.ok e.reply, s.apply e)
  | .error fault => (.error fault, s)

/-- What comes of an edit in a state: a reply and the table to put back, or why there is none. -/
def edited (s : State) (statement : Statement) (name : String)
    (edit : Table → Except SqlError (Reply × Table)) : Except SqlError (Reply × Table) := do
  edit (← statement.target name s.catalog s.selection)

/-- Gives the reply and puts the table back. -/
def settle (s : State) (name : String) :
    Except SqlError (Reply × Table) → Except SqlError Reply × State
  | .ok (reply, t) => (.ok reply, s.putTable name t)
  | .error fault => (.error fault, s)

theorem settle_fst (s : State) (name : String) (o : Except SqlError (Reply × Table)) :
    (s.settle name o).1 = o.map Prod.fst := by
  cases o <;> rfl

/-- What comes of two edits can be settled in either order. -/
theorem settle_comm {o o' : Except SqlError (Reply × Table)} (hapart : ¬ sameName n m = true)
    (ho : ∀ reply t, o = .ok (reply, t) → s.CanPut n t)
    (ho' : ∀ reply u, o' = .ok (reply, u) → s.CanPut m u) :
    ((s.settle n o).2.settle m o').2 = ((s.settle m o').2.settle n o).2 := by
  cases o with
  | error fault => rfl
  | ok made =>
      cases o' with
      | error fault' => rfl
      | ok made' => exact putTable_comm (ho _ _ rfl) (ho' _ _ rfl) hapart

variable {a b : Statement} {edit editA editB : Table → Except SqlError (Reply × Table)}

/-- Performing an edit is settling what comes of it. -/
theorem perform_of_isEdit (h : a.IsEdit n edit) (s : State) :
    s.perform a = s.settle n (s.edited a n edit) := by
  unfold perform edited
  rw [h.run_eq]
  cases a.target n s.catalog s.selection with
  | error fault => rfl
  | ok t =>
      rw [ok_bind, ok_bind]
      cases edit t <;> rfl

/-- The table that an edit gives can be put back. -/
theorem canPut_of_edited (h : a.IsEdit n edit) {reply : Reply}
    (ho : s.edited a n edit = .ok (reply, t)) : s.CanPut n t := by
  obtain ⟨old, htarget, hedit⟩ := bind_eq_ok.1 ho
  obtain ⟨db, hdb, hold, -⟩ := Statement.target_eq_ok htarget
  exact ⟨db, old, hdb, hold, h.keepsName hedit⟩

/-- Behind an edit of another table, a statement comes out as before. -/
theorem edited_perform (ha : a.IsEdit n editA) (hapart : ¬ sameName n m = true) (b : Statement)
    (s : State) : (s.perform a).2.edited b m editB = s.edited b m editB := by
  rw [perform_of_isEdit ha]
  cases ho : s.edited a n editA with
  | error fault => rfl
  | ok made =>
      show (s.putTable n made.2).edited b m editB = _
      unfold edited
      rw [target_putTable (canPut_of_edited ha ho) hapart]

/-! ## §4. Either order. -/

/-- Two steps that can be taken in either order: each gives behind the other what it gives in front
of it, and both orders lead to the same state. -/
structure InEitherOrder {α : Type} (s : State) (f g : State → α × State) : Prop where
  first : (f (g s).2).1 = (f s).1
  second : (g (f s).2).1 = (g s).1
  state : (g (f s).2).2 = (f (g s).2).2

/-- Edits of two tables can be performed in either order. -/
theorem inEitherOrder_of_isEdit (ha : a.IsEdit n editA) (hb : b.IsEdit m editB)
    (hapart : ¬ sameName n m = true) (s : State) :
    s.InEitherOrder (·.perform a) (·.perform b) := by
  have hbehindA : (s.perform a).2.edited b m editB = s.edited b m editB :=
    edited_perform ha hapart b s
  have hbehindB : (s.perform b).2.edited a n editA = s.edited a n editA :=
    edited_perform hb (fun h => hapart (sameName_symm h)) a s
  refine ⟨?_, ?_, ?_⟩
  · show ((s.perform b).2.perform a).1 = (s.perform a).1
    rw [perform_of_isEdit ha, perform_of_isEdit ha, settle_fst, settle_fst, hbehindB]
  · show ((s.perform a).2.perform b).1 = (s.perform b).1
    rw [perform_of_isEdit hb, perform_of_isEdit hb, settle_fst, settle_fst, hbehindA]
  · show ((s.perform a).2.perform b).2 = ((s.perform b).2.perform a).2
    rw [perform_of_isEdit hb, hbehindA, perform_of_isEdit ha s, perform_of_isEdit ha,
      hbehindB, perform_of_isEdit hb s]
    exact settle_comm hapart (fun _ _ => canPut_of_edited ha) fun _ _ => canPut_of_edited hb

/-- **Statements on different tables commute.**  Two statements that insert, update or delete rows,
in tables whose names are told apart, have the same results and lead to the same state in either
order, whether they are accepted or refused; and so have texts that write them. -/
theorem inEitherOrder_of_apart (ha : a.editedTable? = some n) (hb : b.editedTable? = some m)
    (hapart : ¬ sameName n m = true) (s : State) :
    s.InEitherOrder (·.perform a) (·.perform b)
      ∧ ∀ sqlA sqlB, Statement.written sqlA = .ok a → Statement.written sqlB = .ok b →
        s.InEitherOrder (·.execute sqlA) (·.execute sqlB) := by
  obtain ⟨editA, hA⟩ := Statement.exists_isEdit ha
  obtain ⟨editB, hB⟩ := Statement.exists_isEdit hb
  have hperform := inEitherOrder_of_isEdit hA hB hapart s
  refine ⟨hperform, fun sqlA sqlB hsqlA hsqlB => ?_⟩
  have hexecuteA : (fun s : State => s.execute sqlA) = (·.perform a) :=
    funext (Statement.execute_of_written hsqlA)
  have hexecuteB : (fun s : State => s.execute sqlB) = (·.perform b) :=
    funext (Statement.execute_of_written hsqlB)
  rw [hexecuteA, hexecuteB]
  exact hperform

/-- A selected database with two tables. -/
def twoTables (notes orders : List Row) : State where
  catalog := ⟨[⟨"shop", [⟨"notes", ["id"], notes⟩, ⟨"orders", ["id"], orders⟩]⟩]⟩
  selection := .of "shop"

/-- An INSERT into one table and an UPDATE of the other. -/
theorem inEitherOrder_of_apart_twoTables :
    ¬ sameName "NOTES" "orders" = true
      ∧ (((twoTables [] [[.text "1"]]).execute "INSERT INTO NOTES (id) VALUES (2);").2.execute
          "UPDATE orders SET id = 5 WHERE id = 1;").2 = twoTables [[.text "2"]] [[.text "5"]]
      ∧ (twoTables [] [[.text "1"]]).InEitherOrder
        (·.execute "INSERT INTO NOTES (id) VALUES (2);")
        (·.execute "UPDATE orders SET id = 5 WHERE id = 1;") := by
  have hapart : ¬ sameName "NOTES" "orders" = true := by decide +kernel
  have hinsert : Statement.written "INSERT INTO NOTES (id) VALUES (2);"
      = .ok (.insert "NOTES" ["id"] [[.text "2"]]) := by decide +kernel
  have hupdate : Statement.written "UPDATE orders SET id = 5 WHERE id = 1;"
      = .ok (.update "orders" [("id", .text "5")] ⟨"id", .eq, .text "1"⟩) := by decide +kernel
  exact ⟨hapart, by decide +kernel,
    (inEitherOrder_of_apart rfl rfl hapart _).2 _ _ hinsert hupdate⟩

end State

end SmallSql
