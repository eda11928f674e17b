/-
  SmallSql.Proofs.Statement.Repetition
  ────────────────────────────────
  UPDATE and DELETE, run again.  The first run puts a table in its place, and the second looks up and
  edits what the first has left:

      t  ──  DELETE  ──▶  t'   ──  DELETE  ──▶  t'      no row is left to remove
      t  ──  UPDATE  ──▶  t'   ──  UPDATE  ──▶  t'      the same rows, or none

  An UPDATE selects rows before it writes, and of several cells for one column the last one stays.
  So an updated row is updated again exactly if the compared column is not assigned or the last cell
  assigned to it is the compared value; and what is then written is already there.
-/
import SmallSql.Proofs.Named.Rows
import SmallSql.Proofs.Statement.EitherOrder
import SmallSql.Proofs.Statement.RowPositions

namespace SmallSql

/-! ## §1. Writing into a row. -/

namespace Row

variable {row : Row} {cells : List (Nat × Cell)} {i : Nat}

@[simp] theorem length_written (cells : List (Nat × Cell)) (row : Row) :
    (row.written cells).length = row.length :=
  Row.length_foldl_set cells row

/-- At a position stands the last cell that was written there, or the old cell. -/
theorem getElem?_written (hi : i < row.length) :
    (row.written cells)[i]? = (cells.reverse.lookup i).or row[i]? := by
  -- by induction on the cells still to be written; the row is the one written so far
  induction cells generalizing row with
  | nil => rfl
  | cons p rest ih =>
      have hrest : (row.written (p :: rest))[i]?
          = (rest.reverse.lookup i).or (row.set p.1 p.2)[i]? := by
        refine ih ?_
        rw [List.length_set]
        exact hi
      rw [hrest, List.reverse_cons, List.lookup_append, Option.or_assoc]
      congr 1
      by_cases hp : i = p.1
      · have hb : (i == p.1) = true := by simpa using hp
        rw [List.lookup_cons, hb, ← hp, List.getElem?_set_self hi]
        rfl
      · have hb : (i == p.1) = false := by simpa using hp
        rw [List.lookup_cons, hb, List.getElem?_set_ne (Ne.symm hp)]
        rfl

/-- Writing the same cells again changes nothing. -/
theorem written_written (cells : List (Nat × Cell)) (row : Row) :
    (row.written cells).written cells = row.written cells := by
  apply List.ext_getElem?
  intro i
  by_cases hi : i < row.length
  · have hi' : i < (row.written cells).length := by rwa [length_written]
    rw [getElem?_written hi', getElem?_written hi, ← Option.or_assoc, Option.or_self]
  · rw [List.getElem?_eq_none (by simpa using hi), List.getElem?_eq_none (by simpa using hi)]

end Row

namespace Table

variable {t : Table}

theorem getElem?_writtenAt (t : Table) (hits : Finset Nat) (cells : List (Nat × Cell)) (i : Nat) :
    (t.writtenAt hits cells).rows[i]?
      = t.rows[i]?.map fun row => if i ∈ hits then row.written cells else row :=
  List.getElem?_mapIdx

/-- Where cells were written, the written row is selected or not. -/
theorem mem_positions_writtenAt {hits : Finset Nat} {cells : List (Nat × Cell)} {p : Row → Bool}
    {i : Nat} : i ∈ (t.writtenAt hits cells).positions p
      ↔ ∃ row, t.rows[i]? = some row ∧ p (if i ∈ hits then row.written cells else row) = true := by
  rw [mem_positions, getElem?_writtenAt]
  simp only [Option.map_eq_some_iff, exists_exists_and_eq_and]

/-- Writing the same cells into some of the rows again changes nothing. -/
theorem writtenAt_writtenAt (t : Table) (cells : List (Nat × Cell)) {hits again : Finset Nat}
    (h : again ⊆ hits) : (t.writtenAt hits cells).writtenAt again cells = t.writtenAt hits cells := by
  have hrows : ((t.writtenAt hits cells).writtenAt again cells).rows
      = (t.writtenAt hits cells).rows := by
    apply List.ext_getElem?
    intro i
    rw [getElem?_writtenAt, getElem?_writtenAt, Option.map_map]
    congr 1
    funext row
    by_cases hi : i ∈ again
    · simp [hi, h hi, Row.written_written]
    · simp [hi]
  exact congrArg (Table.mk t.name t.columns) hrows

theorem Rectangular.writtenAt (h : t.Rectangular) (hits : Finset Nat)
    (cells : List (Nat × Cell)) : (t.writtenAt hits cells).Rectangular := by
  intro row' hrow'
  obtain ⟨i, hi⟩ := List.getElem?_of_mem hrow'
  rw [getElem?_writtenAt] at hi
  obtain ⟨row, hrow, rfl⟩ := Option.map_eq_some_iff.1 hi
  have hwidth : row.length = t.columns.length := h row (List.mem_of_getElem? hrow)
  split
  · rw [Row.length_written]
    exact hwidth
  · exact hwidth

/-- Rows that are kept are kept again. -/
theorem retain_retain (t : Table) (keep : Row → Bool) :
    (t.retain keep).1.retain keep = ((t.retain keep).1, 0) := by
  unfold retain
  simp [List.countP_eq_zero]

end Table

namespace Statement

/-! ## §2. The rows of the second run. -/

/-- A row with the compared value still has it once the cells are assigned: none of them is assigned
to the compared column, or the last of those is the compared value. -/
def KeepsCompared (assignments : List (String × Cell)) (condition : Condition) : Prop :=
  lastListed assignments condition.column = none
    ∨ lastListed assignments condition.column = some condition.value

variable {t : Table} {assignments : List (String × Cell)} {condition : Condition}

/-- What is written at the place of a column is what is assigned to the column. -/
theorem lookup_assignedCells {column : String} (hcolumn : column ∈ t.columns) :
    (assignedCells assignments t).reverse.lookup (t.place column)
      = lastListed assignments column := by
  unfold assignedCells lastListed
  rw [← List.map_reverse]
  induction assignments.reverse with
  | nil => rfl
  | cons a rest ih =>
      have hplace : (t.place column == t.place a.1) = (column == a.1) := by
        rw [Bool.eq_iff_iff, beq_iff_eq, beq_iff_eq]
        exact List.idxOf_inj hcolumn
      rw [List.map_cons, List.lookup_cons, List.lookup_cons, hplace, ih]

/-- A row that UPDATE has written into is written into again if it keeps the compared value. -/
theorem isUpdated_written {row : Row} (hwidth : row.length = t.columns.length)
    (hcolumn : condition.column ∈ t.columns) (hrow : isUpdated condition t row = true) :
    isUpdated condition t (row.written (assignedCells assignments t)) = true
      ↔ KeepsCompared assignments condition := by
  have hlt : t.place condition.column < row.length := by
    rw [hwidth]
    exact List.idxOf_lt_length_of_mem hcolumn
  unfold isUpdated at hrow ⊢
  rw [Row.getElem?_written hlt, lookup_assignedCells hcolumn, beq_iff_eq.1 hrow]
  unfold KeepsCompared
  cases lastListed assignments condition.column <;> simp

/-- Behind an UPDATE, its rows are those that were and have kept the compared value. -/
theorem mem_updatedRows_writtenAt (ht : t.Rectangular) (hcolumn : condition.column ∈ t.columns)
    {i : Nat} :
    i ∈ updatedRows condition
        (t.writtenAt (updatedRows condition t) (assignedCells assignments t))
      ↔ i ∈ updatedRows condition t ∧ KeepsCompared assignments condition := by
  -- the columns are those of `t`, so rows are selected as there
  refine Table.mem_positions_writtenAt.trans ?_
  constructor
  · rintro ⟨row, hrow, hselected⟩
    by_cases hi : i ∈ updatedRows condition t
    · rw [if_pos hi] at hselected
      have hbefore := (Table.mem_positions_of_getElem? hrow).1 hi
      exact ⟨hi, (isUpdated_written (ht row (List.mem_of_getElem? hrow)) hcolumn hbefore).1
        hselected⟩
    · rw [if_neg hi] at hselected
      exact absurd (Table.mem_positions.2 ⟨row, hrow, hselected⟩) hi
  · rintro ⟨hi, hkeeps⟩
    obtain ⟨row, hrow, hbefore⟩ := Table.mem_positions.1 hi
    refine ⟨row, hrow, ?_⟩
    rw [if_pos hi]
    exact (isUpdated_written (ht row (List.mem_of_getElem? hrow)) hcolumn hbefore).2 hkeeps

/-! ## §3. The edits of the second run. -/

/-- UPDATE writes at its rows and answers with their number. -/
theorem updateEdit_eq {table : String} (ht : t.Rectangular)
    (hnamed : ∀ n ∈ (update table assignments condition).namedColumns, n ∈ t.columns) :
    updateEdit table assignments condition t
      = .ok ((updateEffect table {} {} (t, (updatedRows condition t).card)).reply,
        t.writtenAt (updatedRows condition t) (assignedCells assignments t)) := by
  unfold updateEdit
  rw [updateWhere?_eq_writtenAt ht hnamed]
  rfl

/-- What two runs of a statement affect.  `t` is the table in front of the first run and `t'` the
table behind it. -/
def AffectsAgain (t t' : Table) (reply reply' : Reply) : Statement → Prop
  | update _ assignments condition =>
    t' = t.writtenAt (updatedRows condition t) (assignedCells assignments t)
      ∧ reply.affected = some (updatedRows condition t).card
      ∧ reply'.affected = some (updatedRows condition t').card
      ∧ (KeepsCompared assignments condition →
        updatedRows condition t' = updatedRows condition t)
      ∧ (¬ KeepsCompared assignments condition → updatedRows condition t' = ∅)
  | delete _ condition =>
    t' = t.without (deletedRows condition t)
      ∧ reply.affected = some (deletedRows condition t).card
      ∧ reply'.affected = some 0
  | _ => False

/-- An UPDATE finds the rows of the first run again, or none, and leaves the table as it is. -/
theorem updateEdit_again {table : String} {t' : Table} {reply : Reply} (ht : t.Rectangular)
    (hnamed : ∀ n ∈ (update table assignments condition).namedColumns, n ∈ t.columns)
    (h : updateEdit table assignments condition t = .ok (reply, t')) :
    t'.columns = t.columns ∧ ∃ reply', updateEdit table assignments condition t' = .ok (reply', t')
      ∧ AffectsAgain t t' reply reply' (update table assignments condition) := by
  have hcolumn : condition.column ∈ t.columns :=
    hnamed _ (List.mem_append_right _ (List.mem_singleton_self _))
  rw [updateEdit_eq ht hnamed] at h
  cases h
  have hsecond := updateEdit_eq (ht.writtenAt (updatedRows condition t)
    (assignedCells assignments t)) hnamed
  have hsubset : updatedRows condition
        (t.writtenAt (updatedRows condition t) (assignedCells assignments t))
      ⊆ updatedRows condition t :=
    fun i hi => ((mem_updatedRows_writtenAt ht hcolumn).1 hi).1
  -- the columns are those of `t`, so the second run writes the same cells
  have hwritten := t.writtenAt_writtenAt (assignedCells assignments t) hsubset
  refine ⟨rfl, _, hsecond.trans (congrArg (fun u => Except.ok (_, u)) hwritten), rfl, rfl, rfl,
    ?_, ?_⟩
  · intro hkeeps
    ext i
    rw [mem_updatedRows_writtenAt ht hcolumn, and_iff_left hkeeps]
  · intro hloses
    refine Finset.eq_empty_of_forall_notMem fun i hi => ?_
    exact hloses ((mem_updatedRows_writtenAt ht hcolumn).1 hi).2

/-- A DELETE finds no more rows and leaves the table as it is. -/
theorem deleteEdit_again {table : String} {t' : Table} {reply : Reply}
    (h : deleteEdit table condition t = .ok (reply, t')) :
    t'.columns = t.columns ∧ ∃ reply', deleteEdit table condition t' = .ok (reply', t')
      ∧ AffectsAgain t t' reply reply' (delete table condition) := by
  cases h
  have hfirst := t.retain_eq_without (isKept condition t)
  have hsecond := t.retain_retain (isKept condition t)
  have hedit : deleteEdit table condition (t.retain (isKept condition t)).1
      = .ok ((deleteEffect table {} {} ((t.retain (isKept condition t)).1, 0)).reply,
        (t.retain (isKept condition t)).1) :=
    congrArg (fun left => Except.ok ((deleteEffect table {} {} left).reply, left.1)) hsecond
  exact ⟨rfl, _, hedit, congrArg Prod.fst hfirst, congrArg (fun left => some (Prod.snd left)) hfirst,
    rfl⟩

end Statement

namespace State

/-! ## §4. The states of the second run. -/

variable {s s' : State} {n : String} {a : Statement} {t t' u : Table} {reply reply' : Reply}
  {edit : Table → Except SqlError (Reply × Table)}

/-- A table that is put back is found again, with the same columns. -/
theorem target_putTable_self (htarget : a.target n s.catalog s.selection = .ok t)
    (hname : t'.name = t.name) (hcolumns : t'.columns = t.columns) :
    a.target n (s.putTable n t').catalog (s.putTable n t').selection = .ok t' := by
  obtain ⟨db, hdb, ht, hnamed, htuples⟩ := Statement.target_eq_ok htarget
  have hput : (s.putTable n t').selection.current? (s.putTable n t').catalog
      = some (db.modifyTable n fun _ => t') :=
    Catalog.current?_modifySelected (f := (·.modifyTable n fun _ => t')) hdb rfl
  have htable : (db.modifyTable n fun _ => t').table? n = some t' :=
    find?_modifyFirst (f := fun _ => t') ht (by rw [hname]; exact (Database.mem_of_table? ht).2)
  exact Statement.target_eq_ok_of hput htable (by rw [hcolumns]; exact hnamed) htuples

/-- Of two tables that are put back in the same place, the second one stays. -/
theorem putTable_putTable (ht : s.CanPut n t) : (s.putTable n t).putTable n u = s.putTable n u := by
  obtain ⟨db, old, hdb, hold, hname⟩ := ht
  have hcatalog : (s.catalog.setTable s.selection n t).setTable s.selection n u
      = s.catalog.setTable s.selection n u := by
    simp only [Catalog.setTable_eq]
    rw [Catalog.modifySelected_modifySelected hdb rfl]
    refine Catalog.modifySelected_congr fun d hd => ?_
    obtain rfl : db = d := Option.some.inj (hdb.symm.trans hd)
    exact congrArg (Database.mk db.name)
      (modifyFirst_modifyFirst hold (by rw [hname]; exact (Database.mem_of_table? hold).2))
  exact congrArg (State.mk · s.selection) hcatalog

/-- An edit that is performed puts back the table that it makes of its target. -/
theorem exists_target_of_perform (ha : a.IsEdit n edit) (h : s.perform a = (.ok reply, s')) :
    ∃ t t', a.target n s.catalog s.selection = .ok t ∧ edit t = .ok (reply, t')
      ∧ s' = s.putTable n t' := by
  rw [perform_of_isEdit ha] at h
  cases ho : s.edited a n edit with
  | error fault =>
      rw [ho] at h
      cases h
  | ok made =>
      obtain ⟨t, htarget, hedit⟩ := bind_eq_ok.1 ho
      rw [ho] at h
      cases h
      exact ⟨t, _, htarget, hedit, rfl⟩

/-- An edit that leaves as it is what it has made of its target leaves the state behind it as it
is. -/
theorem perform_putTable (ha : a.IsEdit n edit)
    (htarget : a.target n s.catalog s.selection = .ok t) (hname : t'.name = t.name)
    (hcolumns : t'.columns = t.columns) (hagain : edit t' = .ok (reply', t')) :
    (s.putTable n t').perform a = (.ok reply', s.putTable n t') := by
  obtain ⟨db, hdb, ht, -⟩ := Statement.target_eq_ok htarget
  have hedited : (s.putTable n t').edited a n edit = .ok (reply', t') := by
    unfold edited
    rw [target_putTable_self htarget hname hcolumns, ok_bind, hagain]
  rw [perform_of_isEdit ha, hedited]
  exact congrArg (Except.ok reply', ·) (putTable_putTable ⟨db, t, hdb, ht, hname⟩)

/-- What comes of a text that is executed twice, where it writes the statement.  The second run
succeeds and leaves the state behind the first one as it is; `t` is what the table of the statement
is in front of the first run, and `t'` what it is in front of the second. -/
structure Repeats (s s' : State) (sql : String) (statement : Statement) (name : String)
    (t t' : Table) (reply reply' : Reply) : Prop where
  edits : statement.editedTable? = some name
  first : statement.target name s.catalog s.selection = .ok t
  second : statement.target name s'.catalog s'.selection = .ok t'
  again : s'.execute sql = (.ok reply', s')
  affects : statement.AffectsAgain t t' reply reply'

/-- A statement repeats if its edit leaves as it is what it has made of its target. -/
theorem repeats_of_isEdit {sql : String} (hwritten : Statement.written sql = .ok a)
    (ha : a.IsEdit n edit) (hn : a.editedTable? = some n)
    (htarget : a.target n s.catalog s.selection = .ok t) (hedit : edit t = .ok (reply, t'))
    (hcolumns : t'.columns = t.columns) (hagain : edit t' = .ok (reply', t'))
    (haffects : a.AffectsAgain t t' reply reply') :
    Repeats s (s.putTable n t') sql a n t t' reply reply' where
  edits := hn
  first := htarget
  second := target_putTable_self htarget (ha.keepsName hedit) hcolumns
  again := (Statement.execute_of_written hwritten _).trans
    (perform_putTable ha htarget (ha.keepsName hedit) hcolumns hagain)
  affects := haffects

/-- **UPDATE and DELETE are idempotent.**  Behind a text of theirs that has succeeded, the text
succeeds again and leaves the state as it is.  The second DELETE affects no rows; the second UPDATE
affects the same rows as the first, or none, as the cells assigned to the compared column decide. -/
theorem repeats_of_execute {sql : String} {statement : Statement} (hc : s.catalog.Rectangular)
    (hwritten : Statement.written sql = .ok statement)
    (hcommand : statement.command = .update ∨ statement.command = .delete)
    (h : s.execute sql = (.ok reply, s')) :
    ∃ name t t' reply', Repeats s s' sql statement name t t' reply reply' := by
  have hperform : s.perform statement = (.ok reply, s') :=
    (Statement.execute_of_written hwritten s).symm.trans h
  cases statement with
  | update table assignments condition =>
      have hisEdit := Statement.isEdit_update table assignments condition
      obtain ⟨t, t', htarget, hedit, rfl⟩ := exists_target_of_perform hisEdit hperform
      obtain ⟨db, hdb, ht, hnamed, -⟩ := Statement.target_eq_ok htarget
      obtain ⟨hcolumns, reply', hagain, haffects⟩ :=
        Statement.updateEdit_again (Statement.rectangular_of_table? hc hdb ht) hnamed hedit
      exact ⟨table, t, t', reply',
        repeats_of_isEdit hwritten hisEdit rfl htarget hedit hcolumns hagain haffects⟩
  | delete table condition =>
      have hisEdit := Statement.isEdit_delete table condition
      obtain ⟨t, t', htarget, hedit, rfl⟩ := exists_target_of_perform hisEdit hperform
      obtain ⟨hcolumns, reply', hagain, haffects⟩ := Statement.deleteEdit_again hedit
      exact ⟨table, t, t', reply',
        repeats_of_isEdit hwritten hisEdit rfl htarget hedit hcolumns hagain haffects⟩
  | select | insert | createDatabase | use | createTable | showDatabases | showTables
    | dropDatabase | dropTable => simp [Statement.command] at hcommand

/-- A selected database with one table of two columns. -/
def noted (rows : List Row) : State where
  catalog := ⟨[⟨"shop", [⟨"notes", ["id", "note"], rows⟩]⟩]⟩
  selection := .of "shop"

/-- What an UPDATE of one of the notes answers. -/
def updatedOne : Reply where
  command := .update
  message := "Updated 1 rows in notes"
  affected := some 1

/-- An UPDATE assigns twice to the compared column, and the last cell is the compared value: the row
is updated once more. -/
theorem repeats_of_execute_lastWins :
    (noted [[.null, .text "a"], [.text "1", .text "b"]]).execute
        "UPDATE notes SET id = 2, note = 'x', id = NULL WHERE id = NULL;"
      = (.ok updatedOne, noted [[.null, .text "x"], [.text "1", .text "b"]])
    ∧ Statement.KeepsCompared [("id", .text "2"), ("note", .text "x"), ("id", .null)]
      ⟨"id", .eq, .null⟩
    ∧ ∃ name t t' reply', Repeats (noted [[.null, .text "a"], [.text "1", .text "b"]])
      (noted [[.null, .text "x"], [.text "1", .text "b"]])
      "UPDATE notes SET id = 2, note = 'x', id = NULL WHERE id = NULL;"
      (.update "notes" [("id", .text "2"), ("note", .text "x"), ("id", .null)] ⟨"id", .eq, .null⟩)
      name t t' updatedOne reply' := by
  have hc : (noted [[.null, .text "a"], [.text "1", .text "b"]]).catalog.Rectangular := by
    simp [noted, Catalog.Rectangular, Database.Rectangular, Table.Rectangular]
  have hwritten : Statement.written
      "UPDATE notes SET id = 2, note = 'x', id = NULL WHERE id = NULL;"
      = .ok (.update "notes" [("id", .text "2"), ("note", .text "x"), ("id", .null)]
        ⟨"id", .eq, .null⟩) := by
    decide +kernel
  have h : (noted [[.null, .text "a"], [.text "1", .text "b"]]).execute
      "UPDATE notes SET id = 2, note = 'x', id = NULL WHERE id = NULL;"
      = (.ok updatedOne, noted [[.null, .text "x"], [.text "1", .text "b"]]) := by
    decide +kernel
  exact ⟨h, .inr rfl, repeats_of_execute hc hwritten (.inl rfl) h⟩

end State

end SmallSql
