/-
  SmallSql.Proofs.Statement.Supplied
  ────────────────────────────────
  What an accepted INSERT keeps of the values that it is supplied with.  The table grows by one row
  for each tuple, in their order, and behind the old rows:

      (a, b, a)  VALUES (1, 2, 3)    ──▶    a = 3,  b = 2,  NULL elsewhere

  A column list may name a column several times.  The last value listed for it stays, so a tuple
  loses a value exactly if it has two different ones for the same column.
-/
import SmallSql.Proofs.Catalog.WellFormed
import SmallSql.Proofs.Statement.Repetition

namespace SmallSql

/-! ## §1. One tuple. -/

/-- The values of a tuple that are listed for one column are equal. -/
def AgreesWithItself (listed : List (String × Cell)) : Prop :=
  ∀ p ∈ listed, ∀ q ∈ listed, p.1 = q.1 → p.2 = q.2

/-- What a new row of the table makes of a tuple for the listed columns. -/
structure Table.RowFrom (t : Table) (columns : List String) (tuple : List Cell) (row : Row) :
    Prop where
  /-- There is a value for each listed column and none besides. -/
  fits : tuple.length = columns.length
  /-- The row has the width of the table. -/
  width : row.length = t.columns.length
  /-- In each column stands the last value that is listed for it, or NULL if there is none. -/
  cells : ∀ column ∈ t.columns,
    row[t.place column]? = some ((lastListed (columns.zip tuple) column).getD .null)
  /-- Every value is found in its column exactly if no column is listed with two of them. -/
  keepsAll_iff : (∀ p ∈ columns.zip tuple, row[t.place p.1]? = some p.2)
    ↔ AgreesWithItself (columns.zip tuple)
  /-- So none is lost if no column is listed twice. -/
  keepsAll_of_nodup : columns.Nodup → ∀ p ∈ columns.zip tuple, row[t.place p.1]? = some p.2

/-- A column list that names no column twice has no two values for one column. -/
theorem agreesWithItself_of_nodup {columns : List String} {tuple : List Cell}
    (hfits : tuple.length = columns.length) (hnodup : columns.Nodup) :
    AgreesWithItself (columns.zip tuple) := by
  have hnames : ((columns.zip tuple).map (·.1)).Nodup := by
    rw [List.map_fst_zip hfits.ge]
    exact hnodup
  intro p hp q hq hname
  have hcell := lastListed_of_mem hnames hp
  rw [hname, lastListed_of_mem hnames hq] at hcell
  exact (Option.some.inj hcell).symm

namespace Table

variable {t : Table} {columns : List String} {tuple : List Cell}

/-- In the column of a name stands the last cell that is listed under it. -/
theorem getElem?_rowOf (columns : List String) (tuple : List Cell) {column : String}
    (hcolumn : column ∈ t.columns) :
    (t.rowOf ((columns.map t.place).zip tuple))[t.place column]?
      = some ((lastListed (columns.zip tuple) column).getD .null) := by
  have hcells : (columns.map t.place).zip tuple
      = Statement.assignedCells (columns.zip tuple) t := by
    rw [List.zip_map_left]
    rfl
  have hlt : t.place column < t.columns.length := (t.isFirstAt_place hcolumn).lt_length
  have hblank : (List.replicate t.columns.length Cell.null)[t.place column]? = some .null := by
    rw [List.getElem?_replicate, if_pos hlt]
  -- a row is written into a row of NULLs
  show (Row.written _ (List.replicate t.columns.length .null))[t.place column]? = _
  rw [hcells, Row.getElem?_written (by rwa [List.length_replicate]),
    Statement.lookup_assignedCells hcolumn, hblank, Option.or_some]

/-- All values of a tuple are found in their columns exactly if no column has two of them. -/
theorem rowOf_keepsAll_iff (hcolumns : ∀ n ∈ columns, n ∈ t.columns) (tuple : List Cell) :
    (∀ p ∈ columns.zip tuple,
        (t.rowOf ((columns.map t.place).zip tuple))[t.place p.1]? = some p.2)
      ↔ AgreesWithItself (columns.zip tuple) := by
  have hlisted : ∀ p ∈ columns.zip tuple, p.1 ∈ t.columns := fun p hp =>
    hcolumns p.1 (List.of_mem_zip hp).1
  constructor
  · intro hkeeps p hp q hq hname
    have hcell := hkeeps p hp
    rw [hname, hkeeps q hq] at hcell
    exact (Option.some.inj hcell).symm
  · intro hagrees p hp
    obtain ⟨cell, hlast⟩ := Option.isSome_iff_exists.1 (lastListed_isSome_of_mem hp)
    rw [getElem?_rowOf columns tuple (hlisted p hp), hlast]
    exact congrArg some (hagrees _ (mem_listed_of_lastListed hlast) p hp rfl)

/-- INSERT makes its rows from its tuples. -/
theorem rowFrom_rowOf (hcolumns : ∀ n ∈ columns, n ∈ t.columns)
    (hfits : tuple.length = columns.length) :
    t.RowFrom columns tuple (t.rowOf ((columns.map t.place).zip tuple)) where
  fits := hfits
  width := t.rowOf_length _
  cells _ := getElem?_rowOf columns tuple
  keepsAll_iff := rowOf_keepsAll_iff hcolumns tuple
  keepsAll_of_nodup hnodup :=
    (rowOf_keepsAll_iff hcolumns tuple).2 (agreesWithItself_of_nodup hfits hnodup)

end Table

namespace Statement

/-! ## §2. All tuples of a text. -/

variable {c : Catalog} {s : Selection} {e : Effect} {name : String} {columns : List String}
  {tuples : List (List Cell)} {t : Table}

/-- What an INSERT of these tuples does to the table that it names. -/
structure Supplies (c : Catalog) (s : Selection) (e : Effect) (name : String)
    (columns : List String) (tuples : List (List Cell)) (t : Table) (rows : List Row) : Prop where
  /-- The table in the selected database, in front of the INSERT. -/
  before : ∃ db, s.current? c = some db ∧ db.table? name = some t
  /-- Behind it, the new rows stand after the old ones. -/
  after : ∃ c' db, e.catalog? = some c' ∧ s.current? c' = some db
    ∧ db.table? name = some (t.append rows)
  /-- One row for each tuple, in their order. -/
  made : List.Forall₂ (t.RowFrom columns) tuples rows
  affected : e.reply.affected = some tuples.length

/-- **An accepted INSERT gains one row for each tuple, and a row loses a value of its tuple exactly
if the tuple has two different ones for the same column.** -/
theorem supplies_of_ofText {sql : String}
    (hwritten : written sql = .ok (insert name columns tuples))
    (h : Effect.ofText sql c s = .ok e) : ∃ t rows, Supplies c s e name columns tuples t rows := by
  rw [ofText_eq_run, hwritten, ok_bind, run_insert] at h
  obtain ⟨t, htarget, he⟩ := bind_eq_ok.1 h
  cases he
  obtain ⟨db, hdb, htable, hcolumns, htuples⟩ := target_eq_ok htarget
  have hwidths := checkTuples_insert_eq_ok.1 htuples
  refine ⟨t, insertedRows columns tuples t, ⟨db, hdb, htable⟩, ?_, ?_, ?_⟩
  · -- the table is put back under its own name, where it is found again
    have hagain : (insert name columns tuples).target name
        (State.putTable ⟨c, s⟩ name (t.append (insertedRows columns tuples t))).catalog s
        = .ok (t.append (insertedRows columns tuples t)) :=
      State.target_putTable_self htarget rfl rfl
    obtain ⟨db', hdb', htable', -⟩ := target_eq_ok hagain
    exact ⟨_, db', rfl, hdb', htable'⟩
  · unfold insertedRows
    rw [List.forall₂_map_right_iff, List.forall₂_same]
    exact fun tuple htuple => Table.rowFrom_rowOf hcolumns (hwidths tuple htuple)
  · exact congrArg some (List.length_map _)

/-- What an INSERT into the notes does that leaves them with these rows. -/
def notesInserted (count : Nat) (rows : List Row) : Effect where
  reply := {
    command := .insert
    message := toString count ++ " rows inserted into notes"
    affected := some count }
  catalog? := some (State.noted rows).catalog

/-- A column listed twice, once with two values and once with one of them twice: the first tuple
loses a value, the second does not. -/
theorem supplies_of_ofText_noteTwice :
    Effect.ofText "INSERT INTO notes (note, id, note) VALUES ('a', 1, 'b'), ('c', NULL, 'c');"
        (State.noted [[.null, .text "x"]]).catalog (.of "shop")
      = .ok (notesInserted 2
        [[.null, .text "x"], [.text "1", .text "b"], [.null, .text "c"]])
    ∧ ¬ AgreesWithItself (["note", "id", "note"].zip [.text "a", .text "1", .text "b"])
    ∧ AgreesWithItself (["note", "id", "note"].zip [.text "c", .null, .text "c"])
    ∧ ∃ t rows, Supplies (State.noted [[.null, .text "x"]]).catalog (.of "shop")
      (notesInserted 2 [[.null, .text "x"], [.text "1", .text "b"], [.null, .text "c"]]) "notes"
      ["note", "id", "note"] [[.text "a", .text "1", .text "b"], [.text "c", .null, .text "c"]] t
      rows := by
  have hwritten : written
      "INSERT INTO notes (note, id, note) VALUES ('a', 1, 'b'), ('c', NULL, 'c');"
      = .ok (insert "notes" ["note", "id", "note"]
        [[.text "a", .text "1", .text "b"], [.text "c", .null, .text "c"]]) := by
    decide +kernel
  have h : Effect.ofText
      "INSERT INTO notes (note, id, note) VALUES ('a', 1, 'b'), ('c', NULL, 'c');"
      (State.noted [[.null, .text "x"]]).catalog (.of "shop")
      = .ok (notesInserted 2
        [[.null, .text "x"], [.text "1", .text "b"], [.null, .text "c"]]) := by
    decide +kernel
  refine ⟨h, ?_, ?_, supplies_of_ofText hwritten h⟩
  · unfold AgreesWithItself
    decide
  · unfold AgreesWithItself
    decide

/-- An INSERT that lists a column twice is accepted, into a table with distinct columns and rows of
its width, and of the two different values for the column the first one is nowhere. -/
theorem insert_loses_first :
    (State.noted []).catalog.WellFormed
      ∧ written "INSERT INTO notes (id, id) VALUES (1, 2);"
        = .ok (insert "notes" ["id", "id"] [[.text "1", .text "2"]])
      ∧ Effect.ofText "INSERT INTO notes (id, id) VALUES (1, 2);" (State.noted []).catalog
          (.of "shop") = .ok (notesInserted 1 [[.text "2", .null]])
      ∧ Cell.text "1" ∉ [Cell.text "2", Cell.null] := by
  have htable : (⟨"notes", ["id", "note"], []⟩ : Table).WellFormed :=
    ⟨⟨by decide, by decide⟩, nofun⟩
  have hdatabase : (⟨"shop", [⟨"notes", ["id", "note"], []⟩]⟩ : Database).WellFormed :=
    ⟨List.pairwise_singleton _ _, fun t ht => List.mem_singleton.1 ht ▸ htable⟩
  refine ⟨⟨List.pairwise_singleton _ _, fun db hdb => List.mem_singleton.1 hdb ▸ hdatabase⟩, ?_, ?_,
    by decide⟩
  · decide +kernel
  · decide +kernel

end Statement

end SmallSql
