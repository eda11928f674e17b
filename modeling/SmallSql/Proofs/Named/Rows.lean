/-
  SmallSql.Proofs.Named.Rows
  ────────────────────────────────
  Rows by position and records by name.  The row of a record lists its cells in the order of the
  columns.  Writing at the place of a column is writing under its name, because no column stands
  twice in the list; so a run of writes by position ends in the row of the record in which the last
  write under each name has won.
-/
import Mathlib.Data.List.Basic
import SmallSql.Proofs.Catalog.Edits
import SmallSql.Proofs.Named.World

namespace SmallSql

/-! ## §1. The last cell under a name. -/

@[simp] theorem lastListed_nil (name : String) : lastListed [] name = none := rfl

/-- What is listed later wins. -/
theorem lastListed_cons (p : String × Cell) (rest : List (String × Cell)) (name : String) :
    lastListed (p :: rest) name
      = (lastListed rest name).or (if name = p.1 then some p.2 else none) := by
  unfold lastListed
  rw [List.reverse_cons, List.lookup_append]
  congr 1
  by_cases h : name = p.1
  · have hb : (name == p.1) = true := by simpa using h
    rw [if_pos h, List.lookup_cons, hb]
  · have hb : (name == p.1) = false := by simpa using h
    rw [if_neg h, List.lookup_cons, hb]
    rfl

/-- The last cell under a name is one of those that are listed under it. -/
theorem mem_listed_of_lastListed {listed : List (String × Cell)} {name : String} {cell : Cell}
    (h : lastListed listed name = some cell) : (name, cell) ∈ listed := by
  induction listed with
  | nil => cases h
  | cons p rest ih =>
      rw [lastListed_cons, Option.or_eq_some_iff] at h
      rcases h with h | ⟨-, h⟩
      · exact List.mem_cons_of_mem _ (ih h)
      · split at h
        · next hname =>
          cases h
          rw [hname]
          exact List.mem_cons_self
        · cases h

/-- Only listed names have a cell. -/
theorem mem_of_lastListed {listed : List (String × Cell)} {name : String} {cell : Cell}
    (h : lastListed listed name = some cell) : name ∈ listed.map (·.1) :=
  List.mem_map_of_mem (f := (·.1)) (mem_listed_of_lastListed h)

/-- A name that is listed has a last cell. -/
theorem lastListed_isSome_of_mem {listed : List (String × Cell)} {p : String × Cell}
    (h : p ∈ listed) : (lastListed listed p.1).isSome = true := by
  induction listed with
  | nil => cases h
  | cons q rest ih =>
      rw [lastListed_cons]
      rcases List.mem_cons.1 h with rfl | h
      · rw [if_pos rfl]
        simp
      · simp [ih h]

/-- Where no name is listed twice, the cell listed under a name is the last one. -/
theorem lastListed_of_mem {listed : List (String × Cell)} (hnodup : (listed.map (·.1)).Nodup)
    {p : String × Cell} (h : p ∈ listed) : lastListed listed p.1 = some p.2 := by
  induction listed with
  | nil => cases h
  | cons q rest ih =>
      rw [List.map_cons, List.nodup_cons] at hnodup
      rw [lastListed_cons]
      rcases List.mem_cons.1 h with rfl | hp
      · have hnone : lastListed rest p.1 = none := by
          cases hl : lastListed rest p.1 with
          | none => rfl
          | some cell => exact absurd (mem_of_lastListed hl) hnodup.1
        rw [hnone, if_pos rfl]
        rfl
      · rw [ih hnodup.2 hp]
        rfl

namespace Record

/-- A record that has a cell for each of the columns and for no other name. -/
def Covers (r : Record) (columns : List String) : Prop := ∀ name, (r name).isSome ↔ name ∈ columns

/-- The cells of a record, in the order of the columns. -/
def row (columns : List String) (r : Record) : Row := columns.map fun name => (r name).getD .null

@[simp] theorem row_length (columns : List String) (r : Record) :
    (r.row columns).length = columns.length := List.length_map _

/-- The row depends on the cells of the columns only. -/
theorem row_congr {columns : List String} {r r' : Record}
    (h : ∀ name ∈ columns, (r name).getD .null = (r' name).getD .null) :
    r.row columns = r'.row columns :=
  List.map_congr_left h

/-- At the place of a column stands its cell. -/
theorem getElem?_row {columns : List String} {name : String} (h : name ∈ columns) (r : Record) :
    (r.row columns)[columns.idxOf name]? = some ((r name).getD .null) := by
  unfold row
  rw [List.getElem?_map, List.getElem?_idxOf h]
  rfl

/-! ## §2. Writing. -/

/-- Writing at the place of a column is writing under its name. -/
theorem set_row {columns : List String} (hnodup : columns.Nodup) {name : String}
    (h : name ∈ columns) (r : Record) (cell : Cell) :
    (r.row columns).set (columns.idxOf name) cell = row columns (r.written [(name, cell)]) := by
  -- place by place: at the place of `name`, and at every other
  apply List.ext_getElem?
  intro i
  have hlt : columns.idxOf name < (r.row columns).length := by
    rw [row_length]
    exact List.idxOf_lt_length_of_mem h
  by_cases hi : columns.idxOf name = i
  · subst hi
    rw [List.getElem?_set_self hlt, getElem?_row h]
    unfold written
    rw [lastListed_cons, if_pos rfl]
    rfl
  · rw [List.getElem?_set_ne hi]
    unfold row
    rw [List.getElem?_map, List.getElem?_map]
    cases hn : columns[i]? with
    | none => rfl
    | some other =>
        -- another name at this place: the first place of `name` is its only one
        have hne : other ≠ name := by
          intro he
          obtain ⟨hil, hget⟩ := List.getElem?_eq_some_iff.1 hn
          rw [← he, ← hget] at hi
          exact hi (List.Nodup.idxOf_getElem hnodup i hil)
        show some ((r other).getD .null)
          = some (((lastListed [(name, cell)] other).or (r other)).getD .null)
        rw [lastListed_cons, if_neg hne]
        rfl

/-- Writes one after the other. -/
theorem written_cons (r : Record) (p : String × Cell) (rest : List (String × Cell)) :
    r.written (p :: rest) = (r.written [p]).written rest := by
  funext name
  unfold written
  rw [lastListed_cons, lastListed_cons, lastListed_nil, Option.none_or, Option.or_assoc]

/-- **Writing cell after cell by position leaves the row of the record in which the last cell under
each name has won.** -/
theorem foldl_set_row {columns : List String} (hnodup : columns.Nodup)
    {cells : List (String × Cell)} (h : ∀ p ∈ cells, p.1 ∈ columns) (r : Record) :
    (cells.map fun p => (columns.idxOf p.1, p.2)).foldl (fun row p => row.set p.1 p.2)
      (r.row columns) = row columns (r.written cells) := by
  induction cells generalizing r with
  | nil => rfl
  | cons p rest ih =>
      rw [List.map_cons, List.foldl_cons, set_row hnodup (h p List.mem_cons_self),
        ih fun q hq => h q (List.mem_cons_of_mem _ hq), ← written_cons]

theorem covers_inserted (columns : List String) (listed : List (String × Cell)) :
    (inserted columns listed).Covers columns := by
  intro name
  unfold inserted
  by_cases h : name ∈ columns
  · simp [h]
  · simp [h]

theorem Covers.written {r : Record} {columns : List String} (h : r.Covers columns)
    {assigned : List (String × Cell)} (hassigned : ∀ p ∈ assigned, p.1 ∈ columns) :
    (r.written assigned).Covers columns := by
  intro name
  unfold Record.written
  cases hl : lastListed assigned name with
  | none =>
      rw [Option.none_or]
      exact h name
  | some cell =>
      obtain ⟨p, hp, rfl⟩ := List.mem_map.1 (mem_of_lastListed hl)
      simp [hassigned p hp]

/-- A record is what its row lists. -/
theorem Covers.map_some_row {r : Record} {columns : List String} (h : r.Covers columns) :
    (r.row columns).map some = columns.map r := by
  unfold row
  rw [List.map_map]
  apply List.map_congr_left
  intro name hname
  obtain ⟨cell, hcell⟩ := Option.isSome_iff_exists.1 ((h name).2 hname)
  show some ((r name).getD .null) = r name
  rw [hcell]
  rfl

end Record

/-! ## §3. The rows of the statements. -/

namespace Table

variable {t : Table} {r : Record}

/-- INSERT builds the row of the inserted record. -/
theorem rowOf_eq (hnodup : t.columns.Nodup) {listed : List String}
    (hlisted : ∀ name ∈ listed, name ∈ t.columns) (tuple : List Cell) :
    t.rowOf ((listed.map t.place).zip tuple)
      = (Record.inserted t.columns (listed.zip tuple)).row t.columns := by
  have hzip : (listed.map t.place).zip tuple
      = (listed.zip tuple).map fun p => (t.columns.idxOf p.1, p.2) := by
    rw [List.zip_map_left]
    rfl
  -- INSERT starts from a row of NULLs, which is the row of the record of NULLs
  have hempty : List.replicate t.columns.length Cell.null
      = Record.row t.columns (fun _ => some .null) := by
    unfold Record.row
    rw [List.map_const']
    rfl
  have hmem : ∀ p ∈ listed.zip tuple, p.1 ∈ t.columns := fun p hp =>
    hlisted p.1 (List.of_mem_zip hp).1
  unfold rowOf
  rw [hzip, hempty, Record.foldl_set_row hnodup hmem]
  apply Record.row_congr
  intro name hname
  unfold Record.written Record.inserted
  rw [if_pos hname]
  cases lastListed (listed.zip tuple) name <;> rfl

/-- UPDATE writes the row of the written record. -/
theorem assign?_row (hnodup : t.columns.Nodup) {assignments : List (String × Cell)}
    (h : ∀ p ∈ assignments, p.1 ∈ t.columns) :
    Row.assign? (r.row t.columns) (Statement.assignedCells assignments t)
      = some ((r.written assignments).row t.columns) := by
  have hcells : ∀ p ∈ Statement.assignedCells assignments t,
      p.1 < (r.row t.columns).length := by
    intro p hp
    obtain ⟨a, ha, rfl⟩ := List.mem_map.1 hp
    rw [Record.row_length]
    exact List.idxOf_lt_length_of_mem (h a ha)
  rw [Row.assign?_eq hcells]
  exact congrArg some (Record.foldl_set_row hnodup h r)

/-- UPDATE picks a row by the cell of its record. -/
theorem isUpdated_row (hr : r.Covers t.columns) {condition : Condition}
    (h : condition.column ∈ t.columns) :
    Statement.isUpdated condition t (r.row t.columns) = r.isUpdated condition := by
  obtain ⟨cell, hcell⟩ := Option.isSome_iff_exists.1 ((hr condition.column).2 h)
  unfold Statement.isUpdated Record.isUpdated place
  rw [Record.getElem?_row h, hcell]
  rfl

/-- DELETE picks a row by the cell of its record. -/
theorem isKept_row (hr : r.Covers t.columns) {condition : Condition}
    (h : condition.column ∈ t.columns) :
    Statement.isKept condition t (r.row t.columns) = !r.isDeleted condition := by
  obtain ⟨cell, hcell⟩ := Option.isSome_iff_exists.1 ((hr condition.column).2 h)
  unfold Statement.isKept Record.isDeleted place
  rw [Record.getElem?_row h, hcell]
  rfl

/-- SELECT reads the cells of the shown columns. -/
theorem placesIn_row {projection : Projection}
    (h : ∀ name ∈ projection.columnsIn t, name ∈ t.columns) :
    ((projection.placesIn t).map fun i => (r.row t.columns)[i]?.getD .null)
      = r.row (projection.columnsIn t) := by
  cases projection with
  | all =>
      show (List.range t.columns.length).map (fun i => (r.row t.columns)[i]?.getD .null)
        = r.row t.columns
      -- a star shows every place in turn, so the row itself
      apply List.ext_getElem?
      intro i
      rw [List.getElem?_map]
      by_cases hi : i < t.columns.length
      · have hlt : i < (r.row t.columns).length := by
          rw [Record.row_length]
          exact hi
        rw [List.getElem?_range hi]
        show some ((r.row t.columns)[i]?.getD .null) = (r.row t.columns)[i]?
        rw [List.getElem?_eq_getElem hlt]
        rfl
      · have hge : (r.row t.columns).length ≤ i := by
          rw [Record.row_length]
          omega
        rw [List.getElem?_eq_none (by simpa using hi), List.getElem?_eq_none hge]
        rfl
  | columns names =>
      show (names.map t.place).map (fun i => (r.row t.columns)[i]?.getD .null) = r.row names
      rw [List.map_map]
      apply List.map_congr_left
      intro name hname
      show (r.row t.columns)[t.columns.idxOf name]?.getD .null = (r name).getD .null
      rw [Record.getElem?_row (h name hname)]
      rfl

end Table

end SmallSql
