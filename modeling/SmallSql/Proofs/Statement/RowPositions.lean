/-
  SmallSql.Proofs.Statement.RowPositions
  ────────────────────────────────
  Which rows an UPDATE or a DELETE affects.  Rows may be equal, so a row is told by its position:

      positions hit       0 ── ── ── n        the rows that `hit` selects
      without             the rows at the other positions, in their order
      writtenAt           every row in its place, with cells written into those selected

  What DELETE leaves and UPDATE writes is said by such a set of positions, and the number that they
  answer with is its size.
-/
import Mathlib.Data.Finset.Card
import Mathlib.Data.Finset.Range
import SmallSql.Proofs.Statement.Sufficiency

namespace SmallSql

/-! ## §1. Sets of rows. -/

/-- The set is cut into two parts. -/
structure Splits (whole a b : Finset Nat) : Prop where
  disjoint : Disjoint a b
  together : a ∪ b = whole

/-- The row with cells written at positions, one after the other. -/
def Row.written (cells : List (Nat × Cell)) (row : Row) : Row :=
  cells.foldl (fun row p => row.set p.1 p.2) row

namespace Table

/-- The positions of the rows that `hit` selects. -/
def positions (t : Table) (hit : Row → Bool) : Finset Nat :=
  (Finset.range t.rows.length).filter fun i => t.rows[i]?.any hit = true

/-- The table without the rows at these positions. -/
def without (t : Table) (gone : Finset Nat) : Table :=
  { t with rows := (t.rows.zipIdx.filter fun p => p.2 ∉ gone).map (·.1) }

/-- The table with the cells written into the rows at these positions. -/
def writtenAt (t : Table) (hits : Finset Nat) (cells : List (Nat × Cell)) : Table :=
  { t with rows := t.rows.mapIdx fun i row => if i ∈ hits then row.written cells else row }

variable {t : Table} {p q whole : Row → Bool}

theorem mem_positions {i : Nat} :
    i ∈ t.positions p ↔ ∃ row, t.rows[i]? = some row ∧ p row = true := by
  unfold positions
  rw [Finset.mem_filter, Finset.mem_range]
  constructor
  · rintro ⟨hi, hp⟩
    rw [List.getElem?_eq_getElem hi] at hp ⊢
    exact ⟨_, rfl, hp⟩
  · rintro ⟨row, hrow, hp⟩
    refine ⟨(List.getElem?_eq_some_iff.1 hrow).1, ?_⟩
    rw [hrow]
    exact hp

theorem mem_positions_of_getElem? {i : Nat} {row : Row} (h : t.rows[i]? = some row) :
    i ∈ t.positions p ↔ p row = true := by
  rw [mem_positions, h]
  simp

/-- Only what is selected of the rows of the table matters. -/
theorem positions_congr (h : ∀ row ∈ t.rows, p row = q row) : t.positions p = t.positions q := by
  ext i
  rw [mem_positions, mem_positions]
  refine exists_congr fun row => and_congr_right fun hrow => ?_
  rw [h row (List.mem_of_getElem? hrow)]

/-- Where no row is selected, there are no positions. -/
theorem positions_eq_empty (h : ∀ row ∈ t.rows, p row = false) : t.positions p = ∅ := by
  refine Finset.eq_empty_of_forall_notMem fun i hi => ?_
  obtain ⟨row, hrow, hp⟩ := mem_positions.1 hi
  rw [h row (List.mem_of_getElem? hrow)] at hp
  cases hp

theorem positions_all (t : Table) : t.positions (fun _ => true) = Finset.range t.rows.length := by
  ext i
  rw [mem_positions, Finset.mem_range]
  constructor
  · rintro ⟨row, hrow, -⟩
    exact (List.getElem?_eq_some_iff.1 hrow).1
  · intro hi
    exact ⟨_, List.getElem?_eq_getElem hi, rfl⟩

/-- Two selections that never meet and give a third together cut its rows into two parts. -/
theorem splits_positions (hapart : ∀ row ∈ t.rows, (p row && q row) = false)
    (htogether : ∀ row ∈ t.rows, (p row || q row) = whole row) :
    Splits (t.positions whole) (t.positions p) (t.positions q) where
  disjoint := by
    refine Finset.disjoint_left.2 fun i hp hq => ?_
    obtain ⟨row, hrow, hp⟩ := mem_positions.1 hp
    rw [mem_positions_of_getElem? hrow] at hq
    have hnever := hapart row (List.mem_of_getElem? hrow)
    rw [hp, hq] at hnever
    cases hnever
  together := by
    rw [← positions_congr htogether]
    ext i
    rw [Finset.mem_union, mem_positions, mem_positions, mem_positions, ← exists_or]
    refine exists_congr fun row => ?_
    rw [← and_or_left, Bool.or_eq_true]

/-- There are as many positions as selected rows. -/
theorem card_positions (t : Table) (p : Row → Bool) : (t.positions p).card = t.rows.countP p := by
  unfold positions
  -- from the end, because a row in front would move the positions of the others
  induction t.rows using List.reverseRecOn with
  | nil => rfl
  | append_singleton rows row ih =>
      have hfront : (Finset.range rows.length).filter (fun i => (rows ++ [row])[i]?.any p = true)
          = (Finset.range rows.length).filter fun i => rows[i]?.any p = true := by
        refine Finset.filter_congr fun i hi => ?_
        rw [List.getElem?_append_left (Finset.mem_range.1 hi)]
      have hlast : (rows ++ [row])[rows.length]?.any p = p row := by simp
      rw [List.length_append, List.length_singleton, Finset.range_add_one, Finset.filter_insert,
        hfront, hlast, List.countP_append, ← ih]
      by_cases hp : p row = true
      · rw [if_pos hp, Finset.card_insert_of_notMem (by simp)]
        simp [hp]
      · rw [if_neg hp]
        simp [hp]

/-! ## §2. Rows taken out and rows written. -/

/-- Keeping rows takes the others out. -/
theorem retain_eq_without (t : Table) (keep : Row → Bool) :
    t.retain keep = (t.without (t.positions fun row => !keep row),
      (t.positions fun row => !keep row).card) := by
  have hrows : t.rows.filter keep
      = (t.rows.zipIdx.filter fun p => p.2 ∉ t.positions fun row => !keep row).map (·.1) := by
    -- a row is kept for what it is, so its position may be left out again
    have hkept : t.rows.zipIdx.filter (fun p => p.2 ∉ t.positions fun row => !keep row)
        = t.rows.zipIdx.filter (keep ∘ (·.1)) := by
      refine List.filter_congr fun p hp => ?_
      have hrow := List.mem_zipIdx_iff_getElem?.1 hp
      simp [mem_positions_of_getElem? hrow]
    rw [hkept, ← List.filter_map, List.zipIdx_map_fst]
  unfold retain without
  rw [card_positions, ← hrows]

/-- Writing into the rows that are selected writes at their positions. -/
theorem overwrite_eq_writtenAt (t : Table) (cells : List (Nat × Cell)) (hit : Row → Bool) :
    Statement.overwrite t cells hit
      = (t.writtenAt (t.positions hit) cells, (t.positions hit).card) := by
  have hrows : t.rows.map (Statement.overwritten cells hit)
      = t.rows.mapIdx fun i row => if i ∈ t.positions hit then row.written cells else row := by
    apply List.ext_getElem?
    intro i
    rw [List.getElem?_map, List.getElem?_mapIdx]
    cases hrow : t.rows[i]? with
    | none => rfl
    | some row =>
        simp only [Option.map_some, mem_positions_of_getElem? hrow]
        rfl
  unfold Statement.overwrite writtenAt
  rw [card_positions, hrows]

end Table

namespace Statement

/-! ## §3. The rows of UPDATE and DELETE. -/

/-- The rows that DELETE removes. -/
def deletedRows (condition : Condition) (t : Table) : Finset Nat :=
  t.positions fun row => !isKept condition t row

/-- The rows that UPDATE writes into. -/
def updatedRows (condition : Condition) (t : Table) : Finset Nat :=
  t.positions (isUpdated condition t)

variable {c : Catalog} {s : Selection} {db : Database} {name : String} {t : Table}

/-- UPDATE writes its cells into its rows and counts them. -/
theorem updateWhere?_eq_writtenAt {assignments : List (String × Cell)} {condition : Condition}
    (ht : t.Rectangular)
    (hnamed : ∀ n ∈ (update name assignments condition).namedColumns, n ∈ t.columns) :
    t.updateWhere? (assignedCells assignments t) (isUpdated condition t)
      = some (t.writtenAt (updatedRows condition t) (assignedCells assignments t),
        (updatedRows condition t).card) := by
  rw [updateWhere?_eq_overwrite _ (assignedCells_lt ht hnamed), Table.overwrite_eq_writtenAt]
  rfl

/-- **DELETE removes its rows and counts them.** -/
theorem run_delete_rows {condition : Condition} (hdb : s.current? c = some db)
    (ht : db.table? name = some t) (hcolumn : condition.column ∈ t.columns) :
    (delete name condition).run c s = .ok (deleteEffect name c s
      (t.without (deletedRows condition t), (deletedRows condition t).card)) := by
  have htarget : (delete name condition).target name c s = .ok t :=
    target_eq_ok_of hdb ht (by simpa [namedColumns] using hcolumn) rfl
  rw [run_delete, htarget, ok_bind, Table.retain_eq_without]
  rfl

/-- **UPDATE writes into its rows and counts them.** -/
theorem run_update_rows {assignments : List (String × Cell)} {condition : Condition}
    (hdb : s.current? c = some db) (ht : db.table? name = some t) (hrows : t.Rectangular)
    (hassigned : ∀ a ∈ assignments, a.1 ∈ t.columns) (hcolumn : condition.column ∈ t.columns) :
    (update name assignments condition).run c s = .ok (updateEffect name c s
      (t.writtenAt (updatedRows condition t) (assignedCells assignments t),
        (updatedRows condition t).card)) := by
  have hnamed : ∀ n ∈ (update name assignments condition).namedColumns, n ∈ t.columns := by
    intro n hn
    rcases List.mem_append.1 hn with hn | hn
    · obtain ⟨a, ha, rfl⟩ := List.mem_map.1 hn
      exact hassigned a ha
    · rw [List.mem_singleton.1 hn]
      exact hcolumn
  have htarget : (update name assignments condition).target name c s = .ok t :=
    target_eq_ok_of hdb ht hnamed rfl
  rw [run_update, htarget, ok_bind, updateWhere?_eq_writtenAt hrows hnamed]

end Statement

end SmallSql
