/-
  SmallSql.Proofs.Statement.Comparisons
  ────────────────────────────────
  What the six comparisons of a DELETE have to do with each other.  For one column and one value,

      all rows                     =    D(=)  +  D(!=)
      rows with an integer view    =    D(<)  +  D(>=)    =    D(>)  +  D(<=)
      D(<=)                        =    D(<)  +  rows with the same integer view

  the second and third where the value has an integer view; where it has none, the four orders
  select nothing.  An UPDATE writes into the rows of D(=).
-/
import SmallSql.Proofs.Statement.RowPositions

namespace SmallSql

/-! ## §1. One cell. -/

/-- A comparison by size, with the order that it asks for. -/
def Comparison.order? : Comparison → Option (Int → Int → Bool)
  | .eq | .ne => none
  | .lt => some fun a b => decide (a < b)
  | .le => some fun a b => decide (a ≤ b)
  | .gt => some fun a b => decide (a > b)
  | .ge => some fun a b => decide (a ≥ b)

/-- A comparison by size selects where both sides have an integer view and the order holds. -/
theorem Condition.selects_of_order? {op : Comparison} {holds : Int → Int → Bool}
    (h : op.order? = some holds) (column : String) (v cell : Cell) :
    selects ⟨column, op, v⟩ cell
      = cell.leadingInteger.any fun a => v.leadingInteger.any fun b => holds a b := by
  cases op with
  | eq | ne => cases h
  | lt | le | gt | ge =>
      cases h
      unfold selects
      dsimp only
      cases cell.leadingInteger with
      | none => rfl
      | some a => cases v.leadingInteger <;> rfl

/-- Beside a value with an integer view, only the view of the cell matters. -/
theorem Condition.selects_of_view {op : Comparison} {holds : Int → Int → Bool}
    (h : op.order? = some holds) {v : Cell} {b : Int} (hb : v.leadingInteger = some b)
    (column : String) (cell : Cell) :
    selects ⟨column, op, v⟩ cell = cell.leadingInteger.any fun a => holds a b := by
  rw [selects_of_order? h, hb]
  rfl

/-- The cell of a row in a column. -/
def Table.cellOf (t : Table) (column : String) (row : Row) : Cell :=
  row[t.place column]?.getD .null

/-- In a row as wide as the table, the cell of a column is there. -/
theorem Table.getElem?_place {t : Table} {column : String} (hcolumn : column ∈ t.columns)
    {row : Row} (hrow : row.length = t.columns.length) :
    row[t.place column]? = some (t.cellOf column row) := by
  have hlt : t.place column < row.length := by
    rw [hrow]
    exact List.idxOf_lt_length_of_mem hcolumn
  unfold cellOf
  rw [List.getElem?_eq_getElem hlt]
  rfl

namespace Statement

variable {t : Table} {column : String} {v : Cell} {b : Int}

/-! ## §2. The rows of the comparisons. -/

/-- DELETE removes the rows whose cell its condition selects. -/
theorem deletedRows_eq (t : Table) (column : String) (op : Comparison) (v : Cell) :
    deletedRows ⟨column, op, v⟩ t
      = t.positions fun row => Condition.selects ⟨column, op, v⟩ (t.cellOf column row) := by
  unfold deletedRows isKept
  simp only [Bool.not_not]
  rfl

/-- The rows whose cell in the column has an integer view. -/
def viewedRows (column : String) (t : Table) : Finset Nat :=
  t.positions fun row => (t.cellOf column row).leadingInteger.isSome

/-- The rows whose cell in the column has this integer view. -/
def sameViewRows (column : String) (b : Int) (t : Table) : Finset Nat :=
  t.positions fun row => (t.cellOf column row).leadingInteger == some b

/-- Two orders that are never true together, one of which is always true, cut the rows with an
integer view into two parts. -/
theorem splits_viewedRows {op op' : Comparison} {holds holds' : Int → Int → Bool}
    (h : op.order? = some holds) (h' : op'.order? = some holds') (hb : v.leadingInteger = some b)
    (hcomplement : ∀ a, holds' a b = !holds a b) :
    Splits (viewedRows column t) (deletedRows ⟨column, op, v⟩ t)
      (deletedRows ⟨column, op', v⟩ t) := by
  rw [deletedRows_eq, deletedRows_eq]
  -- row by row: a cell without an integer view is selected by neither of the two
  refine Table.splits_positions ?_ ?_
  · intro row _
    rw [Condition.selects_of_view h hb, Condition.selects_of_view h' hb]
    cases (t.cellOf column row).leadingInteger with
    | none => rfl
    | some a => simp [hcomplement]
  · intro row _
    rw [Condition.selects_of_view h hb, Condition.selects_of_view h' hb]
    cases (t.cellOf column row).leadingInteger with
    | none => rfl
    | some a => simp [hcomplement]

/-- Up to a number are those below it and those that are the same. -/
theorem splits_le (hb : v.leadingInteger = some b) :
    Splits (deletedRows ⟨column, .le, v⟩ t) (deletedRows ⟨column, .lt, v⟩ t)
      (sameViewRows column b t) := by
  have hlt : Comparison.lt.order? = some fun a b => decide (a < b) := rfl
  have hle : Comparison.le.order? = some fun a b => decide (a ≤ b) := rfl
  rw [deletedRows_eq, deletedRows_eq]
  refine Table.splits_positions ?_ ?_
  · intro row _
    rw [Condition.selects_of_view hlt hb]
    cases (t.cellOf column row).leadingInteger with
    | none => rfl
    | some a =>
        simp only [Option.any_some, Option.some_beq_some, Bool.and_eq_false_imp,
          decide_eq_true_eq, beq_eq_false_iff_ne, ne_eq]
        omega
  · intro row _
    rw [Condition.selects_of_view hlt hb, Condition.selects_of_view hle hb]
    cases (t.cellOf column row).leadingInteger with
    | none => rfl
    | some a =>
        rw [Bool.eq_iff_iff]
        simp only [Option.any_some, Option.some_beq_some, Bool.or_eq_true, decide_eq_true_eq,
          beq_iff_eq]
        omega

/-- An order selects nothing beside a value without an integer view. -/
theorem deletedRows_of_no_view {op : Comparison} {holds : Int → Int → Bool}
    (h : op.order? = some holds) (hv : v.leadingInteger = none) :
    deletedRows ⟨column, op, v⟩ t = ∅ := by
  rw [deletedRows_eq]
  refine Table.positions_eq_empty fun row _ => ?_
  rw [Condition.selects_of_order? h, hv]
  cases (t.cellOf column row).leadingInteger <;> rfl

/-- Every row has the compared value or another one. -/
theorem splits_eq_ne (t : Table) (column : String) (v : Cell) :
    Splits (Finset.range t.rows.length) (deletedRows ⟨column, .eq, v⟩ t)
      (deletedRows ⟨column, .ne, v⟩ t) := by
  rw [deletedRows_eq, deletedRows_eq, ← Table.positions_all]
  refine Table.splits_positions ?_ ?_
  · intro row _
    simp [Condition.selects, bne]
  · intro row _
    simp [Condition.selects, bne]

/-- UPDATE writes into the rows that DELETE removes for equality. -/
theorem updatedRows_eq_deletedRows (ht : t.Rectangular) (hcolumn : column ∈ t.columns) (v : Cell) :
    updatedRows ⟨column, .eq, v⟩ t = deletedRows ⟨column, .eq, v⟩ t := by
  rw [deletedRows_eq]
  refine Table.positions_congr fun row hrow => ?_
  unfold isUpdated
  rw [Table.getElem?_place hcolumn (ht row hrow)]
  rfl

/-! ## §3. The comparisons together. -/

/-- What the deletions by a column and a value have to do with each other and with an update, where
`t` is the table of the name in the selected database. -/
structure ComparisonLaws (c : Catalog) (s : Selection) (name : String) (t : Table) (column : String)
    (v : Cell) : Prop where
  /-- DELETE leaves the rows that it does not remove as they are, and counts those that it
  removes. -/
  deletes : ∀ op, (delete name ⟨column, op, v⟩).run c s = .ok (deleteEffect name c s
    (t.without (deletedRows ⟨column, op, v⟩ t), (deletedRows ⟨column, op, v⟩ t).card))
  /-- A row has the value or has it not. -/
  equality : Splits (Finset.range t.rows.length) (deletedRows ⟨column, .eq, v⟩ t)
    (deletedRows ⟨column, .ne, v⟩ t)
  /-- The orders cut the rows with an integer view. -/
  orders : ∀ b, v.leadingInteger = some b →
    Splits (viewedRows column t) (deletedRows ⟨column, .lt, v⟩ t) (deletedRows ⟨column, .ge, v⟩ t)
      ∧ Splits (viewedRows column t) (deletedRows ⟨column, .gt, v⟩ t)
        (deletedRows ⟨column, .le, v⟩ t)
      ∧ Splits (deletedRows ⟨column, .le, v⟩ t) (deletedRows ⟨column, .lt, v⟩ t)
        (sameViewRows column b t)
  /-- Beside a value without an integer view, the orders remove nothing. -/
  noOrder : v.leadingInteger = none →
    ∀ op ∈ [Comparison.lt, .le, .gt, .ge], deletedRows ⟨column, op, v⟩ t = ∅
  /-- UPDATE writes into the rows that have the value, and counts them. -/
  updates : ∀ assignments, (∀ a ∈ assignments, a.1 ∈ t.columns) →
    (update name assignments ⟨column, .eq, v⟩).run c s = .ok (updateEffect name c s
      (t.writtenAt (deletedRows ⟨column, .eq, v⟩ t) (assignedCells assignments t),
        (deletedRows ⟨column, .eq, v⟩ t).card))

/-- **The comparisons of DELETE agree with each other and with UPDATE**, for every column and every
value, in every table whose rows have its width. -/
theorem comparisons_agree {c : Catalog} {s : Selection} {db : Database} {name : String}
    (hdb : s.current? c = some db) (htable : db.table? name = some t) (ht : t.Rectangular)
    (hcolumn : column ∈ t.columns) (v : Cell) : ComparisonLaws c s name t column v where
  deletes op := run_delete_rows hdb htable hcolumn
  equality := splits_eq_ne t column v
  orders b hb := by
    refine ⟨splits_viewedRows rfl rfl hb fun a => ?_, splits_viewedRows rfl rfl hb fun a => ?_,
      splits_le hb⟩
    · rw [← decide_not]
      exact decide_eq_decide.2 Int.not_lt.symm
    · rw [← decide_not]
      exact decide_eq_decide.2 Int.not_lt.symm
  noOrder hv op hop := by
    simp only [List.mem_cons, List.not_mem_nil, or_false] at hop
    rcases hop with rfl | rfl | rfl | rfl <;> exact deletedRows_of_no_view rfl hv
  updates assignments hassigned := by
    rw [run_update_rows hdb htable ht hassigned hcolumn, updatedRows_eq_deletedRows ht hcolumn]

/-- A table with one column that holds these cells. -/
def oneColumn (cells : List Cell) : Table where
  name := "notes"
  columns := ["id"]
  rows := cells.map fun cell => [cell]

/-- Two texts with the integer view five, a number below them, NULL and a word: compared with the
first of them, three rows are up to it and only one is equal. -/
theorem comparisons_agree_mixed :
    (Selection.of "SHOP").current?
        ⟨[⟨"shop", [oneColumn [.text "5", .text " 5kg", .text "-7", .null, .text "x"]]⟩]⟩
      = some ⟨"shop", [oneColumn [.text "5", .text " 5kg", .text "-7", .null, .text "x"]]⟩
    ∧ (oneColumn [.text "5", .text " 5kg", .text "-7", .null, .text "x"]).Rectangular
    ∧ deletedRows ⟨"id", .le, .text "5"⟩
        (oneColumn [.text "5", .text " 5kg", .text "-7", .null, .text "x"]) = {0, 1, 2}
    ∧ deletedRows ⟨"id", .eq, .text "5"⟩
        (oneColumn [.text "5", .text " 5kg", .text "-7", .null, .text "x"]) = {0}
    ∧ ComparisonLaws
        ⟨[⟨"shop", [oneColumn [.text "5", .text " 5kg", .text "-7", .null, .text "x"]]⟩]⟩
        (.of "SHOP") "NOTES" (oneColumn [.text "5", .text " 5kg", .text "-7", .null, .text "x"])
        "id" (.text "5") := by
  have hdb : (Selection.of "SHOP").current?
      ⟨[⟨"shop", [oneColumn [.text "5", .text " 5kg", .text "-7", .null, .text "x"]]⟩]⟩
      = some ⟨"shop", [oneColumn [.text "5", .text " 5kg", .text "-7", .null, .text "x"]]⟩ := by
    decide +kernel
  have htable : (⟨"shop", [oneColumn [.text "5", .text " 5kg", .text "-7", .null, .text "x"]]⟩
      : Database).table? "NOTES"
      = some (oneColumn [.text "5", .text " 5kg", .text "-7", .null, .text "x"]) := by
    decide +kernel
  have ht : (oneColumn [.text "5", .text " 5kg", .text "-7", .null, .text "x"]).Rectangular := by
    unfold Table.Rectangular
    decide
  exact ⟨hdb, ht, by decide +kernel, by decide +kernel,
    comparisons_agree hdb htable ht (List.mem_singleton_self _) (.text "5")⟩

end Statement

end SmallSql
