/-
  SmallSql.Proofs.Checked.Rows
  ────────────────────────────────
  Integer views and edits of tables with every stop made visible.  Each operation that could crash
  is guarded from afar:

      integer view   a sign is one byte long, digits end between two characters, and a magnitude
                     that 64 bits hold can be negated
      append         rows are made with the width of the table
      write          positions lie inside the rows
      retain         no more rows are left than there were
      remove         the position is one that was found
-/
import SmallSql.Proofs.Catalog.Edits
import SmallSql.Proofs.Checked.Cursor
import SmallSql.Proofs.Statement.Sufficiency

namespace SmallSql.Checked

variable {ε : Type}

/-! ## §1. Integer views. -/

/-- What stands behind the first `n` bytes. -/
def textFrom (n : Nat) (cs : List Char) : Checked ε (List Char) :=
  match Text.splitAtByte n cs with
  | some (_, behind) => .ok behind
  | none => .error (.crash .slice)

/-- The first `n` bytes. -/
def textUpTo (n : Nat) (cs : List Char) : Checked ε (List Char) :=
  match Text.splitAtByte n cs with
  | some (before, _) => .ok before
  | none => .error (.crash .slice)

/-- The opposite of a signed 64-bit integer. -/
def negated (n : Int) : Checked ε Int :=
  if -(Cell.maxMagnitude : Int) - 1 ≤ -n ∧ -n ≤ Cell.maxMagnitude then .ok (-n)
  else .error (.crash .overflow)

/-- The number behind one more digit; none if 64 bits do not hold it. -/
def digitBehind? (n : Nat) (c : Char) : Option Nat :=
  let next := 10 * n + (c.toNat - '0'.toNat)
  if next ≤ Cell.maxMagnitude then some next else none

/-- The number that digits write, digit by digit. -/
def parseDigits? (digits : List Char) : Option Nat := digits.foldlM digitBehind? 0

/-- Takes an optional sign off the text: whether it was a minus, and the rest. -/
def splitSign (cs : List Char) : Checked ε (Bool × List Char) :=
  match cs.head? with
  | some '-' => do return (true, ← textFrom 1 cs)
  | some '+' => do return (false, ← textFrom 1 cs)
  | _ => return (false, cs)

/-- The integer that a text begins with. -/
def leadingIntegerOf (cs : List Char) : Checked ε (Option Int) := do
  let (negative, digits) ← splitSign (Text.trimStart cs)
  -- a position in bytes, which could cut a character
  let stop := Text.byteSize (digits.takeWhile Text.isDigit)
  if stop = 0 then return none
  match parseDigits? (← textUpTo stop digits) with
  | none => return none
  | some magnitude => if negative then return some (← negated magnitude) else return some magnitude

/-- The integer view of a cell. -/
def leadingInteger : Cell → Checked ε (Option Int)
  | .null => return none
  | .text content => leadingIntegerOf content.toList

/-- Whether a row stays: it goes only if both sides have an integer view and the order holds. -/
def keepsUnless (holds : Int → Int → Bool) (stored value : Cell) : Checked ε Bool := do
  match ← leadingInteger stored, ← leadingInteger value with
  | some a, some b => return !holds a b
  | _, _ => return true

/-- Whether DELETE keeps a row with this cell in the column of its condition. -/
def keeps (condition : Condition) (stored : Cell) : Checked ε Bool :=
  match condition.comparison with
  | .eq => return stored != condition.value
  | .ne => return stored == condition.value
  | .lt => keepsUnless (fun a b => decide (a < b)) stored condition.value
  | .le => keepsUnless (fun a b => decide (a ≤ b)) stored condition.value
  | .gt => keepsUnless (fun a b => decide (a > b)) stored condition.value
  | .ge => keepsUnless (fun a b => decide (a ≥ b)) stored condition.value

/-- A text can be cut behind any of its parts. -/
theorem textFrom_append (before behind : List Char) :
    (textFrom (Text.byteSize before) (before ++ behind) : Checked ε (List Char)) = .ok behind := by
  unfold textFrom
  rw [Text.splitAtByte_append]

theorem textUpTo_append (before behind : List Char) :
    (textUpTo (Text.byteSize before) (before ++ behind) : Checked ε (List Char))
      = .ok before := by
  unfold textUpTo
  rw [Text.splitAtByte_append]

theorem byteSize_eq_zero {cs : List Char} : Text.byteSize cs = 0 ↔ cs.isEmpty = true := by
  cases cs with
  | nil => simp [Text.byteSize]
  | cons c rest =>
      have hc := c.utf8Size_pos
      simp [Text.byteSize]
      omega

/-- A character of one byte can be taken off. -/
theorem textFrom_one {c : Char} (hc : c.utf8Size = 1) (rest : List Char) :
    (textFrom 1 (c :: rest) : Checked ε (List Char)) = .ok rest := by
  have hbyte : Text.byteSize [c] = 1 := by
    simp [Text.byteSize, hc]
  have hcut := textFrom_append (ε := ε) [c] rest
  rwa [hbyte] at hcut

theorem splitSign_eq (cs : List Char) :
    (splitSign cs : Checked ε (Bool × List Char)) = .ok (Cell.splitSign cs) := by
  unfold splitSign Cell.splitSign
  split
  · next h =>
    obtain ⟨rest, rfl⟩ := List.head?_eq_some_iff.1 h
    rw [textFrom_one (by decide)]
    rfl
  · next h =>
    obtain ⟨rest, rfl⟩ := List.head?_eq_some_iff.1 h
    rw [textFrom_one (by decide)]
    rfl
  · next hminus hplus =>
    cases cs with
    | nil => rfl
    | cons c rest =>
        split
        · next heq =>
          cases heq
          exact absurd rfl hminus
        · next heq =>
          cases heq
          exact absurd rfl hplus
        · rfl

/-- More digits make no number smaller. -/
theorem le_foldl_digits (digits : List Char) :
    ∀ n : Nat, n ≤ digits.foldl (fun n c => 10 * n + (c.toNat - '0'.toNat)) n := by
  induction digits with
  | nil =>
      intro n
      exact Nat.le_refl n
  | cons c rest ih =>
      intro n
      have hstep : n ≤ 10 * n + (c.toNat - '0'.toNat) := by omega
      rw [List.foldl_cons]
      exact Nat.le_trans hstep (ih _)

/-- A number that is too much after some digits is too much after all of them, so nothing is lost by
stopping there. -/
theorem foldlM_digitBehind? (digits : List Char) :
    ∀ n ≤ Cell.maxMagnitude, digits.foldlM digitBehind? n
      = if digits.foldl (fun n c => 10 * n + (c.toNat - '0'.toNat)) n ≤ Cell.maxMagnitude then
          some (digits.foldl (fun n c => 10 * n + (c.toNat - '0'.toNat)) n)
        else none := by
  induction digits with
  | nil =>
      intro n hn
      rw [List.foldlM_nil, List.foldl_nil, if_pos hn]
      rfl
  | cons c rest ih =>
      intro n hn
      rw [List.foldlM_cons, List.foldl_cons]
      unfold digitBehind?
      by_cases hnext : 10 * n + (c.toNat - '0'.toNat) ≤ Cell.maxMagnitude
      · rw [if_pos hnext]
        exact ih _ hnext
      · -- the digits that are left cannot bring the number back into range
        have hgrows := le_foldl_digits rest (10 * n + (c.toNat - '0'.toNat))
        rw [if_neg hnext, if_neg (by omega)]
        rfl

theorem parseDigits?_eq (digits : List Char) :
    parseDigits? digits = if Cell.digitsValue digits ≤ Cell.maxMagnitude then
      some (Cell.digitsValue digits) else none :=
  foldlM_digitBehind? digits 0 (Nat.zero_le _)

/-- A magnitude has an opposite: there is one more negative integer than there are positive ones. -/
theorem negated_of_le {n : Nat} (h : n ≤ Cell.maxMagnitude) :
    (negated n : Checked ε Int) = .ok (-(n : Int)) := by
  unfold negated
  rw [if_pos (by omega)]

/-- **The integer view of a text is worked out without a crash.** -/
theorem leadingIntegerOf_eq (cs : List Char) :
    (leadingIntegerOf cs : Checked ε (Option Int)) = .ok (Cell.leadingIntegerOf cs) := by
  unfold leadingIntegerOf Cell.leadingIntegerOf
  rw [splitSign_eq]
  obtain ⟨negative, signed⟩ := Cell.splitSign (Text.trimStart cs)
  dsimp only
  show (if _ then _ else _) = _
  by_cases hnone : (signed.takeWhile Text.isDigit).isEmpty = true
  · rw [if_pos (byteSize_eq_zero.2 hnone), if_pos hnone]
    rfl
  · -- what is behind the digits begins with a character of its own, so nothing is cut
    have hcut : (textUpTo (Text.byteSize (signed.takeWhile Text.isDigit)) signed
        : Checked ε (List Char)) = .ok (signed.takeWhile Text.isDigit) := by
      have hparts := textUpTo_append (ε := ε) (signed.takeWhile Text.isDigit)
        (signed.dropWhile Text.isDigit)
      rwa [List.takeWhile_append_dropWhile] at hparts
    rw [if_neg (fun h => hnone (byteSize_eq_zero.1 h)), if_neg hnone, hcut, ok_bind,
      parseDigits?_eq]
    by_cases hheld : Cell.digitsValue (signed.takeWhile Text.isDigit) ≤ Cell.maxMagnitude
    · rw [if_pos hheld, if_pos hheld]
      cases negative with
      | false => rfl
      | true =>
          show (negated _ >>= fun opposite => pure (some opposite)) = _
          rw [negated_of_le hheld]
          rfl
    · rw [if_neg hheld, if_neg hheld]
      rfl

theorem leadingInteger_eq (cell : Cell) :
    (leadingInteger cell : Checked ε (Option Int)) = .ok cell.leadingInteger := by
  cases cell with
  | null => rfl
  | text content => exact leadingIntegerOf_eq content.toList

theorem keepsUnless_eq (holds : Int → Int → Bool) (stored value : Cell) :
    (keepsUnless holds stored value : Checked ε Bool)
      = .ok (!match stored.leadingInteger, value.leadingInteger with
        | some a, some b => holds a b
        | _, _ => false) := by
  unfold keepsUnless
  rw [leadingInteger_eq, leadingInteger_eq, ok_bind, ok_bind]
  cases stored.leadingInteger with
  | none => rfl
  | some a => cases value.leadingInteger <;> rfl

/-- Whether DELETE keeps a row is worked out without a crash. -/
theorem keeps_eq (condition : Condition) (stored : Cell) :
    (keeps condition stored : Checked ε Bool) = .ok (!condition.selects stored) := by
  unfold keeps Condition.selects
  cases condition.comparison with
  | eq => rfl
  | ne =>
      show Except.ok _ = Except.ok _
      simp [bne]
  | lt | le | gt | ge => exact keepsUnless_eq _ _ _

/-! ## §2. Edits of tables. -/

/-- Writes cells at positions of a row, one after the other. -/
def assign (row : Row) (cells : List (Nat × Cell)) : Checked ε Row :=
  cells.foldlM (fun row p => setAt row p.1 p.2) row

/-- Writes the cells into every row that `hit` selects, and counts those rows. -/
def updateWhere (t : Table) (cells : List (Nat × Cell)) (hit : Row → Bool) :
    Checked ε (Table × Nat) := do
  let rows ← t.rows.mapM fun row => if hit row then assign row cells else return row
  return ({ t with rows := rows }, t.rows.countP hit)

/-- Pushes a row onto a table, which asserts that it fits. -/
def pushRow (t : Table) (row : Row) : Checked ε Table :=
  if row.length = t.columns.length then .ok (t.append [row]) else .error (.crash .width)

/-- The rows for which `keep` holds. -/
def keptRows (keep : Row → Checked ε Bool) : List Row → Checked ε (List Row)
  | [] => return []
  | row :: rest => do
    if ← keep row then return row :: (← keptRows keep rest) else keptRows keep rest

/-- Keeps the rows for which `keep` holds, and says how many fewer there are. -/
def retainRows (t : Table) (keep : Row → Checked ε Bool) : Checked ε (Table × Nat) := do
  let rows ← keptRows keep t.rows
  return ({ t with rows := rows }, ← difference t.rows.length rows.length)

/-- Takes the first element that `wanted` selects off a list, by its position. -/
def removeFirst {α : Type} (wanted : α → Bool) (xs : List α) :
    Checked ε (Option (α × List α)) :=
  match xs.findIdx? wanted with
  | some i => do return some (← elementAt xs i, ← removeAt xs i)
  | none => return none

/-- Writes inside the row do not crash. -/
theorem assign_eq (cells : List (Nat × Cell)) :
    ∀ row : Row, (∀ p ∈ cells, p.1 < row.length) →
      (assign row cells : Checked ε Row)
        = .ok (cells.foldl (fun row p => row.set p.1 p.2) row) := by
  unfold assign
  induction cells with
  | nil =>
      intro row _
      rfl
  | cons p rest ih =>
      intro row h
      have hrest : ∀ q ∈ rest, q.1 < (row.set p.1 p.2).length := by
        intro q hq
        rw [List.length_set]
        exact h q (List.mem_cons_of_mem _ hq)
      rw [List.foldlM_cons, setAt_of_lt (h p List.mem_cons_self), ok_bind, List.foldl_cons,
        ih _ hrest]

/-- A change of every element that may crash, when it does not. -/
theorem mapM_eq_ok {α β : Type} {f : α → Checked ε β} {g : α → β} {xs : List α}
    (h : ∀ a ∈ xs, f a = .ok (g a)) : xs.mapM f = .ok (xs.map g) := by
  induction xs with
  | nil => rfl
  | cons a rest ih =>
      have hrest : ∀ b ∈ rest, f b = .ok (g b) := fun b hb => h b (List.mem_cons_of_mem _ hb)
      rw [List.mapM_cons, h a List.mem_cons_self, ok_bind, ih hrest, ok_bind, List.map_cons]
      rfl

/-- **UPDATE writes past no row** if its positions lie inside the rows. -/
theorem updateWhere_eq {t : Table} {cells : List (Nat × Cell)} (hit : Row → Bool)
    (h : ∀ row ∈ t.rows, ∀ p ∈ cells, p.1 < row.length) :
    (updateWhere t cells hit : Checked ε (Table × Nat))
      = .ok (Statement.overwrite t cells hit) := by
  have hrows : (t.rows.mapM fun row => if hit row then assign row cells else pure row)
      = (.ok (t.rows.map (Statement.overwritten cells hit)) : Checked ε (List Row)) := by
    apply mapM_eq_ok
    intro row hrow
    unfold Statement.overwritten
    by_cases hhit : hit row = true
    · rw [if_pos hhit, if_pos hhit, assign_eq cells row (h row hrow)]
    · rw [if_neg hhit, if_neg hhit]
      rfl
  unfold updateWhere
  rw [hrows]
  rfl

/-- Rows of the width of the table can be pushed. -/
theorem foldlM_pushRow (rows : List Row) :
    ∀ t : Table, (∀ row ∈ rows, row.length = t.columns.length) →
      (rows.foldlM pushRow t : Checked ε Table) = .ok (t.append rows) := by
  induction rows with
  | nil =>
      intro t _
      show Except.ok t = Except.ok _
      simp [Table.append]
  | cons row rest ih =>
      intro t h
      have hfits : (pushRow t row : Checked ε Table) = .ok (t.append [row]) :=
        if_pos (h row List.mem_cons_self)
      have hrest : ∀ r ∈ rest, r.length = (t.append [row]).columns.length :=
        fun r hr => h r (List.mem_cons_of_mem _ hr)
      rw [List.foldlM_cons, hfits, ok_bind, ih _ hrest]
      simp [Table.append]

theorem keptRows_eq {keep : Row → Checked ε Bool} {kept : Row → Bool}
    (h : ∀ row, keep row = .ok (kept row)) (rows : List Row) :
    keptRows keep rows = .ok (rows.filter kept) := by
  induction rows with
  | nil => rfl
  | cons row rest ih =>
      unfold keptRows
      rw [h, ok_bind, ih, List.filter_cons]
      by_cases hkept : kept row = true
      · rw [if_pos hkept, if_pos hkept]
        rfl
      · rw [if_neg hkept, if_neg hkept]

/-- **The count of DELETE does not go below zero**: what is kept is a part of what there was. -/
theorem retainRows_eq {keep : Row → Checked ε Bool} {kept : Row → Bool}
    (h : ∀ row, keep row = .ok (kept row)) (t : Table) :
    retainRows t keep = .ok (t.retain kept) := by
  -- every row is either kept or counted
  have hcount : t.rows.length - (t.rows.filter kept).length = t.rows.countP fun row => !kept row := by
    have hall := List.length_eq_countP_add_countP kept (l := t.rows)
    rw [List.countP_eq_length_filter] at hall
    simp only [Bool.not_eq_true, Bool.decide_eq_false] at hall
    omega
  unfold retainRows
  rw [keptRows_eq h, ok_bind, difference_of_le (List.length_filter_le kept t.rows), ok_bind, hcount]
  rfl

/-- The position of an element that was found can be read and removed. -/
theorem removeFirst_eq {α : Type} (wanted : α → Bool) (xs : List α) :
    (removeFirst wanted xs : Checked ε (Option (α × List α)))
      = .ok ((xs.find? wanted).map fun a => (a, xs.eraseP wanted)) := by
  unfold removeFirst
  rw [List.find?_eq_bind_findIdx?_getElem?, List.eraseP_eq_eraseIdx]
  cases hfound : xs.findIdx? wanted with
  | none => rfl
  | some i =>
      -- the position was found in this very list, so it lies inside
      obtain ⟨hi, -⟩ := List.findIdx?_eq_some_iff_getElem.1 hfound
      have hread : (elementAt xs i : Checked ε α) = .ok xs[i] :=
        elementAt_eq_ok (List.getElem?_eq_getElem hi)
      have hremoved : (removeAt xs i : Checked ε (List α)) = .ok (xs.eraseIdx i) := if_pos hi
      show (elementAt xs i >>= fun a => removeAt xs i >>= fun rest => pure (some (a, rest))) = _
      rw [hread, ok_bind, hremoved, ok_bind, Option.bind_some, List.getElem?_eq_getElem hi]
      rfl

end SmallSql.Checked
