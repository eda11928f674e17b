/-
  SmallSql.Proofs.Statement.IntegerView
  ────────────────────────────────
  Which texts have an integer view, and what an ordering DELETE makes of it.  A text writes an
  integer if it is

      white space  sign  digits  rest            the rest beginning with no digit

  and its view is that integer, from -(2^63 - 1) to 2^63 - 1: the magnitude is bounded before the
  sign is put on it, so -2^63, the lowest signed integer of 64 bits, is written and has no view.
-/
import Mathlib.Data.Nat.Digits.Defs
import SmallSql.Proofs.Statement.Comparisons
import SmallSql.Proofs.Token.Gap

namespace SmallSql

/-! ## §1. Integers as they are written. -/

/-- What may stand in front of the digits of a number. -/
inductive Sign where
  | none
  | plus
  | minus
deriving DecidableEq, Repr

namespace Sign

/-- The sign as it is written. -/
def text : Sign → List Char
  | none => []
  | plus => ['+']
  | minus => ['-']

/-- The integer of this sign and magnitude. -/
def apply : Sign → Nat → Int
  | none, magnitude | plus, magnitude => magnitude
  | minus, magnitude => -magnitude

end Sign

/-- The number that decimal digits write, the last of them for the ones. -/
def decimalValue (digits : List Char) : Nat :=
  Nat.ofDigits 10 (digits.reverse.map fun c => c.toNat - '0'.toNat)

/-- The text begins with this integer: after white space and an optional sign come all the digits
that stand there, at least one. -/
inductive WritesInteger : List Char → Int → Prop
  | intro {blanks digits rest : List Char} (sign : Sign) (hblanks : Text.allBlank blanks = true)
      (hdigits : ∀ c ∈ digits, Text.isDigit c = true) (hne : digits ≠ [])
      (hrest : ∀ c ∈ rest.head?, Text.isDigit c = false) :
      WritesInteger (blanks ++ (sign.text ++ (digits ++ rest))) (sign.apply (decimalValue digits))

/-- A signed integer of 64 bits. -/
def IsInt64 (n : Int) : Prop := -2 ^ 63 ≤ n ∧ n < 2 ^ 63

instance (n : Int) : Decidable (IsInt64 n) :=
  inferInstanceAs (Decidable (-2 ^ 63 ≤ n ∧ n < 2 ^ 63))

/-- The lowest of the signed integers of 64 bits. -/
def lowestInt64 : Int := -2 ^ 63

/-- An integer that can be a view: one of 64 bits with a magnitude that is one as well. -/
def IsView (n : Int) : Prop := IsInt64 n ∧ n ≠ lowestInt64

instance (n : Int) : Decidable (IsView n) :=
  inferInstanceAs (Decidable (IsInt64 n ∧ n ≠ lowestInt64))

/-- Reading digit by digit gives the number that they write. -/
theorem digitsValue_eq_decimalValue (digits : List Char) :
    Cell.digitsValue digits = decimalValue digits := by
  -- from the end, where the last digit counts ones
  induction digits using List.reverseRecOn with
  | nil => rfl
  | append_singleton front c ih =>
      unfold Cell.digitsValue at ih ⊢
      unfold decimalValue at ih ⊢
      rw [List.foldl_append, List.reverse_append, List.reverse_singleton, List.singleton_append,
        List.map_cons, Nat.ofDigits_cons, ← ih]
      exact Nat.add_comm _ _

/-- A magnitude passes its bound exactly if the signed integer can be a view. -/
theorem magnitude_le_iff (sign : Sign) (magnitude : Nat) :
    magnitude ≤ Cell.maxMagnitude ↔ IsView (sign.apply magnitude) := by
  unfold Cell.maxMagnitude IsView IsInt64 lowestInt64
  cases sign with
  | none | plus =>
      show _ ↔ (-2 ^ 63 ≤ (magnitude : Int) ∧ (magnitude : Int) < _) ∧ (magnitude : Int) ≠ _
      omega
  | minus =>
      show _ ↔ (-2 ^ 63 ≤ -(magnitude : Int) ∧ -(magnitude : Int) < _) ∧ -(magnitude : Int) ≠ _
      omega

/-! ## §2. The view of a text. -/

/-- No digit is white space. -/
theorem isBlank_of_isDigit {c : Char} (h : Text.isDigit c = true) : Text.isBlank c = false := by
  rw [← Bool.not_eq_true]
  intro hblank
  have hdigit : Text.isDigit c = false :=
    forall_isBlank (P := fun c => Text.isDigit c = false) (by decide +kernel) hblank
  rw [h] at hdigit
  cases hdigit

/-- A number with its sign does not begin with white space. -/
theorem isBlank_head_sign (sign : Sign) {digits : List Char} (rest : List Char)
    (hdigits : ∀ c ∈ digits, Text.isDigit c = true) (hne : digits ≠ []) :
    ∀ c ∈ (sign.text ++ (digits ++ rest)).head?, Text.isBlank c = false := by
  intro c hc
  cases sign with
  | plus | minus =>
      cases hc
      decide +kernel
  | none =>
      cases digits with
      | nil => exact absurd rfl hne
      | cons d more =>
          obtain rfl : d = c := Option.some.inj hc
          exact isBlank_of_isDigit (hdigits d List.mem_cons_self)

/-- The sign is split off in front of digits. -/
theorem splitSign_text (sign : Sign) {digits : List Char} (rest : List Char)
    (hdigits : ∀ c ∈ digits, Text.isDigit c = true) (hne : digits ≠ []) :
    Cell.splitSign (sign.text ++ (digits ++ rest)) = (sign == .minus, digits ++ rest) := by
  cases sign with
  | plus | minus => rfl
  | none =>
      cases digits with
      | nil => exact absurd rfl hne
      | cons d more =>
          have hd := hdigits d List.mem_cons_self
          have hminus : d ≠ '-' := by
            rintro rfl
            cases hd
          have hplus : d ≠ '+' := by
            rintro rfl
            cases hd
          show Cell.splitSign (d :: (more ++ rest)) = (false, d :: (more ++ rest))
          unfold Cell.splitSign
          split
          · next h => exact absurd (List.cons.inj h).1 hminus
          · next h => exact absurd (List.cons.inj h).1 hplus
          · rfl

/-- A sign is split off as it is written. -/
theorem exists_sign_of_splitSign (cs : List Char) :
    ∃ sign : Sign, cs = sign.text ++ (Cell.splitSign cs).2
      ∧ (Cell.splitSign cs).1 = (sign == .minus) := by
  unfold Cell.splitSign
  split
  · exact ⟨.minus, rfl, rfl⟩
  · exact ⟨.plus, rfl, rfl⟩
  · exact ⟨.none, rfl, rfl⟩

/-- The view of a text that writes an integer. -/
theorem leadingIntegerOf_of_writes {cs : List Char} {n : Int} (h : WritesInteger cs n) :
    Cell.leadingIntegerOf cs = if IsView n then some n else none := by
  obtain @⟨blanks, digits, rest, sign, hblanks, hdigits, hne, hrest⟩ := h
  have hhead := isBlank_head_sign sign rest hdigits hne
  have htrim : Text.trimStart (blanks ++ (sign.text ++ (digits ++ rest)))
      = sign.text ++ (digits ++ rest) := (takeWhile_run (List.all_eq_true.1 hblanks) hhead).2
  have hsome : digits.isEmpty = false := by simpa using hne
  have hvalue : (if sign == .minus then -(decimalValue digits : Int) else decimalValue digits)
      = sign.apply (decimalValue digits) := by
    cases sign <;> rfl
  unfold Cell.leadingIntegerOf
  rw [htrim, splitSign_text sign rest hdigits hne]
  simp only [(takeWhile_run hdigits hrest).1, hsome, digitsValue_eq_decimalValue, hvalue,
    magnitude_le_iff sign, Bool.false_eq_true, if_false]

/-- A view is an integer that the text writes. -/
theorem writes_of_leadingIntegerOf {cs : List Char} {n : Int}
    (h : Cell.leadingIntegerOf cs = some n) : WritesInteger cs n := by
  obtain ⟨sign, hsigned, hminus⟩ := exists_sign_of_splitSign (Text.trimStart cs)
  -- the parts of the text, in the order in which they are read
  have hcs : cs = cs.takeWhile Text.isBlank ++ (sign.text
      ++ ((Cell.splitSign (Text.trimStart cs)).2.takeWhile Text.isDigit
        ++ (Cell.splitSign (Text.trimStart cs)).2.dropWhile Text.isDigit)) := by
    rw [List.takeWhile_append_dropWhile, ← hsigned]
    exact List.takeWhile_append_dropWhile.symm
  unfold Cell.leadingIntegerOf at h
  dsimp only at h
  rw [hminus] at h
  revert h hcs
  generalize (Cell.splitSign (Text.trimStart cs)).2 = signed
  intro h hcs
  split at h
  · cases h
  · next hsome =>
    split at h
    · have hvalue : n = sign.apply (decimalValue (signed.takeWhile Text.isDigit)) := by
        rw [← digitsValue_eq_decimalValue]
        cases sign <;> exact (Option.some.inj h).symm
      rw [hvalue, hcs]
      refine .intro sign List.all_takeWhile (List.all_eq_true.1 List.all_takeWhile) ?_ ?_
      · exact fun hnil => hsome (List.isEmpty_iff.2 hnil)
      · exact Text.head?_dropWhile
    · cases h

/-! ## §3. The laws of the integer view. -/

namespace Statement

/-- Where a cell and the compared value write integers, an order selects the cell exactly if both
can be views and the order holds of them. -/
theorem selects_of_writes {op : Comparison} {holds : Int → Int → Bool}
    (horder : op.order? = some holds) (column : String) {stored value : String} {a b : Int}
    (ha : WritesInteger stored.toList a) (hb : WritesInteger value.toList b) :
    Condition.selects ⟨column, op, .text value⟩ (.text stored) = true
      ↔ IsView a ∧ IsView b ∧ holds a b = true := by
  have hstored : (Cell.text stored).leadingInteger = if IsView a then some a else none :=
    leadingIntegerOf_of_writes ha
  have hvalue : (Cell.text value).leadingInteger = if IsView b then some b else none :=
    leadingIntegerOf_of_writes hb
  rw [Condition.selects_of_order? horder, hstored, hvalue]
  by_cases hviewA : IsView a
  · by_cases hviewB : IsView b
    · simp [hviewA, hviewB]
    · simp [hviewB]
  · simp [hviewA]

/-- What a text is as a number: its view, and what an ordering DELETE that compares with it
removes. -/
structure IntegerViewLaws (value : String) : Prop where
  /-- The view of a text that writes an integer is that integer, if it can be one. -/
  written : ∀ n, WritesInteger value.toList n →
    (Cell.text value).leadingInteger = if IsView n then some n else none
  /-- Other texts have no view. -/
  unwritten : (∀ n, ¬ WritesInteger value.toList n) → (Cell.text value).leadingInteger = none
  /-- DELETE removes a row that stores an integer exactly if both integers can be views and the
  order holds of them. -/
  deletes : ∀ {c : Catalog} {s : Selection} {db : Database} {name column : String} {t : Table}
    {op : Comparison} {holds : Int → Int → Bool} {b : Int},
    s.current? c = some db → db.table? name = some t → column ∈ t.columns →
    op.order? = some holds → WritesInteger value.toList b →
    ∃ removed : Finset Nat,
      (delete name ⟨column, op, .text value⟩).run c s
          = .ok (deleteEffect name c s (t.without removed, removed.card))
        ∧ ∀ i row stored a, t.rows[i]? = some row → t.cellOf column row = .text stored →
          WritesInteger stored.toList a →
            (i ∈ removed ↔ IsView a ∧ IsView b ∧ holds a b = true)

/-- **The integer view of a text is the integer that it writes**, for every signed integer of 64
bits but the lowest, and an ordering DELETE compares these integers. -/
theorem integerViewLaws (value : String) : IntegerViewLaws value where
  written n h := leadingIntegerOf_of_writes h
  unwritten hnone := by
    show Cell.leadingIntegerOf value.toList = none
    cases hview : Cell.leadingIntegerOf value.toList with
    | none => rfl
    | some n => exact absurd (writes_of_leadingIntegerOf hview) (hnone n)
  deletes hdb htable hcolumn horder hb := by
    refine ⟨_, run_delete_rows hdb htable hcolumn, ?_⟩
    intro i row stored a hrow hcell ha
    rw [deletedRows_eq, Table.mem_positions_of_getElem? hrow, hcell]
    exact selects_of_writes horder _ ha hb

/-- White space beyond the ASCII ones, a sign, leading zeros, and a rest that is no number. -/
example : (Cell.text "\u2003+0042kg").leadingInteger = some 42 := by decide +kernel

/-- The lowest signed integer of 64 bits is written by a text that has no view, and an ordering
DELETE keeps its row though it is below the compared zero. -/
theorem lowestInt64_kept :
    WritesInteger "-9223372036854775808".toList lowestInt64 ∧ IsInt64 lowestInt64
      ∧ (Cell.text "-9223372036854775808").leadingInteger = none
      ∧ WritesInteger "0".toList 0 ∧ lowestInt64 < 0
      ∧ (delete "notes" ⟨"id", .lt, .text "0"⟩).run
          ⟨[⟨"shop", [oneColumn [.text "-9223372036854775808", .text "-1"]]⟩]⟩ (.of "shop")
        = .ok (deleteEffect "notes"
          ⟨[⟨"shop", [oneColumn [.text "-9223372036854775808", .text "-1"]]⟩]⟩ (.of "shop")
          (oneColumn [.text "-9223372036854775808"], 1)) := by
  refine ⟨?_, by decide, by decide +kernel, ?_, by decide, by decide +kernel⟩
  · exact @WritesInteger.intro [] "9223372036854775808".toList [] .minus rfl
      (List.all_eq_true.1 (by decide +kernel)) (by decide +kernel) nofun
  · exact @WritesInteger.intro [] ['0'] [] .none rfl (List.all_eq_true.1 (by decide +kernel))
      (by decide +kernel) nofun

end Statement

end SmallSql
