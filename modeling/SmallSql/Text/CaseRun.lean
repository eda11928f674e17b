/-
  SmallSql.Text.CaseRun
  ────────────────────────────────
  Case mappings from one character to one character, kept as runs: `first, first + step, …, last`
  go to `target, target + step, …`.  Alphabets that alternate capital and small letters have runs
  with a step of two.
-/

namespace SmallSql.Text

/-- A run of characters that all move by the same distance. -/
structure CaseRun where
  first : Nat
  last : Nat
  step : Nat
  target : Nat

/-- The code point that a run sends `n` to, for an `n` that it covers. -/
def CaseRun.image (r : CaseRun) (n : Nat) : Nat := r.target + (n - r.first)

/-- Where the runs, which stand in increasing order, send a code point. -/
def mapped? : List CaseRun → Nat → Option Nat
  | [], _ => none
  | r :: rest, n =>
    if n < r.first then none
    else if n ≤ r.last ∧ (n - r.first) % r.step = 0 then some (r.image n)
    else mapped? rest n

end SmallSql.Text
