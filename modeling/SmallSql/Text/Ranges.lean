/-
  SmallSql.Text.Ranges
  ────────────────────────────────
  Character properties as sorted code point ranges.  The main function is `inRanges`: a character
  has the property exactly when some range covers it, and the search stops at the first range that
  lies beyond it.
-/

namespace SmallSql.Text

/-- Whether a code point lies in one of the inclusive ranges, which stand in increasing order. -/
def inRanges : List (Nat × Nat) → Nat → Bool
  | [], _ => false
  | (first, last) :: rest, n => if n < first then false else decide (n ≤ last) || inRanges rest n

/-- A code point that is found lies in one of the ranges. -/
theorem exists_range_of_inRanges {ranges : List (Nat × Nat)} {n : Nat}
    (h : inRanges ranges n = true) : ∃ r ∈ ranges, r.1 ≤ n ∧ n ≤ r.2 := by
  induction ranges with
  | nil => simp [inRanges] at h
  | cons r rest ih =>
    obtain ⟨first, last⟩ := r
    simp only [inRanges] at h
    split at h
    · exact absurd h (by simp)
    · next hn =>
      rcases Bool.or_eq_true .. ▸ h with hl | hr
      · exact ⟨(first, last), by simp, by omega, of_decide_eq_true hl⟩
      · obtain ⟨r, hr, hb⟩ := ih hr
        exact ⟨r, by simp [hr], hb⟩

end SmallSql.Text
