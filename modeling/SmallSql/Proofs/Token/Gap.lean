/-
  SmallSql.Proofs.Token.Gap
  ────────────────────────────────
  Gaps between tokens, as they are written: white space and comments in any number, every comment
  closed.  `splitGap_trivia` says that the lexer passes over such a gap as a whole.
-/
import SmallSql.Proofs.Text.Trim
import SmallSql.Token.Lexer

namespace SmallSql

/-! ## §1. Trivia. -/

/-- White space and comments, every comment closed. -/
inductive Trivia : List Char → Prop
  | none : Trivia []
  | blank {c : Char} {gap : List Char} : Text.isBlank c = true → Trivia gap → Trivia (c :: gap)
  /-- A comment up to the end of its line. -/
  | line {comment gap : List Char} : '\n' ∉ comment → Trivia gap →
      Trivia ('-' :: '-' :: (comment ++ '\n' :: gap))
  /-- A comment between marks; the closing one does not occur inside. -/
  | block {comment gap : List Char} : ¬ ['*', '/'] <:+: comment → Trivia gap →
      Trivia ('/' :: '*' :: (comment ++ '*' :: '/' :: gap))

namespace Trivia

theorem of_allBlank {gap : List Char} (h : Text.allBlank gap = true) : Trivia gap := by
  induction gap with
  | nil => exact .none
  | cons c rest ih =>
      obtain ⟨hc, hrest⟩ := Text.allBlank_cons.1 h
      exact .blank hc (ih hrest)

end Trivia

/-! ## §2. Trivia is split off. -/

/-- A gap in front of what was split off before. -/
def prepend (gap : List Char) (split : List Char × List Char) : List Char × List Char :=
  (gap ++ split.1, split.2)

theorem splitGap_blank {c : Char} (h : Text.isBlank c = true) (rest : List Char) :
    splitGap .outside (c :: rest) = prepend [c] (splitGap .outside rest) := by
  have hline : c ≠ '-' := by
    rintro rfl
    exact absurd h (by decide)
  have hblock : c ≠ '/' := by
    rintro rfl
    exact absurd h (by decide)
  rw [splitGap]
  · rw [if_pos h]
    rfl
  · intro _ he
    exact absurd he hline
  · intro _ he
    exact absurd he hblock

/-- A line comment reaches to the end of its line. -/
theorem splitGap_line {comment : List Char} (h : '\n' ∉ comment) (rest : List Char) :
    splitGap .line (comment ++ '\n' :: rest)
      = prepend (comment ++ ['\n']) (splitGap .outside rest) := by
  induction comment with
  | nil => rfl
  | cons c comment ih =>
      have hc : c ≠ '\n' := fun he => h (he ▸ List.mem_cons_self)
      rw [List.cons_append, splitGap, if_neg hc, ih fun hm => h (List.mem_cons_of_mem _ hm)]
      rfl

/-- A block comment reaches to its first closing mark. -/
theorem splitGap_block {comment : List Char} (h : ¬ ['*', '/'] <:+: comment) (rest : List Char) :
    splitGap .block (comment ++ '*' :: '/' :: rest)
      = prepend (comment ++ ['*', '/']) (splitGap .outside rest) := by
  induction comment with
  | nil => rfl
  | cons c comment ih =>
      have htail : ¬ ['*', '/'] <:+: comment :=
        fun hm => h (hm.trans (List.suffix_cons c _).isInfix)
      -- the mark does not begin here: it would lie inside, or end in its own star
      have hmark : ∀ tail, c = '*' → comment ++ '*' :: '/' :: rest = '/' :: tail → False := by
        rintro tail rfl he
        cases comment with
        | nil => cases he
        | cons d comment =>
            cases he
            exact h (List.prefix_append ['*', '/'] comment).isInfix
      rw [List.cons_append, splitGap, ih htail]
      · rfl
      · exact hmark

/-- Trivia is split off as a whole, with all that follows of the gap. -/
theorem splitGap_trivia {gap : List Char} (h : Trivia gap) (rest : List Char) :
    splitGap .outside (gap ++ rest) = prepend gap (splitGap .outside rest) := by
  induction h with
  | none => rfl
  | blank hc _ ih =>
      rw [List.cons_append, splitGap_blank hc, ih]
      rfl
  | @line comment gap hcomment _ ih =>
      rw [List.cons_append, List.cons_append, List.append_assoc, List.cons_append, splitGap,
        splitGap_line hcomment, ih]
      simp [prepend]
  | @block comment gap hcomment _ ih =>
      rw [List.cons_append, List.cons_append, List.append_assoc, List.cons_append,
        List.cons_append, splitGap, splitGap_block hcomment, ih]
      simp [prepend]

/-! ## §3. How a gap begins. -/

/-- A character that begins a gap. -/
def opensGap (c : Char) : Bool := Text.isBlank c || c = '-' || c = '/'

theorem splitGap_token {c : Char} (h : opensGap c = false) (rest : List Char) :
    splitGap .outside (c :: rest) = ([], c :: rest) := by
  simp only [opensGap, Bool.or_eq_false_iff, decide_eq_false_iff_not] at h
  obtain ⟨⟨hblank, hline⟩, hblock⟩ := h
  rw [splitGap]
  · rw [if_neg (by rw [hblank]; decide)]
  · intro _ he
    exact absurd he hline
  · intro _ he
    exact absurd he hblock

theorem Trivia.opensGap_head {gap : List Char} (h : Trivia gap) :
    ∀ c ∈ gap.head?, opensGap c = true := by
  intro c hc
  cases h with
  | none => cases hc
  | blank hblank _ =>
      cases hc
      simp [opensGap, hblank]
  | line => cases hc; rfl
  | block => cases hc; rfl

/-- What holds of each of the twenty-five white space characters holds of every one. -/
theorem forall_isBlank {P : Char → Prop}
    (h : ∀ r ∈ Text.blankRanges, ∀ k < r.2 + 1 - r.1, P (Char.ofNat (r.1 + k))) {c : Char}
    (hc : Text.isBlank c = true) : P c := by
  obtain ⟨r, hr, hfirst, hlast⟩ := Text.exists_range_of_inRanges hc
  have hP := h r hr (c.toNat - r.1) (by omega)
  rwa [Nat.add_sub_cancel' hfirst, Char.ofNat_toNat] at hP

end SmallSql
