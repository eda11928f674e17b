/-
  SmallSql.Proofs.Token.Lossless
  ────────────────────────────────
  Tokens with the places they stand at.  The spans of a text divide it,

      0 ·· start₁ ── stop₁ ·· start₂ ── stop₂ ·· … ·· n        ── token    ·· gap

  so that between them there is nothing but white space and comments, and each token can be read
  again from the characters of its span alone.  `Tiled` goes along the text and says this of one
  span after the other; `Lossless` says it of all of them.
-/
import SmallSql.Proofs.Token.Context

namespace SmallSql

/-! ## §1. Tokens with spans. -/

/-- The tokens of consecutive lexemes with their spans, the first gap beginning at `position`, and
behind the last gap the end of the text, which is no token. -/
def spannedFrom (position : Nat) (tail : List Char) : List Lexeme → List (Option Token × Span)
  | [] =>
    let stop := position + tail.length
    [(none, ⟨stop, stop⟩)]
  | l :: ls =>
    let start := position + l.gap.length
    let stop := start + l.text.length
    (some l.token, ⟨start, stop⟩) :: spannedFrom stop tail ls

/-- The tokens of a text with their spans; the end of the text comes last. -/
def spanned (cs : List Char) : Except SyntaxFault (List (Option Token × Span)) := do
  let (ls, tail) ← lexemes cs
  return spannedFrom 0 tail ls

/-- The spans are those of the lexemes, and the end stands behind all their characters. -/
theorem spannedFrom_eq (position : Nat) (tail : List Char) (ls : List Lexeme) :
    spannedFrom position tail ls
      = (ls.map fun l => some l.token).zip (spansFrom position ls)
        ++ [(none, ⟨position + (ls.flatMap Lexeme.written ++ tail).length,
          position + (ls.flatMap Lexeme.written ++ tail).length⟩)] := by
  induction ls generalizing position with
  | nil => rfl
  | cons l ls ih =>
      have hlength : position + ((l :: ls).flatMap Lexeme.written ++ tail).length
          = position + l.gap.length + l.text.length
            + (ls.flatMap Lexeme.written ++ tail).length := by
        simp only [List.flatMap_cons, Lexeme.written, List.length_append]
        omega
      rw [hlength]
      exact congrArg (_ :: ·) (ih (position + l.gap.length + l.text.length))

/-- What has tokens has them with the spans of its lexemes, and ends at its length. -/
theorem spanned_eq {cs tail : List Char} {ls : List Lexeme} (h : lexemes cs = .ok (ls, tail)) :
    spanned cs = .ok ((ls.map fun l => some l.token).zip (spansFrom 0 ls)
      ++ [(none, ⟨cs.length, cs.length⟩)]) := by
  unfold spanned
  rw [h, ok_bind]
  dsimp only
  rw [spannedFrom_eq, lexemes_append h, Nat.zero_add]
  rfl

namespace Span

/-- The characters of a text that a span covers. -/
def textIn (s : Span) (cs : List Char) : List Char := cs.extract s.start s.stop

/-- A position inside a span. -/
def Contains (s : Span) (i : Nat) : Prop := s.start ≤ i ∧ i < s.stop

/-- What stands between a text in front and a text behind is covered by its span. -/
theorem textIn_append (before part after : List Char) :
    (⟨before.length, before.length + part.length⟩ : Span).textIn (before ++ (part ++ after))
      = part := by
  simp [textIn, List.extract]

end Span

/-- From `position` on, the stretches between spans. -/
def gapsBetween (position : Nat) : List Span → List Span
  | [] => []
  | s :: spans => ⟨position, s.start⟩ :: gapsBetween s.stop spans

/-! ## §2. One span after the other. -/

/-- A text that is one token. -/
def IsToken (text : List Char) (token : Token) : Prop :=
  spanned text = .ok [(some token, ⟨0, text.length⟩), (none, ⟨text.length, text.length⟩)]

/-- From `position` on, the text goes on with these spans up to its end: a gap and the characters of
a token, over and over, and a gap that ends it. -/
inductive Tiled (cs : List Char) : Nat → List (Option Token × Span) → Prop
  | last {position : Nat} (inside : position ≤ cs.length)
      (gap : LastGap ((⟨position, cs.length⟩ : Span).textIn cs)) :
      Tiled cs position [(none, ⟨cs.length, cs.length⟩)]
  | token {position : Nat} {t : Token} {span : Span} {rest : List (Option Token × Span)}
      (begins : position ≤ span.start) (nonempty : span.start < span.stop)
      (inside : span.stop ≤ cs.length) (gap : Trivia ((⟨position, span.start⟩ : Span).textIn cs))
      (alone : IsToken (span.textIn cs) t) (others : Tiled cs span.stop rest) :
      Tiled cs position ((some t, span) :: rest)

/-- The text of a token is read as the token by itself. -/
theorem ReadsAs.isToken {text left : List Char} {token : Token} (h : ReadsAs text token left) :
    IsToken text token := by
  have halone : ReadsAs text token [] := h.replace (v := []) stops_nil
  have hnext : nextLexeme text = .ok (some (⟨[], text, token⟩, [])) :=
    nextLexeme_some_iff_readsAs.2 ⟨(List.append_nil text).symm, .none, halone⟩
  have hlexemes : lexemes text = .ok ([⟨[], text, token⟩], []) :=
    lexemes_cons hnext (lexemes_trivia .none)
  unfold IsToken spanned
  rw [hlexemes]
  simp [spannedFrom]

/-- What is left without a token is a gap that ends the text. -/
theorem lastGap_of_nextLexeme {cs : List Char} (h : nextLexeme cs = .ok none) : LastGap cs := by
  have hgap : IsGap (splitGap .outside cs).2 (splitGap .outside cs).1 := goes_splitGap .outside cs
  have happend := splitGap_append .outside cs
  rw [nextLexeme_none_iff.1 h, List.append_nil] at happend
  rw [← happend]
  exact hgap.last

/-- The spans of the lexemes of a text go through the text, whatever stands in front. -/
theorem tiled_spannedFrom {cs tail : List Char} {ls : List Lexeme} (h : lexemes cs = .ok (ls, tail))
    (before : List Char) :
    Tiled (before ++ cs) before.length (spannedFrom before.length tail ls) := by
  induction ls generalizing cs before with
  | nil =>
      have hcs : tail = cs := lexemes_append h
      subst hcs
      have hnext := nextLexeme_of_lexemes_nil h
      have hlength : (before ++ tail).length = before.length + tail.length := List.length_append
      have hgap := Span.textIn_append before tail []
      rw [List.append_nil] at hgap
      unfold spannedFrom
      rw [← hlength] at hgap ⊢
      exact .last (by omega) (by rw [hgap]; exact lastGap_of_nextLexeme hnext)
  | cons l ls ih =>
      obtain ⟨left, hnext, hleft⟩ := lexemes_cons_iff.1 h
      obtain ⟨rfl, hgap, hreads⟩ := nextLexeme_some_iff_readsAs.1 hnext
      -- for what is left, the lexeme is part of the text in front
      have hrest := ih hleft (before ++ l.gap ++ l.text)
      have htext : l.text ≠ [] := by
        obtain ⟨c, rest, htext, -⟩ := hreads
        rw [htext]
        exact List.cons_ne_nil c rest
      have hpositive : 0 < l.text.length := List.length_pos_iff.2 htext
      have hgapText := Span.textIn_append before l.gap (l.text ++ left)
      have htokenText := Span.textIn_append (before ++ l.gap) l.text left
      simp only [List.append_assoc, List.length_append, Nat.add_assoc] at hrest htokenText
      unfold spannedFrom
      refine .token (by simp) (by simpa using hpositive) (by simp; omega) ?_ ?_ ?_
      · dsimp only
        rw [hgapText]
        exact hgap
      · simp only [Nat.add_assoc]
        rw [htokenText]
        exact hreads.isToken
      · simpa only [Nat.add_assoc] using hrest

/-! ## §3. All spans. -/

/-- What the spanned tokens of a text keep of it. -/
structure Lossless (cs : List Char) (ts : List (Option Token × Span)) : Prop where
  /-- They are the tokens of the lexemes, with the spans of these, and the end. -/
  lexed : ∃ ls tail, lexemes cs = .ok (ls, tail)
    ∧ ts = (ls.map fun l => some l.token).zip (spansFrom 0 ls) ++ [(none, ⟨cs.length, cs.length⟩)]
  /-- The end comes last, behind the whole text, and only there. -/
  ended : ∃ tokens : List (Token × Span), ts = (tokens.map fun t => (some t.1, t.2))
    ++ [(none, ⟨cs.length, cs.length⟩)]
  /-- Every span lies within the text. -/
  inside : ∀ t ∈ ts, t.2.start ≤ t.2.stop ∧ t.2.stop ≤ cs.length
  /-- No token has an empty span. -/
  nonempty : ∀ t span, (some t, span) ∈ ts → span.start < span.stop
  /-- The spans are in order, and no two have a character in common. -/
  ordered : ts.Pairwise fun a b => a.2.stop ≤ b.2.start
  /-- The characters in no span are those between the spans. -/
  outside : ∀ i < cs.length,
    (∀ t ∈ ts, ¬ t.2.Contains i) ↔ ∃ gap ∈ gapsBetween 0 (ts.map (·.2)), gap.Contains i
  /-- Between the spans stand white space and comments; only the last comment may be open. -/
  gaps : ∃ closed last, (gapsBetween 0 (ts.map (·.2))).map (·.textIn cs) = closed ++ [last]
    ∧ (∀ gap ∈ closed, Trivia gap) ∧ LastGap last
  /-- Each token is read from the characters of its span alone. -/
  alone : ∀ t span, (some t, span) ∈ ts → IsToken (span.textIn cs) t

namespace Tiled

variable {cs : List Char} {position : Nat} {ts : List (Option Token × Span)}

theorem ended (h : Tiled cs position ts) : ∃ tokens : List (Token × Span),
    ts = (tokens.map fun t => (some t.1, t.2)) ++ [(none, ⟨cs.length, cs.length⟩)] := by
  induction h with
  | last => exact ⟨[], rfl⟩
  | @token _ t span _ _ _ _ _ _ _ ih =>
      obtain ⟨tokens, hrest⟩ := ih
      exact ⟨(t, span) :: tokens, congrArg (_ :: ·) hrest⟩

/-- Every span begins at the position or behind it and lies within the text. -/
theorem inside (h : Tiled cs position ts) :
    ∀ t ∈ ts, position ≤ t.2.start ∧ t.2.start ≤ t.2.stop ∧ t.2.stop ≤ cs.length := by
  induction h with
  | last hinside =>
      intro t ht
      rw [List.mem_singleton] at ht
      subst ht
      exact ⟨hinside, Nat.le_refl _, Nat.le_refl _⟩
  | token hbegins hnonempty hinside _ _ _ ih =>
      intro t ht
      rcases List.mem_cons.1 ht with rfl | ht
      · exact ⟨hbegins, Nat.le_of_lt hnonempty, hinside⟩
      · have hrest := ih t ht
        exact ⟨by omega, hrest.2⟩

theorem token_of_mem (h : Tiled cs position ts) {t : Token} {span : Span}
    (hmem : (some t, span) ∈ ts) : span.start < span.stop ∧ IsToken (span.textIn cs) t := by
  induction h with
  | last => simp at hmem
  | token _ hnonempty _ _ halone _ ih =>
      rcases List.mem_cons.1 hmem with he | hmem
      · cases he
        exact ⟨hnonempty, halone⟩
      · exact ih hmem

theorem ordered (h : Tiled cs position ts) : ts.Pairwise fun a b => a.2.stop ≤ b.2.start := by
  induction h with
  | last => exact List.pairwise_singleton _ _
  | token _ _ _ _ _ hothers ih =>
      exact List.pairwise_cons.2 ⟨fun t ht => (hothers.inside t ht).1, ih⟩

/-- The stretches between spans begin at the position or behind it. -/
theorem le_start_of_mem_gaps (h : Tiled cs position ts) :
    ∀ gap ∈ gapsBetween position (ts.map (·.2)), position ≤ gap.start := by
  induction h with
  | last =>
      intro gap hgap
      rw [List.mem_singleton.1 hgap]
  | token hbegins hnonempty _ _ _ _ ih =>
      intro gap hgap
      rcases List.mem_cons.1 hgap with rfl | hgap
      · exact Nat.le_refl _
      · have hrest := ih gap hgap
        omega

/-- From the position on, a character is in no span exactly if it is in a stretch between them. -/
theorem outside (h : Tiled cs position ts) {i : Nat} (hi : position ≤ i) (hlt : i < cs.length) :
    (∀ t ∈ ts, ¬ t.2.Contains i)
      ↔ ∃ gap ∈ gapsBetween position (ts.map (·.2)), gap.Contains i := by
  induction h with
  | @last position hinside =>
      have hgap : (⟨position, cs.length⟩ : Span).Contains i := ⟨hi, hlt⟩
      refine ⟨fun _ => ⟨_, List.mem_singleton_self _, hgap⟩, fun _ t ht => ?_⟩
      rw [List.mem_singleton] at ht
      subst ht
      rintro ⟨hstart, -⟩
      exact absurd hlt (Nat.not_lt.2 hstart)
  | @token position t span rest hbegins hnonempty _ _ _ hothers ih =>
      have hafter : ∀ u ∈ rest, span.stop ≤ u.2.start := fun u hu => (hothers.inside u hu).1
      rw [List.map_cons, gapsBetween, List.forall_mem_cons, List.exists_mem_cons_iff]
      -- in the gap, in the span, or behind it
      by_cases hgap : i < span.start
      · have hspan : ¬ span.Contains i := fun hc => absurd hc.1 (by omega)
        refine ⟨fun _ => .inl ⟨hi, hgap⟩, fun _ => ⟨hspan, fun u hu hc => ?_⟩⟩
        have hstart := hafter u hu
        have hle := hc.1
        omega
      have hnot : ¬ (⟨position, span.start⟩ : Span).Contains i := fun hc => hgap hc.2
      by_cases hspan : i < span.stop
      · have hcontains : span.Contains i := ⟨by omega, hspan⟩
        refine ⟨fun hnone => absurd hcontains hnone.1, ?_⟩
        rintro (hc | ⟨gap, hmem, hc⟩)
        · exact absurd hc hnot
        · have hstart := hothers.le_start_of_mem_gaps gap hmem
          have hle := hc.1
          omega
      · have hpast : ¬ span.Contains i := fun hc => hspan hc.2
        rw [ih (by omega)]
        exact ⟨fun hrest => .inr hrest.2, fun hrest => ⟨hpast, hrest.resolve_left hnot⟩⟩

theorem gaps (h : Tiled cs position ts) :
    ∃ closed last, (gapsBetween position (ts.map (·.2))).map (·.textIn cs) = closed ++ [last]
      ∧ (∀ gap ∈ closed, Trivia gap) ∧ LastGap last := by
  induction h with
  | last _ hgap => exact ⟨[], _, rfl, nofun, hgap⟩
  | token _ _ _ hgap _ _ ih =>
      obtain ⟨closed, last, hrest, hclosed, hlast⟩ := ih
      refine ⟨_ :: closed, last, congrArg (_ :: ·) hrest, ?_, hlast⟩
      exact List.forall_mem_cons.2 ⟨hgap, hclosed⟩

end Tiled

/-- **Tokenisation is lossless and context free.**  Wherever a text has tokens, their spans lie in
it in order and without common characters, no token's span is empty and the end of the text comes
last; between the spans stand white space and comments alone, all closed but perhaps the last; and
the characters of each span, read alone, give the token again. -/
theorem lossless_of_spanned {cs : List Char} {ts : List (Option Token × Span)}
    (h : spanned cs = .ok ts) : Lossless cs ts := by
  obtain ⟨⟨ls, tail⟩, hlexemes, he⟩ := bind_eq_ok.1 h
  have htiled : Tiled cs 0 ts := by
    cases he
    exact tiled_spannedFrom hlexemes []
  exact {
    lexed := ⟨ls, tail, hlexemes, Except.ok.inj (h.symm.trans (spanned_eq hlexemes))⟩
    ended := htiled.ended
    inside := fun t ht => (htiled.inside t ht).2
    nonempty := fun t span hmem => (htiled.token_of_mem hmem).1
    ordered := htiled.ordered
    outside := fun i hlt => htiled.outside (Nat.zero_le i) hlt
    gaps := htiled.gaps
    alone := fun t span hmem => (htiled.token_of_mem hmem).2 }

/-- A comment that only looks closed at first between a name and an operator, a string with a
doubled quote against a number, a point that belongs to no number, an open comment at the end. -/
theorem lossless_of_spanned_marks :
    spanned "a/*/ */>='it''s'1.5. --x".toList = .ok [
        (some (.identifier "a"), ⟨0, 1⟩), (some (.comparison .ge), ⟨7, 9⟩),
        (some (.string "it's"), ⟨9, 16⟩), (some (.number "1.5"), ⟨16, 19⟩),
        (some (.symbol '.'), ⟨19, 20⟩), (none, ⟨24, 24⟩)]
      ∧ Lossless "a/*/ */>='it''s'1.5. --x".toList [
        (some (.identifier "a"), ⟨0, 1⟩), (some (.comparison .ge), ⟨7, 9⟩),
        (some (.string "it's"), ⟨9, 16⟩), (some (.number "1.5"), ⟨16, 19⟩),
        (some (.symbol '.'), ⟨19, 20⟩), (none, ⟨24, 24⟩)] := by
  have h : spanned "a/*/ */>='it''s'1.5. --x".toList = .ok [
      (some (.identifier "a"), ⟨0, 1⟩), (some (.comparison .ge), ⟨7, 9⟩),
      (some (.string "it's"), ⟨9, 16⟩), (some (.number "1.5"), ⟨16, 19⟩),
      (some (.symbol '.'), ⟨19, 20⟩), (none, ⟨24, 24⟩)] := by decide +kernel
  exact ⟨h, lossless_of_spanned h⟩

end SmallSql
