/-
  SmallSql.Proofs.Token.Progress
  ────────────────────────────────
  Call after call on one text.  As long as the calls give tokens or an error, each of them brings
  the position closer to the end of the text,

      0  <  position₁  <  position₂  <  …  ≤  n

  so there are at most `n` of them; an error comes only from a reader that has gone through the
  whole text, and from the end of the text on nothing changes any more.
-/
import SmallSql.Proofs.Token.Scanner

namespace SmallSql

namespace Scanner

/-! ## §1. One call. -/

/-- The token of an answer, without its span. -/
def tokenOf (answer : Except SyntaxFault (Option Token × Span)) :
    Except SyntaxFault (Option Token) :=
  answer.map (·.1)

/-- At the end of the text a call gives the end and changes nothing. -/
theorem next_nil (before : List Char) : next (between before [])
    = (.ok (none, ⟨before.length, before.length⟩), between before []) := by
  have hnone : nextLexeme [] = .ok none := rfl
  rw [next_between, hnone]
  simp [lexemeRead]

/-- A call that gives no token has gone through the whole text. -/
theorem next_of_no_token {before cs : List Char}
    (h : ∀ t, tokenOf (next (between before cs)).1 ≠ .ok (some t)) :
    (next (between before cs)).2 = between (before ++ cs) [] := by
  rw [next_between] at h ⊢
  cases hnext : nextLexeme cs with
  | error fault => rfl
  | ok found =>
      cases found with
      | none => rfl
      | some found =>
          rw [hnext] at h
          exact absurd rfl (h found.1.token)

/-- A call that gives a token or an error moves the scanner on. -/
theorem lt_position_next {before cs : List Char}
    (h : tokenOf (next (between before cs)).1 ≠ .ok none) :
    before.length < (next (between before cs)).2.position := by
  rw [next_between] at h ⊢
  cases hnext : nextLexeme cs with
  | error fault =>
      -- an error comes from a character that opens something
      cases cs with
      | nil => cases hnext
      | cons c rest => simp [lexemeRead]
  | ok found =>
      rw [hnext] at h
      cases found with
      | none => exact absurd rfl h
      | some found =>
          obtain ⟨l, rest⟩ := found
          have htext := List.length_pos_iff.2 (nextLexeme_append hnext).2
          simp only [lexemeRead, position_between, Lexeme.written, List.length_append]
          omega

/-- A call answers as `stepLexeme` does, and stands in front of what that leaves. -/
theorem next_stepLexeme (before cs : List Char) :
    tokenOf (next (between before cs)).1 = (stepLexeme cs).1.map (·.map (·.token))
      ∧ ∃ taken, taken ++ (stepLexeme cs).2 = cs
        ∧ (next (between before cs)).2 = between (before ++ taken) (stepLexeme cs).2 := by
  rw [next_between]
  unfold stepLexeme
  cases hnext : nextLexeme cs with
  | error fault => exact ⟨rfl, cs, List.append_nil cs, rfl⟩
  | ok found =>
      cases found with
      | none => exact ⟨rfl, cs, List.append_nil cs, rfl⟩
      | some found => exact ⟨rfl, found.1.written, (nextLexeme_append hnext).1, rfl⟩

/-! ## §2. Call after call. -/

/-- Stands at the beginning of a text. -/
def start (cs : List Char) : Scanner := ⟨cs, 0⟩

/-- The scanner of a text after so many calls. -/
def afterCalls (cs : List Char) : Nat → Scanner
  | 0 => start cs
  | k + 1 => (afterCalls cs k).next.2

/-- The answer of the call that comes after `k` others. -/
def answer (cs : List Char) (k : Nat) : Except SyntaxFault (Option Token) :=
  tokenOf (afterCalls cs k).next.1

/-- What so many steps of `stepLexeme` leave of a text. -/
def leftAfter (cs : List Char) : Nat → List Char
  | 0 => cs
  | k + 1 => (stepLexeme (leftAfter cs k)).2

/-- All tokens with their spans, from at most so many calls; none if these are not enough. -/
def spannedWithin : Nat → Scanner → Option (Except SyntaxFault (List (Option Token × Span)))
  | 0, _ => none
  | calls + 1, s => match s.next with
    | (.error fault, _) => some (.error fault)
    | (.ok (none, span), _) => some (.ok [(none, span)])
    | (.ok (some t, span), s') =>
      (spannedWithin calls s').map fun others => others.map ((some t, span) :: ·)

variable {cs : List Char}

/-- After any number of calls the scanner stands somewhere in its text. -/
theorem exists_afterCalls (cs : List Char) (k : Nat) : ∃ before,
    before ++ leftAfter cs k = cs ∧ afterCalls cs k = between before (leftAfter cs k) := by
  induction k with
  | zero => exact ⟨[], rfl, rfl⟩
  | succ k ih =>
      obtain ⟨before, htext, hstands⟩ := ih
      obtain ⟨-, taken, htaken, hnext⟩ := next_stepLexeme before (leftAfter cs k)
      refine ⟨before ++ taken, ?_, ?_⟩
      · show before ++ taken ++ (stepLexeme (leftAfter cs k)).2 = cs
        rw [List.append_assoc, htaken, htext]
      · show (afterCalls cs k).next.2 = _
        rw [hstands, hnext]
        rfl

/-- The answers are those of `stepLexeme`, and behind the position stands what that leaves. -/
theorem answer_stepLexeme (cs : List Char) (k : Nat) :
    answer cs k = (stepLexeme (leftAfter cs k)).1.map (·.map (·.token))
      ∧ cs.drop (afterCalls cs k).position = leftAfter cs k := by
  obtain ⟨before, htext, hstands⟩ := exists_afterCalls cs k
  constructor
  · unfold answer
    rw [hstands]
    exact (next_stepLexeme before (leftAfter cs k)).1
  · rw [hstands, position_between]
    nth_rewrite 1 [← htext]
    exact List.drop_left

theorem position_afterCalls_le (cs : List Char) (k : Nat) :
    (afterCalls cs k).position ≤ cs.length := by
  obtain ⟨before, htext, hstands⟩ := exists_afterCalls cs k
  rw [hstands, position_between]
  have hlength := congrArg List.length htext
  rw [List.length_append] at hlength
  omega

theorem lt_position_succ {k : Nat} (h : answer cs k ≠ .ok none) :
    (afterCalls cs k).position < (afterCalls cs (k + 1)).position := by
  obtain ⟨before, -, hstands⟩ := exists_afterCalls cs k
  unfold answer at h
  rw [hstands] at h
  show (afterCalls cs k).position < (afterCalls cs k).next.2.position
  rw [hstands]
  exact lt_position_next h

/-- Behind a call that gives no token, the end is all that is left. -/
theorem afterCalls_of_no_token {j : Nat} (h : ∀ t, answer cs j ≠ .ok (some t)) {k : Nat}
    (hlt : j < k) : afterCalls cs k = between cs [] := by
  induction k with
  | zero => cases hlt
  | succ k ih =>
      show (afterCalls cs k).next.2 = _
      rcases Nat.lt_succ_iff_lt_or_eq.1 hlt with hlt | rfl
      · rw [ih hlt, next_nil]
      · obtain ⟨before, htext, hstands⟩ := exists_afterCalls cs j
        unfold answer at h
        rw [hstands] at h ⊢
        rw [next_of_no_token h, htext]

theorem answer_of_no_token {j : Nat} (h : ∀ t, answer cs j ≠ .ok (some t)) {k : Nat}
    (hlt : j < k) : answer cs k = .ok none := by
  unfold answer
  rw [afterCalls_of_no_token h hlt, next_nil]
  rfl

/-- As many calls as came before the end have moved the scanner on. -/
theorem le_position_afterCalls {k : Nat} (h : ∀ j < k, answer cs j ≠ .ok none) :
    k ≤ (afterCalls cs k).position := by
  induction k with
  | zero => exact Nat.zero_le _
  | succ k ih =>
      have hbefore := ih fun j hj => h j (Nat.lt_succ_of_lt hj)
      have hstep := lt_position_succ (h k (Nat.lt_succ_self k))
      omega

/-- The call that comes after as many others as there are characters gives the end. -/
theorem answer_length (cs : List Char) : answer cs cs.length = .ok none := by
  by_contra hlast
  -- were it not so, no call up to this one would have given the end
  have hall : ∀ j < cs.length + 1, answer cs j ≠ .ok none := by
    intro j hj hend
    rcases Nat.lt_succ_iff_lt_or_eq.1 hj with hj | rfl
    · exact hlast (answer_of_no_token (fun t ht => by rw [ht] at hend; cases hend) hj)
    · exact hlast hend
  have hmoved := le_position_afterCalls hall
  have hinside := position_afterCalls_le cs (cs.length + 1)
  omega

/-! ## §3. All tokens of a text. -/

/-- One call more than there are characters is enough to find the tokens behind a position. -/
theorem spannedWithin_between (calls : Nat) : ∀ before cs : List Char, cs.length < calls →
    spannedWithin calls (between before cs)
      = some ((lexemes cs).map fun found => spannedFrom before.length found.2 found.1) := by
  induction calls with
  | zero =>
      intro before cs h
      cases h
  | succ calls ih =>
      intro before cs h
      unfold spannedWithin
      rw [next_between, lexemes_unfold]
      cases hnext : nextLexeme cs with
      | error fault => rfl
      | ok found =>
          cases found with
          | none => rfl
          | some found =>
              obtain ⟨l, rest⟩ := found
              have hshorter := nextLexeme_length hnext
              have hrest := ih (before ++ l.written) rest (by omega)
              simp only [lexemeRead, hrest]
              cases lexemes rest with
              | error fault => rfl
              | ok others => simp [Except.map, spannedFrom, Lexeme.written, Nat.add_assoc]

theorem spannedWithin_start (cs : List Char) :
    spannedWithin (cs.length + 1) (start cs) = some (spanned cs) := by
  have hall := spannedWithin_between (cs.length + 1) [] cs (Nat.lt_succ_self _)
  refine hall.trans (congrArg some ?_)
  unfold spanned
  cases lexemes cs <;> rfl

end Scanner

open Scanner (answer afterCalls leftAfter spannedWithin)

/-- What calls on one text do, from the first on. -/
structure MakesProgress (cs : List Char) : Prop where
  /-- The answers are those of `stepLexeme`, and behind the position stands what that leaves. -/
  stepwise : ∀ k, answer cs k = (stepLexeme (leftAfter cs k)).1.map (·.map (·.token))
    ∧ cs.drop (afterCalls cs k).position = leftAfter cs k
  /-- A call that gives a token takes at least one character. -/
  consumes : ∀ k t, answer cs k = .ok (some t) →
    (afterCalls cs k).position < (afterCalls cs (k + 1)).position
  /-- The position does not pass the end of the text. -/
  inside : ∀ k, (afterCalls cs k).position ≤ cs.length
  /-- At most one call gives an error. -/
  oneFault : ∀ j k fault fault', answer cs j = .error fault → answer cs k = .error fault' → j = k
  /-- After an error or the end of the text, every call gives the end. -/
  ended : ∀ j k, j < k → (∃ fault, answer cs j = .error fault) ∨ answer cs j = .ok none →
    answer cs k = .ok none
  /-- The call that comes after as many others as there are characters gives the end. -/
  inTime : answer cs cs.length = .ok none
  /-- So many calls and one more give all tokens of the text with their spans, or its error. -/
  tokens : spannedWithin (cs.length + 1) (.start cs) = some (spanned cs)

/-- **The lexer always makes progress and fails at most once.**  Whatever the text, a call that gives
a token takes at least one character, the position stays inside the text, there is at most one
error, behind an error and behind the end comes nothing but the end, and `n + 1` calls are enough for
a text of `n` characters. -/
theorem makesProgress (cs : List Char) : MakesProgress cs where
  stepwise := Scanner.answer_stepLexeme cs
  consumes k t h := Scanner.lt_position_succ fun hend => by
    rw [h] at hend
    cases hend
  inside := Scanner.position_afterCalls_le cs
  oneFault := by
    intro j k fault fault' hj hk
    -- the later of two calls with an error would have given the end
    have hends : ∀ {i l : Nat} {f f' : SyntaxFault}, answer cs i = .error f →
        answer cs l = .error f' → ¬ i < l := by
      intro i l f f' hi hl hlt
      have hend := Scanner.answer_of_no_token (fun t ht => by rw [hi] at ht; cases ht) hlt
      rw [hl] at hend
      cases hend
    exact Nat.le_antisymm (Nat.not_lt.1 (hends hk hj)) (Nat.not_lt.1 (hends hj hk))
  ended := by
    intro j k hlt h
    refine Scanner.answer_of_no_token (fun t ht => ?_) hlt
    rw [ht] at h
    rcases h with ⟨fault, h⟩ | h
    · cases h
    · cases h
  inTime := Scanner.answer_length cs
  tokens := Scanner.spannedWithin_start cs

/-- A string that ends in a backslash: its error is the second answer, and the end is the third. -/
example : (List.range 3).map (answer "a '\\".toList)
    = [.ok (some (.identifier "a")), .error (.unterminatedString '\'' []), .ok none] := by
  decide +kernel

end SmallSql
