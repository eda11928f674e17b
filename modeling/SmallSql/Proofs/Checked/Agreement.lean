/-
  SmallSql.Proofs.Checked.Agreement
  ────────────────────────────────
  Reading by position never crashes and gives what reading lexemes gives.  `Agrees` compares the two
  where the position is the number of lexemes that were read:

      lexemes   done ++ input   ──  p  ──▶   done ++ taken ++ rest
      position  |done|          ──  m  ──▶   |done| + |taken|

  It goes through a reader step by step.  Only values and column definitions have anything of their
  own to show: that the spans of a run of lexemes cut its text out of the source, and that a
  parenthesis is closed only while one is open.
-/
import SmallSql.Proofs.Checked.Reading
import SmallSql.Proofs.Statement.Derivation

namespace SmallSql.Checked

open Cursor (refusal fail take takeIf finished commaList commaLoop)
open Statement (firstToken)

variable {α β : Type}

/-! ## §1. Positions and lexemes. -/

/-- At the position behind `done`, the cursor does on the scan what the reader does on `input`: both
are refused, or both give the same and pass over the same tokens. -/
inductive AgreesAt (m : Cursor α) (p : LexemeParser α) (s : Scan) (done input : List Lexeme) : Prop
  | refused (fault : ReadFault) (hp : p.run input = .error fault)
      (hm : m.run s done.length = .error (.refused fault)) : AgreesAt m p s done input
  | given (a : α) (taken rest : List Lexeme) (hinput : input = taken ++ rest)
      (hp : p.run input = .ok (a, rest))
      (hm : m.run s done.length = .ok (a, (done ++ taken).length)) : AgreesAt m p s done input

/-- The scan of a text that these lexemes and a gap behind them spell. -/
def scanWith (ls : List Lexeme) (tail : List Char) : Scan :=
  scanOf ls (ls.flatMap Lexeme.written ++ tail)

/-- The cursor and the reader do the same at every position of every text. -/
def Agrees (m : Cursor α) (p : LexemeParser α) : Prop :=
  ∀ ⦃ls : List Lexeme⦄ (tail : List Char) (done input : List Lexeme), ls = done ++ input →
    AgreesAt m p (scanWith ls tail) done input

section Positions

variable {ls done input : List Lexeme}

/-- The token at the position behind `done` is the first of `input`. -/
theorem current_scanWith (h : ls = done ++ input) (tail : List Char) :
    (scanWith ls tail).current done.length = firstToken input := by
  subst h
  unfold Scan.current scanWith scanOf firstToken
  rw [List.getElem?_map, List.getElem?_append_right (Nat.le_refl _), Nat.sub_self,
    List.head?_eq_getElem?]

theorem refusal_scanWith (what : String) (h : ls = done ++ input) (tail : List Char) :
    refusal what (scanWith ls tail) done.length = .refused (Statement.expected what input) := by
  unfold refusal Statement.expected
  rw [current_scanWith h]

/-- Behind one more lexeme stands the rest of the input. -/
theorem eq_concat_append {l : Lexeme} {left : List Lexeme} (h : ls = done ++ l :: left) :
    ls = done ++ [l] ++ left := by
  rw [h, List.append_assoc]
  rfl

/-- One more lexeme is one position more. -/
theorem length_concat (done : List Lexeme) (l : Lexeme) :
    (done ++ [l]).length = done.length + 1 := List.length_append

end Positions

namespace Agrees

theorem pure (a : α) : Agrees (pure a) (pure a) := by
  intro ls tail done input h
  refine .given a [] input (List.nil_append input).symm rfl ?_
  rw [List.append_nil]
  rfl

theorem bind {m : Cursor α} {p : LexemeParser α} {f : α → Cursor β} {g : α → LexemeParser β}
    (hm : Agrees m p) (hf : ∀ a, Agrees (f a) (g a)) : Agrees (m >>= f) (p >>= g) := by
  intro ls tail done input h
  cases hm tail done input h with
  | refused fault hp hm =>
      refine .refused fault ?_ ?_
      · rw [Parser.run_bind, hp]
      · rw [Cursor.run_bind, hm]
  | given a taken mid hinput hp hm =>
      -- the second reader begins where the first ended
      have hmid : ls = done ++ taken ++ mid := by
        rw [h, hinput, List.append_assoc]
      cases hf a tail (done ++ taken) mid hmid with
      | refused fault hg hf =>
          refine .refused fault ?_ ?_
          · rw [Parser.run_bind, hp]
            exact hg
          · rw [Cursor.run_bind, hm]
            exact hf
      | given b taken' rest hmid' hg hf =>
          refine .given b (taken ++ taken') rest ?_ ?_ ?_
          · rw [hinput, hmid', List.append_assoc]
          · rw [Parser.run_bind, hp]
            exact hg
          · rw [Cursor.run_bind, hm, ← List.append_assoc]
            exact hf

theorem fail (fault : ReadFault) :
    Agrees (Cursor.fail fault : Cursor α) (Parser.fail fun _ => fault) :=
  fun _ _ _ _ _ => .refused fault rfl rfl

theorem ite {c : Prop} [Decidable c] {m n : Cursor α} {p q : LexemeParser α} (hm : Agrees m p)
    (hn : Agrees n q) : Agrees (if c then m else n) (if c then p else q) := by
  split
  · exact hm
  · exact hn

/-- One token that both accept alike. -/
theorem take {view : Token → Option α} {view' : Lexeme → Option α} (what : String)
    (hview : ∀ l, view' l = view l.token) :
    Agrees (Cursor.take view what) (Parser.token view' (Statement.expected what)) := by
  intro ls tail done input h
  have hcurrent := current_scanWith h tail
  have hrefusal := refusal_scanWith what h tail
  cases input with
  | nil =>
      refine .refused (Statement.expected what []) rfl ?_
      simp only [Cursor.take, hcurrent, hrefusal]
      rfl
  | cons l left =>
      have hfirst : (firstToken (l :: left)).bind view = view' l := (hview l).symm
      cases hl : view' l with
      | none =>
          refine .refused (Statement.expected what (l :: left)) ?_ ?_
          · simp only [Parser.token, hl]
          · simp only [Cursor.take, hcurrent, hfirst, hl, hrefusal]
      | some a =>
          refine .given a [l] left rfl (Parser.run_token hl left) ?_
          simp only [Cursor.take, hcurrent, hfirst, hl, List.length_append, List.length_singleton]

/-- A token that may be left out. -/
theorem takeIf (t : Token) :
    Agrees (Cursor.takeIf t) (Parser.optional (Statement.isToken t)) := by
  intro ls tail done input h
  have hcurrent := current_scanWith h tail
  cases input with
  | nil =>
      refine .given false [] [] rfl rfl ?_
      simp only [Cursor.takeIf, hcurrent, List.append_nil]
      rfl
  | cons l left =>
      by_cases hl : l.token = t
      · refine .given true [l] left rfl (if_pos (decide_eq_true hl)) ?_
        simp only [Cursor.takeIf, hcurrent, List.length_append, List.length_singleton]
        exact if_pos (congrArg some hl)
      · have hother : ¬ Statement.isToken t l = true := by
          simpa [Statement.isToken] using hl
        refine .given false [] (l :: left) rfl (if_neg hother) ?_
        simp only [Cursor.takeIf, hcurrent, List.append_nil]
        exact if_neg fun he => hl (Option.some.inj he)

/-- The end of a statement. -/
theorem finished : Agrees Cursor.finished (Parser.finished fun
    | l :: _ => .malformed (.trailing l.token)
    | [] => .malformed (.expected "end of statement" none)) := by
  intro ls tail done input h
  have hcurrent := current_scanWith h tail
  cases input with
  | nil =>
      refine .given () [] [] rfl rfl ?_
      simp only [Cursor.finished, hcurrent, List.append_nil]
      rfl
  | cons l left =>
      refine .refused (.malformed (.trailing l.token)) rfl ?_
      simp only [Cursor.finished, hcurrent]
      rfl

theorem exactly (t : Token) : Agrees (Checked.exactly t) (Statement.exactly t) :=
  .take _ fun _ => rfl

theorem identifier (what : String) :
    Agrees (Checked.identifier what) (Statement.identifier what) :=
  .take _ fun _ => rfl

theorem close (closing : Statement.Closing) :
    Agrees (Checked.close closing) (Statement.close closing) := by
  cases closing with
  | required => exact .bind (.take _ fun _ => rfl) fun _ => .finished
  | optional => exact .bind (.takeIf _) fun _ => .finished

theorem comparison : Agrees Checked.comparison Statement.comparison := by
  unfold Checked.comparison Statement.comparison
  refine .bind (.take _ fun _ => rfl) fun read => ?_
  cases read with
  | ok c => exact .pure c
  | error written => exact .fail _

/-! ## §2. Lists. -/

section Lists

variable {m : Cursor α} {p : LexemeParser α}

/-- A list begins with an item; what stands behind it says whether the list goes on. -/
theorem commaLoop_unfold (s : Scan) (q : Nat) :
    commaLoop m s q = match m.run s q with
      | .error halt => .error halt
      | .ok (a, q') =>
        if s.current q' = some .comma then
          match commaLoop m s (q' + 1) with
          | .error halt => .error halt
          | .ok (as, q'') => .ok (a :: as, q'')
        else .ok ([a], q') := by
  rw [commaLoop]
  split
  · next he => rw [he]
  · next he =>
    rewrite [he]
    rfl

theorem commaLoop_last {s : Scan} {q q' : Nat} {a : α} (h : m.run s q = .ok (a, q'))
    (hend : s.current q' ≠ some .comma) : commaLoop m s q = .ok ([a], q') := by
  rw [commaLoop_unfold, h]
  exact if_neg hend

theorem commaLoop_more {s : Scan} {q q' : Nat} {a : α} (h : m.run s q = .ok (a, q'))
    (hcomma : s.current q' = some .comma) :
    commaLoop m s q = match commaLoop m s (q' + 1) with
      | .error halt => .error halt
      | .ok (as, q'') => .ok (a :: as, q'') := by
  rw [commaLoop_unfold, h]
  exact if_pos hcomma

/-- Items that agree make lists that agree. -/
theorem commaList (h : Agrees m p) :
    Agrees (Cursor.commaList m) (Statement.commaList p) := by
  intro ls tail done input hls
  -- the list behind a comma begins with less input
  induction hn : input.length using Nat.strong_induction_on generalizing done input with
  | _ n ih =>
    cases h tail done input hls with
    | refused fault hp hm =>
        refine .refused fault (Parser.separatedRun_error hp) ?_
        show commaLoop m _ _ = _
        rw [commaLoop_unfold, hm]
    | given a taken rest hinput hp hm =>
        have hrest : ls = done ++ taken ++ rest := by
          rw [hls, hinput, List.append_assoc]
        have hcurrent := current_scanWith hrest tail
        by_cases hcomma : firstToken rest = some .comma
        · obtain ⟨comma, left, rfl, hc⟩ := Statement.exists_cons_of_firstToken hcomma
          have hleft := eq_concat_append hrest
          have hless : left.length < n := by
            rw [← hn, hinput, List.length_append, List.length_cons]
            omega
          have hposition := length_concat (done ++ taken) comma
          have hlist : Parser.separatedRun (Statement.isToken .comma) p input = _ :=
            Parser.separatedRun_step hp (decide_eq_true hc)
          have hloop := commaLoop_more hm (hcurrent.trans hcomma)
          cases ih left.length hless _ left hleft rfl with
          | refused fault hp' hm' =>
              change Parser.separatedRun _ p left = _ at hp'
              change commaLoop m _ _ = _ at hm'
              rw [hp'] at hlist
              rw [← hposition, hm'] at hloop
              exact .refused fault hlist hloop
          | given as taken' rest' hinput' hp' hm' =>
              change Parser.separatedRun _ p left = _ at hp'
              change commaLoop m _ _ = _ at hm'
              rw [hp'] at hlist
              rw [← hposition, hm'] at hloop
              refine .given (a :: as) (taken ++ comma :: taken') rest' ?_ hlist ?_
              · rw [hinput, hinput', List.append_assoc, List.cons_append]
              · refine hloop.trans ?_
                simp only [List.append_assoc, List.singleton_append]
        · refine .given [a] taken rest hinput ?_ (commaLoop_last hm (hcurrent ▸ hcomma))
          exact Parser.separatedRun_last hp (Statement.head_not_comma hcomma)

end Lists

end Agrees

/-! ## §3. Values. -/

section Values

variable {ls done rest : List Lexeme} {first : Lexeme}

theorem spansFrom_append (offset : Nat) (done rest : List Lexeme) :
    spansFrom offset (done ++ rest)
      = spansFrom offset done ++ spansFrom (offset + (done.flatMap Lexeme.written).length) rest := by
  induction done generalizing offset with
  | nil => rfl
  | cons l done ih =>
      have hoffset : offset + l.gap.length + l.text.length + (done.flatMap Lexeme.written).length
          = offset + ((l :: done).flatMap Lexeme.written).length := by
        rw [List.flatMap_cons, List.length_append, Lexeme.written, List.length_append]
        omega
      rw [List.cons_append, spansFrom, spansFrom, ih, hoffset]
      rfl

theorem length_spansFrom (offset : Nat) (ls : List Lexeme) :
    (spansFrom offset ls).length = ls.length := by
  induction ls generalizing offset with
  | nil => rfl
  | cons l ls ih => exact congrArg (· + 1) (ih _)

/-- The span of a lexeme begins behind the lexemes in front of it and its gap. -/
theorem span_eq (h : ls = done ++ first :: rest) :
    (spansFrom 0 ls)[done.length]?
      = some ⟨(done.flatMap Lexeme.written).length + first.gap.length,
        ((done ++ [first]).flatMap Lexeme.written).length⟩ := by
  have hstop : (done.flatMap Lexeme.written).length + first.gap.length + first.text.length
      = ((done ++ [first]).flatMap Lexeme.written).length := by
    simp only [List.flatMap_append, List.flatMap_singleton, List.length_append, Lexeme.written]
    omega
  rw [h, spansFrom_append, List.getElem?_append_right (by rw [length_spansFrom]),
    length_spansFrom, Nat.sub_self, Nat.zero_add, ← hstop]
  rfl

/-- **The spans of a run of lexemes cut its text out of the source.** -/
theorem sourceBetween_eq {more : List Lexeme} (h : ls = done ++ (first :: more) ++ rest)
    (tail : List Char) :
    sourceBetween (scanWith ls tail) done.length (done.length + more.length)
      = .ok (sourceOf (first :: more)) := by
  have hfirst : ls = done ++ first :: (more ++ rest) := by
    rw [h, List.append_assoc]
    rfl
  -- the last lexeme of the run is the first one or the last of the others
  obtain ⟨init, last, hrun⟩ : ∃ init last, first :: more = init ++ [last] :=
    ⟨_, _, (List.dropLast_concat_getLast (List.cons_ne_nil first more)).symm⟩
  have hposition : done.length + more.length = (done ++ init).length := by
    have hlength := congrArg List.length hrun
    simp only [List.length_cons, List.length_append, List.length_nil] at hlength ⊢
    omega
  have hlast : ls = done ++ init ++ last :: rest := by
    rw [h, hrun]
    simp
  have hsource : ls.flatMap Lexeme.written ++ tail
      = (done.flatMap Lexeme.written ++ first.gap)
        ++ (sourceOf (first :: more) ++ (rest.flatMap Lexeme.written ++ tail)) := by
    rw [h]
    simp [sourceOf, Lexeme.written]
  have hend : ((done ++ init ++ [last]).flatMap Lexeme.written).length
      = (done.flatMap Lexeme.written ++ first.gap).length + (sourceOf (first :: more)).length := by
    rw [List.append_assoc, ← hrun]
    simp [sourceOf, Lexeme.written]
    omega
  have hspans : (scanWith ls tail).spans = spansFrom 0 ls := rfl
  unfold sourceBetween
  rw [hspans, elementAt_eq_ok (span_eq hfirst), ok_bind, hposition, elementAt_eq_ok (span_eq hlast),
    ok_bind]
  show slice (ls.flatMap Lexeme.written ++ tail) _ _ = _
  rw [hsource, hend, ← List.length_append]
  exact slice_append _ _ _

/-- The token at the position of a lexeme. -/
theorem elementAt_tokens {ε : Type} (h : ls = done ++ first :: rest) (tail : List Char) :
    (elementAt (scanWith ls tail).tokens done.length : Checked ε Token) = .ok first.token :=
  elementAt_eq_ok (current_scanWith h tail)

theorem cellOf_eq_cellOfToken? (l : Lexeme) :
    Statement.cellOf [l]
      = (cellOfToken? l.token).getD (.text (String.ofList (sourceOf [l]))) := by
  obtain ⟨gap, text, token⟩ := l
  cases token with
  | keyword k => cases k <;> rfl
  | _ => rfl

/-- The cell between two positions is the one that the lexemes there write. -/
theorem cellBetween_eq {more : List Lexeme} (h : ls = done ++ (first :: more) ++ rest)
    (tail : List Char) :
    cellBetween (scanWith ls tail) done.length (done.length + more.length)
      = .ok (Statement.cellOf (first :: more)) := by
  have hsource := sourceBetween_eq h tail
  have hfirst : ls = done ++ first :: (more ++ rest) := by
    rw [h, List.append_assoc]
    rfl
  unfold cellBetween loneCell?
  cases more with
  | nil =>
      have htoken := @elementAt_tokens _ _ _ _ ReadFault hfirst tail
      rw [List.length_nil, Nat.add_zero] at hsource ⊢
      rw [if_pos rfl, htoken, ok_bind, cellOf_eq_cellOfToken?]
      show (Except.ok (cellOfToken? first.token) >>= _) = _
      rw [ok_bind]
      cases cellOfToken? first.token with
      | some cell => rfl
      | none =>
          show (sourceBetween _ _ _ >>= _) = _
          rw [hsource]
          rfl
  | cons second more =>
      have hne : done.length ≠ done.length + (second :: more).length := by
        rw [List.length_cons]
        omega
      rw [if_neg hne, Statement.cellOf_several]
      show (sourceBetween _ _ _ >>= fun cs => _) = _
      rw [hsource]
      rfl

theorem stopFrom_unfold (s : Scan) (stops : Token → Bool) (p : Nat) :
    stopFrom s stops p = match s.current p with
      | none => p
      | some t => if stops t then p else stopFrom s stops (p + 1) := by
  rw [stopFrom]
  split
  · next he => rw [he]
  · next he => rw [he]

/-- The value goes on as long as no token stops it. -/
theorem stopFrom_eq (stops : Token → Bool) (tail : List Char) {input : List Lexeme}
    (h : ls = done ++ input) :
    stopFrom (scanWith ls tail) stops done.length
      = (done ++ input.takeWhile fun l => !stops l.token).length := by
  -- the position moves along the input, and `done` grows with it
  induction input generalizing done with
  | nil =>
      rw [stopFrom_unfold, current_scanWith h, List.takeWhile_nil, List.append_nil]
      rfl
  | cons l input ih =>
      rw [stopFrom_unfold, current_scanWith h]
      show (if stops l.token then done.length else stopFrom (scanWith ls tail) stops _) = _
      by_cases hl : stops l.token = true
      · rw [if_pos hl, List.takeWhile_cons_of_neg (by simp [hl]), List.append_nil]
      · have hrest := ih (eq_concat_append h)
        rw [length_concat] at hrest
        rw [if_neg hl, hrest, List.takeWhile_cons_of_pos (by simp [hl]), List.append_assoc]
        rfl

theorem lastFrom?_self (first : Nat) : lastFrom? first first = none := by
  unfold lastFrom?
  by_cases h : first = 0
  · rw [h]
    rfl
  · simp only [if_neg h, Option.filter_some, decide_eq_true_eq]
    rw [if_neg (by omega)]

theorem lastFrom?_succ (first n : Nat) : lastFrom? first (first + n + 1) = some (first + n) := by
  unfold lastFrom?
  simp

/-- A run that is empty is no value; every other one is the cell that it writes. -/
theorem run_value (stops : Token → Bool) (input : List Lexeme) :
    (Statement.value stops).run input
      = if (input.takeWhile fun l => !stops l.token).isEmpty
        then .error (Statement.expected "value" (input.dropWhile fun l => !stops l.token))
        else .ok (Statement.cellOf (input.takeWhile fun l => !stops l.token),
          input.dropWhile fun l => !stops l.token) := by
  unfold Statement.value
  rw [Parser.run_bind]
  dsimp only [Parser.takeUntil]
  split <;> rfl

/-- **Values agree.** -/
theorem Agrees.value (stops : Token → Bool) :
    Agrees (Checked.value stops) (Statement.value stops) := by
  intro ls tail done input h
  have hp := run_value stops input
  have hstop := stopFrom_eq stops tail h
  have hinput : input = (input.takeWhile fun l => !stops l.token)
      ++ input.dropWhile fun l => !stops l.token := List.takeWhile_append_dropWhile.symm
  generalize (input.takeWhile fun l => !stops l.token) = run at hp hstop hinput
  generalize (input.dropWhile fun l => !stops l.token) = rest at hp hinput
  cases run with
  | nil =>
      rw [List.nil_append] at hinput
      subst hinput
      refine .refused _ hp ?_
      rw [List.append_nil] at hstop
      simp only [Checked.value, hstop, lastFrom?_self, refusal_scanWith "value" h]
  | cons first more =>
      have hls : ls = done ++ (first :: more) ++ rest := by
        rw [h, hinput, List.append_assoc]
      have hlength : (done ++ first :: more).length = done.length + more.length + 1 := by
        rw [List.length_append, List.length_cons]
        omega
      refine .given _ (first :: more) rest hinput hp ?_
      rw [hlength] at hstop
      simp only [Checked.value, hstop, lastFrom?_succ, cellBetween_eq hls tail, hlength]

end Values

/-! ## §4. Column definitions. -/

section Definitions

variable {s : Scan} {depth depth' p : Nat} {t : Token}

theorem skipFrom_unfold (s : Scan) (depth p : Nat) :
    skipFrom s depth p = match s.current p with
      | none => .error (refusal "')'" s p)
      | some t =>
        if (t = .comma ∨ t = .rightParen) ∧ depth = 0 then .ok ((), p)
        else match (depthBehind depth t : Checked ReadFault Nat) with
          | .error halt => .error halt
          | .ok depth' => skipFrom s depth' (p + 1) := by
  rw [skipFrom]
  split
  · next he => rw [he]
  · next he =>
    rewrite [he]
    rfl

theorem skipFrom_stop (h : s.current p = some t) (ht : t = .comma ∨ t = .rightParen) :
    skipFrom s 0 p = .ok ((), p) := by
  rw [skipFrom_unfold, h]
  exact if_pos ⟨ht, rfl⟩

theorem skipFrom_next (h : s.current p = some t)
    (hgoes : ¬ ((t = .comma ∨ t = .rightParen) ∧ depth = 0))
    (hdepth : (depthBehind depth t : Checked ReadFault Nat) = .ok depth') :
    skipFrom s depth p = skipFrom s depth' (p + 1) := by
  rw [skipFrom_unfold, h]
  dsimp only
  rw [if_neg hgoes, hdepth]

/-- **The count of open parentheses never goes below zero**: what is passed over is what the reader
passes over. -/
theorem skipFrom_eq (tail : List Char) {ls done input : List Lexeme} (h : ls = done ++ input)
    (depth : Nat) :
    skipFrom (scanWith ls tail) depth done.length
      = match Statement.splitDefinition depth input with
        | [] => .error (.refused (Statement.expected "')'" []))
        | _ :: rest => .ok ((), ls.length - (rest.length + 1)) := by
  -- where the definition ends, nothing more is passed over
  have hstay : ∀ {done left : List Lexeme} {l : Lexeme}, ls = done ++ l :: left →
      ls.length - (left.length + 1) = done.length := by
    intro done left l hls
    rw [hls, List.length_append, List.length_cons]
    omega
  fun_induction Statement.splitDefinition depth input generalizing done with
  | case1 =>
      rw [skipFrom_unfold, current_scanWith h, refusal_scanWith "')'" h]
      rfl
  | case2 depth l left hl ih =>
      have hcurrent := (current_scanWith h tail).trans (congrArg some hl)
      rw [skipFrom_next hcurrent (by simp) rfl, ← length_concat done l]
      exact ih (eq_concat_append h)
  | case3 l left hl =>
      have hcurrent := (current_scanWith h tail).trans (congrArg some hl)
      rw [skipFrom_stop hcurrent (.inr rfl)]
      dsimp only
      rw [hstay h]
  | case4 l left hl depth ih =>
      have hcurrent := (current_scanWith h tail).trans (congrArg some hl)
      -- a parenthesis is open, so one can be taken off the count
      have hdepth : (depthBehind (depth + 1) .rightParen : Checked ReadFault Nat) = .ok depth :=
        difference_of_le (Nat.succ_le_succ (Nat.zero_le depth))
      rw [skipFrom_next hcurrent (by simp) hdepth, ← length_concat done l]
      exact ih (eq_concat_append h)
  | case5 l left hl =>
      have hcurrent := (current_scanWith h tail).trans (congrArg some hl)
      rw [skipFrom_stop hcurrent (.inl rfl)]
      dsimp only
      rw [hstay h]
  | case6 depth l left hl hdepth ih =>
      have hcurrent := (current_scanWith h tail).trans (congrArg some hl)
      rw [skipFrom_next hcurrent (by simp [hdepth]) rfl, ← length_concat done l]
      exact ih (eq_concat_append h)
  | case7 depth l left hleft hright hcomma ih =>
      have hcurrent : (scanWith ls tail).current done.length = some l.token :=
        current_scanWith h tail
      have hdepth : (depthBehind depth l.token : Checked ReadFault Nat) = .ok depth := by
        unfold depthBehind
        split
        · next hl => exact absurd hl hleft
        · next hl => exact absurd hl hright
        · rfl
      have hgoes : ¬ ((l.token = .comma ∨ l.token = .rightParen) ∧ depth = 0) := by
        rintro ⟨hl | hl, -⟩
        · exact hcomma hl
        · exact hright hl
      rw [skipFrom_next hcurrent hgoes hdepth, ← length_concat done l]
      exact ih (eq_concat_append h)

theorem Agrees.skipDefinition : Agrees Checked.skipDefinition Statement.skipDefinition := by
  intro ls tail done input h
  have hskip := skipFrom_eq tail h 0
  cases hsplit : Statement.splitDefinition 0 input with
  | nil =>
      rw [hsplit] at hskip
      refine .refused (Statement.expected "')'" []) ?_ hskip
      simp only [Statement.skipDefinition, hsplit]
  | cons l rest =>
      rw [hsplit] at hskip
      obtain ⟨passed, hinput, -, -⟩ := Statement.unwinds_of_splitDefinition hsplit
      refine .given () passed (l :: rest) hinput ?_ (hskip.trans ?_)
      · simp only [Statement.skipDefinition, hsplit]
      · have hlength : ls.length - (rest.length + 1) = (done ++ passed).length := by
          rw [h, hinput]
          simp only [List.length_append, List.length_cons]
          omega
        dsimp only
        rw [hlength]

theorem Agrees.columnDefinition (seen : List String) :
    Agrees (Checked.columnDefinition seen) (Statement.columnDefinition seen) := by
  refine .bind (.identifier _) fun column => .ite ?_ ?_
  · exact .bind (.fail _) fun _ => .bind .skipDefinition fun _ => .pure _
  · exact .bind .skipDefinition fun _ => .pure _

variable {seen found : List String} {q : Nat}

theorem columnsFrom_unfold (s : Scan) (seen : List String) (p : Nat) :
    columnsFrom s seen p = match (Checked.columnDefinition seen).run s p with
      | .error halt => .error halt
      | .ok (columns, q) =>
        if s.current q = some .comma then columnsFrom s columns (q + 1)
        else if s.current q = some .rightParen then .ok (columns, q + 1)
        else .error (refusal "',' or ')'" s q) := by
  rw [columnsFrom]
  split
  · next he => rw [he]
  · next he =>
    rewrite [he]
    rfl

theorem columnsFrom_more (h : (Checked.columnDefinition seen).run s p = .ok (found, q))
    (hcomma : s.current q = some .comma) :
    columnsFrom s seen p = columnsFrom s found (q + 1) := by
  rw [columnsFrom_unfold, h]
  exact if_pos hcomma

theorem columnsFrom_last (h : (Checked.columnDefinition seen).run s p = .ok (found, q))
    (hright : s.current q = some .rightParen) :
    columnsFrom s seen p = .ok (found, q + 1) := by
  have hcomma : ¬ s.current q = some .comma := by
    rw [hright]
    simp
  rw [columnsFrom_unfold, h]
  exact (if_neg hcomma).trans (if_pos hright)

/-- The column definitions and the parenthesis that closes them. -/
def closedColumns (seen : List String) : LexemeParser (List String) :=
  Parser.separatedFrom (Statement.isToken .comma) Statement.columnDefinition seen
    >>= fun columns => Statement.exactly .rightParen >>= fun _ => pure columns

theorem run_closedColumns (seen : List String) (input : List Lexeme) :
    (closedColumns seen).run input
      = match Parser.separatedFromRun (Statement.isToken .comma) Statement.columnDefinition seen
          input with
        | .error fault => .error fault
        | .ok (columns, rest) =>
          (Statement.exactly .rightParen >>= fun _ => pure columns : LexemeParser _).run rest := by
  unfold closedColumns
  rw [Parser.run_bind, Parser.run_separatedFrom]
  cases Parser.separatedFromRun (Statement.isToken .comma) Statement.columnDefinition seen input
    <;> rfl

/-- **Column definitions agree.** -/
theorem Agrees.columns (seen : List String) :
    Agrees (Checked.columns seen) (closedColumns seen) := by
  intro ls tail done input hls
  -- each definition is read in the light of those before it, from less input
  induction hn : input.length using Nat.strong_induction_on generalizing seen done input with
  | _ n ih =>
    cases Agrees.columnDefinition seen tail done input hls with
    | refused fault hp hm =>
        refine .refused fault ?_ ?_
        · rw [run_closedColumns, Parser.separatedFromRun_error hp]
        · show columnsFrom _ seen _ = _
          rw [columnsFrom_unfold, hm]
    | given found taken rest hinput hp hm =>
        have hrest : ls = done ++ taken ++ rest := by
          rw [hls, hinput, List.append_assoc]
        have hcurrent := current_scanWith hrest tail
        -- behind a definition stands a comma or a closing parenthesis
        obtain ⟨-, -, -, hends⟩ := (Statement.recognizes_columnDefinition seen).1 hp
        rcases hends with hcomma | hright
        · obtain ⟨comma, left, rfl, hc⟩ := Statement.exists_cons_of_firstToken hcomma
          have hless : left.length < n := by
            rw [← hn, hinput, List.length_append, List.length_cons]
            omega
          have hread : (closedColumns seen).run input = (closedColumns found).run left := by
            rw [run_closedColumns, run_closedColumns,
              Parser.separatedFromRun_more hp (decide_eq_true hc)]
          have hloop := columnsFrom_more hm (hcurrent.trans hcomma)
          rw [← length_concat _ comma] at hloop
          cases ih left.length hless found _ left (eq_concat_append hrest) rfl with
          | refused fault hp' hm' =>
              exact .refused fault (hread.trans hp') (hloop.trans hm')
          | given columns taken' rest' hinput' hp' hm' =>
              refine .given columns (taken ++ comma :: taken') rest' ?_ (hread.trans hp')
                (hloop.trans (hm'.trans ?_))
              · rw [hinput, hinput', List.append_assoc, List.cons_append]
              · simp only [List.append_assoc, List.singleton_append]
        · obtain ⟨right, left, rfl, hr⟩ := Statement.exists_cons_of_firstToken hright
          have hother : firstToken (right :: left) ≠ some .comma := by
            rw [hright]
            simp
          have hlast := columnsFrom_last hm (hcurrent.trans hright)
          have hmore : Parser.separatedFromRun (Statement.isToken .comma)
              Statement.columnDefinition seen input = _ :=
            Parser.separatedFromRun_last hp (Statement.head_not_comma hother)
          have hclose : (Statement.exactly .rightParen).run (right :: left) = .ok ((), left) :=
            (Statement.recognizes_exactly .rightParen).2
              ⟨[right], rfl, Grammar.is_iff.2 ⟨right, rfl, hr⟩, trivial⟩
          refine .given found (taken ++ [right]) left ?_ ?_ (hlast.trans ?_)
          · rw [hinput, List.append_assoc]
            rfl
          · rw [run_closedColumns, hmore]
            dsimp only
            rw [Parser.run_bind, hclose]
            rfl
          · rw [← List.append_assoc, length_concat]

end Definitions

/-! ## §5. The eleven statements. -/

namespace Agrees

theorem condition : Agrees Checked.condition Statement.condition :=
  .bind (.identifier _) fun _ => .bind .comparison fun _ => .bind (.value _) fun _ => .pure _

theorem tuple : Agrees Checked.tuple Statement.tuple :=
  .bind (.exactly _) fun _ => .bind (.commaList (.value _)) fun _ => .bind (.exactly _) fun _ =>
    .pure _

theorem assignment : Agrees Checked.assignment Statement.assignment :=
  .bind (.identifier _) fun _ => .bind (.exactly _) fun _ => .bind (.value _) fun _ => .pure _

theorem readSelect : Agrees Checked.readSelect Statement.readSelect := by
  have hentry : Agrees (Cursor.take entryOfToken? "column name or '*'")
      (Parser.token Statement.projectionEntry? _) :=
    .take _ fun _ => rfl
  exact .bind (.exactly _) fun _ => .bind (.commaList hentry) fun _ => .bind (.exactly _) fun _ =>
    .bind (.identifier _) fun _ => .bind (.close _) fun _ => .pure _

theorem readInsert : Agrees Checked.readInsert Statement.readInsert :=
  .bind (.exactly _) fun _ => .bind (.exactly _) fun _ => .bind (.identifier _) fun _ =>
    .bind (.exactly _) fun _ => .bind (.commaList (.identifier _)) fun _ =>
      .bind (.exactly _) fun _ => .bind (.exactly _) fun _ => .bind (.commaList .tuple) fun _ =>
        .bind (.close _) fun _ => .pure _

theorem readUpdate : Agrees Checked.readUpdate Statement.readUpdate := by
  refine .bind (.exactly _) fun _ => .bind (.identifier _) fun _ => .bind (.exactly _) fun _ =>
    .bind (.commaList .assignment) fun _ => .bind (.exactly _) fun _ =>
      .bind .condition fun _ => .ite ?_ ?_
  · exact .bind (.fail _) fun _ => .bind (.close _) fun _ => .pure _
  · exact .bind (.close _) fun _ => .pure _

theorem readDelete : Agrees Checked.readDelete Statement.readDelete :=
  .bind (.exactly _) fun _ => .bind (.exactly _) fun _ => .bind (.identifier _) fun _ =>
    .bind (.exactly _) fun _ => .bind .condition fun _ => .bind (.close _) fun _ => .pure _

/-- The same reader in other words. -/
theorem congr {m : Cursor α} {p q : LexemeParser α} (h : Agrees m p)
    (hpq : ∀ input, q.run input = p.run input) : Agrees m q := by
  intro ls tail done input hls
  cases h tail done input hls with
  | refused fault hp hm => exact .refused fault ((hpq input).trans hp) hm
  | given a taken rest hinput hp hm =>
      exact .given a taken rest hinput ((hpq input).trans hp) hm

theorem readCreateTable : Agrees Checked.readCreateTable Statement.readCreateTable := by
  refine .bind (.exactly _) fun _ => .bind (.exactly _) fun _ => .bind (.identifier _) fun name =>
    .bind (.exactly _) fun _ => ?_
  refine .congr (.bind (.columns []) fun _ => .bind (.close _) fun _ => .pure _) fun input => ?_
  -- the closing parenthesis belongs to the columns here, and stands behind them there
  rw [Parser.run_bind, Parser.run_bind, run_closedColumns, Parser.run_separatedFrom]
  cases Parser.separatedFromRun (Statement.isToken .comma) Statement.columnDefinition [] input with
  | error fault => rfl
  | ok r =>
      obtain ⟨columns, rest⟩ := r
      dsimp only
      rw [Parser.run_bind, Parser.run_bind]
      cases (Statement.exactly .rightParen).run rest <;> rfl

theorem readNamed (first second : Keyword) (what : String) (statement : String → Statement) :
    Agrees (Checked.readNamed first second what statement) (do
      Statement.word first
      Statement.word second
      let name ← Statement.identifier what
      Statement.close .optional
      return statement name) :=
  .bind (.exactly _) fun _ => .bind (.exactly _) fun _ => .bind (.identifier _) fun _ =>
    .bind (.close _) fun _ => .pure _

theorem readBare (first second : Keyword) (statement : Statement) :
    Agrees (Checked.readBare first second statement) (do
      Statement.word first
      Statement.word second
      Statement.close .required
      return statement) :=
  .bind (.exactly _) fun _ => .bind (.exactly _) fun _ => .bind (.close _) fun _ => .pure _

/-- **Every statement is read by position as it is read by lexemes.** -/
theorem reader (k : Command) : Agrees (Checked.reader k) (Statement.reader k) := by
  cases k with
  | select => exact .readSelect
  | insert => exact .readInsert
  | update => exact .readUpdate
  | delete => exact .readDelete
  | createTable => exact .readCreateTable
  | use =>
      exact .bind (.exactly _) fun _ => .bind (.identifier _) fun _ => .bind (.close _) fun _ =>
        .pure _
  | createDatabase | dropDatabase | dropTable => exact .readNamed _ _ _ _
  | showDatabases | showTables => exact .readBare _ _ _

end Agrees

/-- **Reading a text never crashes.** -/
theorem read_eq (k : Command) (cs : List Char) : read k cs = safe (Statement.read k cs) := by
  unfold read Statement.read
  cases hlexemes : lexemes cs with
  | error fault => rfl
  | ok cut =>
      obtain ⟨ls, tail⟩ := cut
      dsimp only
      have hscan : scanOf ls cs = scanWith ls tail := by
        unfold scanWith
        rw [lexemes_append hlexemes]
      rw [hscan]
      cases @Agrees.reader k ls tail [] ls rfl with
      | refused fault hp hm =>
          rw [hp]
          rw [List.length_nil] at hm
          rw [hm]
          rfl
      | given statement taken rest hinput hp hm =>
          rw [hp]
          rw [List.length_nil] at hm
          rw [hm]
          rfl

end SmallSql.Checked
