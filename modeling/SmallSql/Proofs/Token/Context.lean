/-
  SmallSql.Proofs.Token.Context
  ────────────────────────────────
  What a token takes from the text around it.  A lexeme is a gap, a text and what is left,

      gap  text  left

  and `nextLexeme_some_iff_readsAs` says when such a division is the one that is read.  A reader
  looks at most two characters into what is left; so if that goes on for a while as before and then
  stops, at white space or at the end, the same lexemes are read off:

      u  v  Y   with tokens in u      →      u  v  X   with the same tokens in u

  where nothing or white space begins `X`.
-/
import SmallSql.Proofs.Token.Margin

namespace SmallSql

/-! ## §1. What stands in a gap. -/

/-- A comment that the text ends in, or nothing. -/
inductive OpenComment : List Char → Prop
  | none : OpenComment []
  /-- A line that is not ended. -/
  | line {comment : List Char} : '\n' ∉ comment → OpenComment ('-' :: '-' :: comment)
  /-- A comment without its closing mark. -/
  | block {comment : List Char} : ¬ ['*', '/'] <:+: comment →
      OpenComment ('/' :: '*' :: comment)

/-- White space and comments, of which the last may be open. -/
def LastGap (gap : List Char) : Prop :=
  ∃ closed comment, gap = closed ++ comment ∧ Trivia closed ∧ OpenComment comment

namespace LastGap

variable {c : Char} {comment gap : List Char}

theorem blank (hc : Text.isBlank c = true) (h : LastGap gap) : LastGap (c :: gap) := by
  obtain ⟨closed, last, rfl, hclosed, hlast⟩ := h
  exact ⟨c :: closed, last, rfl, .blank hc hclosed, hlast⟩

theorem line (hcomment : '\n' ∉ comment) (h : LastGap gap) :
    LastGap ('-' :: '-' :: (comment ++ '\n' :: gap)) := by
  obtain ⟨closed, last, rfl, hclosed, hlast⟩ := h
  exact ⟨'-' :: '-' :: (comment ++ '\n' :: closed), last, by simp, .line hcomment hclosed, hlast⟩

theorem block (hcomment : ¬ ['*', '/'] <:+: comment) (h : LastGap gap) :
    LastGap ('/' :: '*' :: (comment ++ '*' :: '/' :: gap)) := by
  obtain ⟨closed, last, rfl, hclosed, hlast⟩ := h
  exact ⟨'/' :: '*' :: (comment ++ '*' :: '/' :: closed), last, by simp, .block hcomment hclosed,
    hlast⟩

end LastGap

/-- A gap with this left behind it: only where nothing is left, a comment may be open. -/
structure IsGap (left gap : List Char) : Prop where
  last : LastGap gap
  closed : left ≠ [] → Trivia gap

/-- The rest of a gap, as it stands from each state on: the comment goes on up to its end, if it has
one, and the gap goes on behind it. -/
def GapState.Goes (left : List Char) : GapState → List Char → Prop
  | .outside, gap => IsGap left gap
  | .line, gap => ('\n' ∉ gap ∧ left = [])
    ∨ ∃ comment after, gap = comment ++ '\n' :: after ∧ '\n' ∉ comment ∧ IsGap left after
  | .block, gap => (¬ ['*', '/'] <:+: gap ∧ left = [])
    ∨ ∃ comment after, gap = comment ++ '*' :: '/' :: after ∧ ¬ ['*', '/'] <:+: comment
      ∧ IsGap left after

/-- A closing mark does not come about by one more character in front. -/
theorem not_mark_cons {c : Char} {comment : List Char}
    (hc : ∀ rest, c = '*' → comment = '/' :: rest → False) (h : ¬ ['*', '/'] <:+: comment) :
    ¬ ['*', '/'] <:+: c :: comment := by
  rw [List.infix_cons_iff]
  rintro (⟨rest, he⟩ | hinside)
  · cases he
    exact hc rest rfl rfl
  · exact h hinside

/-- What is split off is a gap. -/
theorem goes_splitGap (state : GapState) (cs : List Char) :
    state.Goes (splitGap state cs).2 (splitGap state cs).1 := by
  fun_induction splitGap state cs with
  | case1 state =>
      cases state with
      | outside => exact ⟨⟨[], [], rfl, .none, .none⟩, fun h => absurd rfl h⟩
      | line => exact .inl ⟨List.not_mem_nil, rfl⟩
      | block => exact .inl ⟨by simp, rfl⟩
  | case2 c rest gap left hsplit ih =>
      rw [hsplit] at ih
      by_cases hc : c = '\n'
      · rw [if_pos hc] at ih
        exact .inr ⟨[], gap, by rw [hc]; rfl, List.not_mem_nil, ih⟩
      · rw [if_neg hc] at ih
        rcases ih with ⟨hopen, hleft⟩ | ⟨comment, after, rfl, hcomment, hafter⟩
        · exact .inl ⟨List.not_mem_cons_of_ne_of_not_mem (Ne.symm hc) hopen, hleft⟩
        · exact .inr ⟨c :: comment, after, rfl,
            List.not_mem_cons_of_ne_of_not_mem (Ne.symm hc) hcomment, hafter⟩
  | case3 rest gap left hsplit ih =>
      rw [hsplit] at ih
      exact .inr ⟨[], gap, rfl, by simp, ih⟩
  | case4 c rest hno gap left hsplit ih =>
      have hrest : gap ++ left = rest := by
        have happend := splitGap_append .block rest
        rwa [hsplit] at happend
      rw [hsplit] at ih
      -- the mark does not begin here, or it would have ended the comment
      have hmark : ∀ {comment more : List Char}, gap = comment ++ more →
          ∀ after, c = '*' → comment = '/' :: after → False := by
        rintro comment more rfl after hc rfl
        exact hno (after ++ more ++ left) hc (by rw [← hrest]; simp)
      rcases ih with ⟨hopen, hleft⟩ | ⟨comment, after, rfl, hcomment, hafter⟩
      · exact .inl ⟨not_mark_cons (hmark (List.append_nil gap).symm) hopen, hleft⟩
      · exact .inr ⟨c :: comment, after, rfl, not_mark_cons (hmark rfl) hcomment, hafter⟩
  | case5 rest gap left hsplit ih =>
      rw [hsplit] at ih
      rcases ih with ⟨hopen, rfl⟩ | ⟨comment, after, rfl, hcomment, hafter⟩
      · exact ⟨⟨[], _, rfl, .none, .line hopen⟩, fun h => absurd rfl h⟩
      · exact ⟨hafter.last.line hcomment, fun h => .line hcomment (hafter.closed h)⟩
  | case6 rest gap left hsplit ih =>
      rw [hsplit] at ih
      rcases ih with ⟨hopen, rfl⟩ | ⟨comment, after, rfl, hcomment, hafter⟩
      · exact ⟨⟨[], _, rfl, .none, .block hopen⟩, fun h => absurd rfl h⟩
      · exact ⟨hafter.last.block hcomment, fun h => .block hcomment (hafter.closed h)⟩
  | case7 c rest hnoLine hnoBlock hblank gap left hsplit ih =>
      rw [hsplit] at ih
      exact ⟨ih.last.blank hblank, fun h => .blank hblank (ih.closed h)⟩
  | case8 c rest hnoLine hnoBlock hblank =>
      exact ⟨⟨[], [], rfl, .none, .none⟩, fun _ => .none⟩

/-- A gap in front of a token is closed, and behind it no other begins. -/
theorem splitGap_eq_cons_iff {cs gap rest : List Char} {c : Char} :
    splitGap .outside cs = (gap, c :: rest) ↔ cs = gap ++ c :: rest ∧ Trivia gap
      ∧ splitGap .outside (c :: rest) = ([], c :: rest) := by
  constructor
  · intro h
    have hgap : IsGap (splitGap .outside cs).2 (splitGap .outside cs).1 := goes_splitGap .outside cs
    have happend := splitGap_append .outside cs
    rw [h] at hgap happend
    have hclosed : Trivia gap := hgap.closed (List.cons_ne_nil c rest)
    refine ⟨happend.symm, hclosed, ?_⟩
    -- what is split off behind the gap belongs to the gap, which ends there
    have hbehind := splitGap_trivia hclosed (c :: rest)
    rw [show gap ++ c :: rest = cs from happend, h] at hbehind
    obtain ⟨hfirst, hsecond⟩ := Prod.mk.inj hbehind
    exact Prod.ext (List.append_right_eq_self.1 hfirst.symm) hsecond.symm
  · rintro ⟨rfl, hgap, htoken⟩
    rw [splitGap_trivia hgap, htoken]
    exact congrArg (·, c :: rest) (List.append_nil gap)

/-! ## §2. Tokens in front of what is left. -/

/-- In front of `left`, this text is read as this token, with no gap in front. -/
def ReadsAs (text : List Char) (token : Token) (left : List Char) : Prop :=
  ∃ c tail, text = c :: tail
    ∧ splitGap .outside (c :: (tail ++ left)) = ([], c :: (tail ++ left))
    ∧ readToken c (tail ++ left) = .ok ⟨c :: tail, token, left⟩

/-- A lexeme is read exactly if the text is its gap, its text and what is left, the gap is white
space and closed comments, and the text is read as its token there. -/
theorem nextLexeme_some_iff_readsAs {cs left : List Char} {l : Lexeme} :
    nextLexeme cs = .ok (some (l, left))
      ↔ cs = l.gap ++ (l.text ++ left) ∧ Trivia l.gap ∧ ReadsAs l.text l.token left := by
  rw [nextLexeme_some_iff]
  constructor
  · rintro ⟨c, inside, hsplit, hread⟩
    obtain ⟨hcs, hgap, htoken⟩ := splitGap_eq_cons_iff.1 hsplit
    obtain ⟨hinside, -⟩ := readToken_append hread
    -- the text of the token begins with the character that chose the reader
    obtain ⟨tail, htext⟩ : ∃ tail, l.text = c :: tail := by
      cases htext : l.text with
      | nil => exact absurd htext (readToken_append hread).2
      | cons d tail =>
          have he : d :: (tail ++ left) = c :: inside := by
            rw [← hinside, htext]
            rfl
          exact ⟨tail, by rw [(List.cons.inj he).1]⟩
    obtain rfl : tail ++ left = inside := by
      rw [htext] at hinside
      exact (List.cons.inj hinside).2
    rw [htext] at hread ⊢
    exact ⟨hcs, hgap, c, tail, rfl, htoken, hread⟩
  · rintro ⟨rfl, hgap, c, tail, htext, htoken, hread⟩
    refine ⟨c, tail ++ left, ?_, by rw [htext]; exact hread⟩
    rw [htext]
    exact splitGap_eq_cons_iff.2 ⟨rfl, hgap, htoken⟩

/-! ## §3. Readers that look at something else. -/

/-- The text stops here: nothing is left, or white space comes first. -/
def Stops (X : List Char) : Prop := ∀ c ∈ X.head?, Text.isBlank c = true

theorem stops_nil : Stops [] := nofun

theorem stops_append {blanks : List Char} (h : Text.allBlank blanks = true) (hne : blanks ≠ [])
    (rest : List Char) : Stops (blanks ++ rest) := by
  intro c hc
  rw [List.head?_append_of_ne_nil _ hne] at hc
  exact Text.isBlank_head h c hc

section Context

variable {v X Y : List Char}

/-- A condition that white space meets and that held of the first character of `v ++ Y` holds of
that of `v ++ X`. -/
theorem forall_head_of_stops {P : Char → Prop} (hX : Stops X)
    (hblank : ∀ c, Text.isBlank c = true → P c) (h : ∀ c ∈ (v ++ Y).head?, P c) :
    ∀ c ∈ (v ++ X).head?, P c := by
  cases v with
  | nil => exact fun c hc => hblank c (hX c hc)
  | cons d v => exact h

/-- Where no gap begins, none begins if the text stops further on. -/
theorem splitGap_replace (hX : Stops X) {c : Char} {tail : List Char}
    (h : splitGap .outside (c :: (tail ++ (v ++ Y))) = ([], c :: (tail ++ (v ++ Y)))) :
    splitGap .outside (c :: (tail ++ (v ++ X))) = ([], c :: (tail ++ (v ++ X))) := by
  rw [← List.append_assoc] at h ⊢
  -- the second character of a mark is the same in both texts, or white space in the new one
  have hmark : ∀ (d : Char), Text.isBlank d = false →
      (∀ rest, (tail ++ v) ++ Y = d :: rest → False) →
      ∀ rest, (tail ++ v) ++ X = d :: rest → False := by
    intro d hd hno rest he
    have hhead := forall_head_of_stops (P := (· ≠ d)) hX (fun _ hc => ne_of_isBlank hc hd)
      (fun e he' hed => hno _ (by rw [← hed]; exact List.eq_cons_of_mem_head? he'))
    exact hhead d (by rw [he]; rfl) rfl
  have hdash : ∀ rest, c = '-' → (tail ++ v) ++ X = '-' :: rest → False := by
    rintro rest rfl
    refine hmark '-' (by decide +kernel) ?_ rest
    intro rest' he
    rw [he, splitGap] at h
    cases h
  have hslash : ∀ rest, c = '/' → (tail ++ v) ++ X = '*' :: rest → False := by
    rintro rest rfl
    refine hmark '*' (by decide +kernel) ?_ rest
    intro rest' he
    rw [he, splitGap] at h
    cases h
  have hblank : ¬ Text.isBlank c = true := by
    intro hc
    rw [splitGap_blank hc] at h
    cases h
  rw [splitGap, if_neg hblank]
  · exact hdash
  · exact hslash

/-- Where a number ends, it ends if the text stops further on. -/
theorem splitNumber_end_replace (hX : Stops X) {pointSeen : Bool}
    (h : splitNumber pointSeen (v ++ Y) = ([], v ++ Y)) :
    splitNumber pointSeen (v ++ X) = ([], v ++ X) := by
  have hdigit : ∀ c, Text.isBlank c = true → Text.isDigit c = false := fun c hc =>
    (stops_of_isBlank hc).1
  cases v with
  | nil =>
      rw [List.nil_append]
      cases X with
      | nil => rw [splitNumber]
      | cons c rest =>
          have hc := hX c rfl
          have hpoint : c ≠ '.' := ne_of_isBlank hc (by decide +kernel)
          rw [splitNumber, hdigit c hc, if_neg Bool.false_ne_true, decide_eq_false hpoint,
            Bool.false_and, Bool.false_and, if_neg Bool.false_ne_true]
  | cons d v =>
      rw [List.cons_append, splitNumber] at h ⊢
      split at h
      · cases h
      split at h
      · cases h
      · next hd hpoint =>
        rw [if_neg hd, if_neg]
        simp only [Bool.and_eq_true, not_and] at hpoint ⊢
        intro hdot
        -- behind a point comes what came there, or white space
        have hhead : ∀ c ∈ (v ++ X).head?, Text.isDigit c = false := by
          refine forall_head_of_stops (Y := Y) hX hdigit fun c hc => ?_
          have hno := hpoint hdot
          rw [Option.mem_def] at hc
          rwa [hc, Option.any_some, Bool.not_eq_true] at hno
        cases hvX : (v ++ X).head? with
        | none => simp
        | some c =>
            rw [Option.any_some, hhead c hvX]
            decide

/-- A digit that comes next belongs to the number. -/
theorem ne_nil_of_splitNumber {pointSeen : Bool} {cs digits left : List Char}
    (h : splitNumber pointSeen cs = (digits, left)) (hdigit : cs.head?.any Text.isDigit = true) :
    digits ≠ [] := by
  cases cs with
  | nil => cases hdigit
  | cons c rest =>
      have hc : Text.isDigit c = true := hdigit
      rw [splitNumber, if_pos hc] at h
      cases h
      exact List.cons_ne_nil _ _

/-- A number ends where it ended. -/
theorem splitNumber_replace (hX : Stops X) {pointSeen : Bool} {tail : List Char}
    (h : splitNumber pointSeen (tail ++ (v ++ Y)) = (tail, v ++ Y)) :
    splitNumber pointSeen (tail ++ (v ++ X)) = (tail, v ++ X) := by
  induction tail generalizing pointSeen with
  | nil => exact splitNumber_end_replace hX h
  | cons d tail ih =>
      have hrest : ∀ {split : List Char × List Char},
          (d :: split.1, split.2) = (d :: tail, v ++ Y) → split = (tail, v ++ Y) := by
        rintro ⟨digits, left⟩ he
        cases he
        rfl
      rw [List.cons_append, splitNumber] at h ⊢
      by_cases hd : Text.isDigit d = true
      · rw [if_pos hd] at h ⊢
        rw [ih (hrest h)]
      · rw [if_neg hd] at h ⊢
        split at h
        · next hpoint =>
          have hnumber := hrest h
          -- the digit behind the point belongs to the number, so it is there in both texts
          have hhead : (tail ++ (v ++ X)).head? = (tail ++ (v ++ Y)).head? := by
            have hdigit : (tail ++ (v ++ Y)).head?.any Text.isDigit = true := by
              rw [Bool.and_eq_true] at hpoint
              exact hpoint.2
            rw [List.head?_append_of_ne_nil _ (ne_nil_of_splitNumber hnumber hdigit),
              List.head?_append_of_ne_nil _ (ne_nil_of_splitNumber hnumber hdigit)]
          rw [hhead, if_pos hpoint, ih hnumber]
        · cases h

/-- A string ends where it ended. -/
theorem readString_replace (hX : Stops X) {quote : Char} (hquote : Text.isBlank quote = false)
    {cs content text : List Char} (h : readString quote cs = .closed content text (v ++ Y)) :
    readString quote (text ++ (v ++ X)) = .closed content text (v ++ X) := by
  -- behind the closing quote stands no other
  have hclose : (∀ c ∈ (v ++ Y).head?, c ≠ quote) →
      readString quote (quote :: (v ++ X)) = .closed [] [quote] (v ++ X) := by
    intro hY
    have hhead := forall_head_of_stops (P := (· ≠ quote)) hX
      (fun _ hc => ne_of_isBlank hc hquote) hY
    cases hvX : v ++ X with
    | nil => rw [readString, if_pos rfl]
    | cons d rest =>
        rw [hvX] at hhead
        rw [readString, if_pos rfl, if_neg (hhead d rfl)]
  generalize hleft : v ++ Y = left at h
  fun_induction readString quote cs generalizing content text with
  | case1 => cases h
  | case2 =>
      cases h
      refine hclose ?_
      rw [hleft]
      intro c hc
      cases hc
  | case3 => cases h
  | case4 => cases h
  | case5 cs ih =>
      obtain ⟨content', text', he, rfl, rfl⟩ := StringEnd.push_eq_closed h
      rw [List.append_assoc, List.cons_append, List.cons_append, List.nil_append, readString,
        if_pos rfl, if_pos rfl, ih he]
      rfl
  | case6 d cs hd =>
      cases h
      refine hclose ?_
      rw [hleft]
      intro c hc
      cases hc
      exact hd
  | case7 d cs hq ih =>
      obtain ⟨content', text', he, rfl, rfl⟩ := StringEnd.push_eq_closed h
      rw [List.append_assoc, List.cons_append, List.cons_append, List.nil_append, readString,
        if_neg hq, if_pos rfl, ih he]
      rfl
  | case8 c d cs hq hs ih =>
      obtain ⟨content', text', he, rfl, rfl⟩ := StringEnd.push_eq_closed h
      rw [List.append_assoc, List.singleton_append, readString_plain hq hs, ih he]
      rfl

/-- A run that stopped at `v ++ Y` stops at `v ++ X`. -/
theorem takeWhile_replace (hX : Stops X) {p : Char → Bool} {tail rest : List Char}
    (hblank : ∀ c, Text.isBlank c = true → p c = false) (htake : rest.takeWhile p = tail)
    (hdrop : rest.dropWhile p = v ++ Y) :
    (tail ++ (v ++ X)).takeWhile p = tail ∧ (tail ++ (v ++ X)).dropWhile p = v ++ X := by
  have hrun : ∀ c ∈ tail, p c = true := by
    rw [← htake]
    exact List.all_eq_true.1 List.all_takeWhile
  refine takeWhile_run hrun (forall_head_of_stops (Y := Y) hX hblank fun c hc => ?_)
  have hstop := List.head?_dropWhile_not p rest
  rw [hdrop] at hstop
  rw [Option.mem_def] at hc
  rw [hc] at hstop
  simpa using hstop

/-- A run with the character that closed it is closed there whatever stands behind it. -/
theorem takeWhile_closed {p : Char → Bool} {rest left tail : List Char} {d : Char}
    (hclose : rest.dropWhile p = d :: left) (htail : rest.takeWhile p ++ [d] = tail)
    (Z : List Char) :
    (tail ++ Z).takeWhile p = rest.takeWhile p ∧ (tail ++ Z).dropWhile p = d :: Z := by
  have hd : p d = false := by
    have hstop := List.head?_dropWhile_not p rest
    rw [hclose] at hstop
    simpa using hstop
  rw [← htail, List.append_assoc]
  refine takeWhile_run (List.all_eq_true.1 List.all_takeWhile) ?_
  rintro _ ⟨⟩
  exact hd

/-- A token ends where it ended. -/
theorem readToken_replace (hX : Stops X) {c : Char} {tail : List Char} {token : Token}
    (h : readToken c (tail ++ (v ++ Y)) = .ok ⟨c :: tail, token, v ++ Y⟩) :
    readToken c (tail ++ (v ++ X)) = .ok ⟨c :: tail, token, v ++ X⟩ := by
  unfold readToken at h ⊢
  -- the reader is chosen by the first character, which is the same
  by_cases hc : Text.isDigit c = true
  · rw [if_pos hc] at h ⊢
    dsimp only at h ⊢
    generalize hsplit : splitNumber false (tail ++ (v ++ Y)) = split at h
    obtain ⟨digits, left⟩ := split
    cases h
    rw [splitNumber_replace hX hsplit]
  rw [if_neg hc] at h ⊢
  by_cases hc : (c = '\'' || c = '"') = true
  · rw [if_pos hc] at h ⊢
    have hquote : Text.isBlank c = false := isBlank_quote (by simpa using hc)
    split at h
    · next hread =>
      cases h
      rw [readString_replace hX hquote hread]
    · cases h
  rw [if_neg hc] at h ⊢
  by_cases hc : (c = '\x60' || c = '[') = true
  · rw [if_pos hc] at h ⊢
    dsimp only at h ⊢
    split at h
    · next d left hclose =>
      injection h with h
      injection h with htext htoken hleft
      obtain ⟨htake, hdrop⟩ := takeWhile_closed hclose (List.cons.inj htext).2 (v ++ X)
      rw [htake, hdrop, ← htoken, ← htext]
    · cases h
  rw [if_neg hc] at h ⊢
  by_cases hc : isWordStart c = true
  · rw [if_pos hc] at h ⊢
    dsimp only at h ⊢
    injection h with h
    injection h with htext htoken hleft
    obtain ⟨htake, hdrop⟩ := takeWhile_replace hX (fun _ hc => (stops_of_isBlank hc).2.1)
      (List.cons.inj htext).2 hleft
    rw [htake, hdrop, ← htoken, (List.cons.inj htext).2]
  rw [if_neg hc] at h ⊢
  by_cases hc : isOperatorChar c = true
  · rw [if_pos hc] at h ⊢
    dsimp only at h ⊢
    injection h with h
    injection h with htext htoken hleft
    obtain ⟨htake, hdrop⟩ := takeWhile_replace hX (fun _ hc => (stops_of_isBlank hc).2.2)
      (List.cons.inj htext).2 hleft
    rw [htake, hdrop, ← htoken, (List.cons.inj htext).2]
  · rw [if_neg hc] at h ⊢
    injection h with h
    injection h with htext htoken hleft
    obtain rfl : tail = [] := (List.cons.inj htext).2.symm
    rw [htoken]
    rfl

/-- A token is read in front of what goes on as before and then stops. -/
theorem ReadsAs.replace (hX : Stops X) {text : List Char} {token : Token}
    (h : ReadsAs text token (v ++ Y)) : ReadsAs text token (v ++ X) := by
  obtain ⟨c, tail, htext, htoken, hread⟩ := h
  exact ⟨c, tail, htext, splitGap_replace hX htoken, readToken_replace hX hread⟩

/-! ## §4. Lexemes in front of what is left. -/

/-- A text that begins with a lexeme has the lexemes of what is left behind it. -/
theorem exists_lexemes_left {cs left tail : List Char} {l : Lexeme} {ls : List Lexeme}
    (hnext : nextLexeme cs = .ok (some (l, left))) (h : lexemes cs = .ok (ls, tail)) :
    ∃ others, ls = l :: others ∧ lexemes left = .ok (others, tail) := by
  rw [lexemes_unfold, hnext] at h
  dsimp only at h
  split at h
  · cases h
  · next others tail' hleft =>
    cases h
    exact ⟨others, rfl, hleft⟩

/-- A text without lexemes has no first one. -/
theorem nextLexeme_of_lexemes_nil {cs tail : List Char} (h : lexemes cs = .ok ([], tail)) :
    nextLexeme cs = .ok none := by
  cases hnext : nextLexeme cs with
  | error fault =>
      rw [lexemes_unfold, hnext] at h
      cases h
  | ok next =>
      cases next with
      | none => rfl
      | some cut =>
          obtain ⟨others, he, -⟩ := exists_lexemes_left hnext h
          cases he

/-- The first lexeme, and the lexemes of what it leaves. -/
theorem lexemes_cons_iff {cs tail : List Char} {l : Lexeme} {ls : List Lexeme} :
    lexemes cs = .ok (l :: ls, tail)
      ↔ ∃ left, nextLexeme cs = .ok (some (l, left)) ∧ lexemes left = .ok (ls, tail) := by
  constructor
  · intro h
    cases hnext : nextLexeme cs with
    | error fault =>
        rw [lexemes_unfold, hnext] at h
        cases h
    | ok next =>
        cases next with
        | none =>
            rw [lexemes_unfold, hnext] at h
            cases h
        | some cut =>
            obtain ⟨others, he, hleft⟩ := exists_lexemes_left hnext h
            cases he
            exact ⟨cut.2, rfl, hleft⟩
  · rintro ⟨left, hnext, hleft⟩
    exact lexemes_cons hnext hleft

/-- **Lexemes do not look far ahead.**  Those of a text are read off it as well if what is left goes
on as before and then stops; behind them come the lexemes of what is there then. -/
theorem lexemes_replace (done : List Lexeme) (hX : Stops X) {others new : List Lexeme}
    {tail tail' : List Char}
    (h : lexemes (done.flatMap Lexeme.written ++ (v ++ Y)) = .ok (done ++ others, tail))
    (hnew : lexemes (v ++ X) = .ok (new, tail')) :
    lexemes (done.flatMap Lexeme.written ++ (v ++ X)) = .ok (done ++ new, tail') := by
  induction done with
  | nil => exact hnew
  | cons l done ih =>
      rw [List.cons_append, lexemes_cons_iff] at h
      obtain ⟨left, hnext, hleft⟩ := h
      obtain ⟨hcs, hgap, hreads⟩ := nextLexeme_some_iff_readsAs.1 hnext
      -- what is left behind the first lexeme goes on with the others
      obtain rfl : done.flatMap Lexeme.written ++ (v ++ Y) = left := by
        simpa [Lexeme.written] using hcs
      rw [← List.append_assoc] at hreads
      refine lexemes_cons (nextLexeme_some_iff_readsAs.2 ⟨?_, hgap, ?_⟩) (ih hleft)
      · simp [Lexeme.written]
      · rw [← List.append_assoc]
        exact hreads.replace hX

end Context

/-- What stands behind the first lexemes is read as the others. -/
theorem lexemes_behind (done : List Lexeme) {others : List Lexeme} {cs tail : List Char}
    (h : lexemes cs = .ok (done ++ others, tail)) :
    lexemes (others.flatMap Lexeme.written ++ tail) = .ok (others, tail) := by
  induction done generalizing cs with
  | nil =>
      have happend := lexemes_append h
      rw [List.nil_append] at h happend
      rwa [happend]
  | cons l done ih =>
      obtain ⟨left, -, hleft⟩ := lexemes_cons_iff.1 h
      exact ih hleft

/-- The gap in front of a text can be taken away. -/
theorem lexemes_ungap {gap cs tail : List Char} {l : Lexeme} {ls : List Lexeme}
    (hgap : l.gap = gap) (h : lexemes (gap ++ cs) = .ok (l :: ls, tail)) :
    lexemes cs = .ok ({ l with gap := [] } :: ls, tail) := by
  subst hgap
  obtain ⟨left, hnext, hleft⟩ := lexemes_cons_iff.1 h
  obtain ⟨hcs, -, hreads⟩ := nextLexeme_some_iff_readsAs.1 hnext
  obtain rfl : cs = l.text ++ left := List.append_cancel_left hcs
  exact lexemes_cons (nextLexeme_some_iff_readsAs.2 ⟨rfl, .none, hreads⟩) hleft

end SmallSql
