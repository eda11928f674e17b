/-
  SmallSql.Proofs.Token.Layout
  ────────────────────────────────
  Texts that tokens are written as.  A layout of tokens is

      spelling  gap  spelling  gap  …  spelling

  where the gaps may be of any length, and empty unless the two tokens beside it would run together.
  `lexemes_layout` says that a layout, with any gaps around it, is read as its tokens.
-/
import Mathlib.Data.List.Basic
import SmallSql.Proofs.Token.Spelling

namespace SmallSql

/-! ## §1. Tokens side by side. -/

/-- What a character is to the tokens that go on for several characters: a part of a word, a part
of an operator, a quote. -/
structure Traits where
  inWord : Bool
  inOperator : Bool
  isQuote : Bool
deriving DecidableEq

/-- The traits of a character. -/
def traits (c : Char) : Traits where
  inWord := isWordChar c
  inOperator := isOperatorChar c
  isQuote := c = '\'' || c = '"'

namespace Token

/-- The traits of the first character of a token. -/
def traits : Token → Traits
  | keyword _ => ⟨true, false, false⟩
  | comparison _ => ⟨false, true, false⟩
  | string _ => ⟨false, false, true⟩
  | _ => ⟨false, false, false⟩

/-- Two tokens that begin alike need a gap between them: keywords, comparisons, strings. -/
def clings (t t' : Token) : Bool :=
  t.traits.inWord && t'.traits.inWord || t.traits.inOperator && t'.traits.inOperator
    || t.traits.isQuote && t'.traits.isQuote

end Token

/-- Nothing that begins a gap goes on a token. -/
theorem goesOn_of_opensGap (first : Char) {c : Char} (h : opensGap c = true) :
    goesOn first c = false := by
  have htraits : traits c = ⟨false, false, false⟩ := by
    simp only [opensGap, Bool.or_eq_true, decide_eq_true_eq] at h
    rcases h with (hblank | rfl) | rfl
    · exact forall_isBlank (P := fun c => traits c = ⟨false, false, false⟩) (by decide +kernel)
        hblank
    · decide
    · decide
  have hword : isWordChar c = false := congrArg Traits.inWord htraits
  have hoperator : isOperatorChar c = false := congrArg Traits.inOperator htraits
  have hquote : (c = '\'' || c = '"') = false := congrArg Traits.isQuote htraits
  unfold goesOn
  rw [hword, hoperator, Bool.and_false, ite_self]
  split
  · next hq =>
    rw [decide_eq_false_iff_not]
    rintro rfl
    rw [hq] at hquote
    cases hquote
  · rfl

/-- The first character of a spelling has the traits of the token. -/
theorem Spelling.traits {t : Token} {text : List Char} (h : Spelling t text) :
    ∀ first ∈ text.head?, traits first = t.traits := by
  intro first hfirst
  cases h with
  | @keyword k _ hk =>
      have halpha := isAlpha_of_spelling hk first (List.mem_of_mem_head? hfirst)
      exact forall_isAlpha (P := fun c => SmallSql.traits c = ⟨true, false, false⟩)
        (by decide) halpha
  | name ho hn =>
      cases hfirst
      show SmallSql.traits first = ⟨false, false, false⟩
      rcases ho with rfl | rfl
      · decide
      · decide
  | string content hq =>
      cases hfirst
      show SmallSql.traits first = ⟨false, false, true⟩
      rcases hq with rfl | rfl
      · decide
      · decide
  | comparison c =>
      show SmallSql.traits first = ⟨false, true, false⟩
      obtain ⟨first', tail, hsymbol, hoperator⟩ := symbol_eq_cons c
      rw [hsymbol] at hfirst
      cases hfirst
      have hcases := hoperator first List.mem_cons_self
      simp only [isOperatorChar, Bool.or_eq_true, decide_eq_true_eq] at hcases
      rcases hcases with ((rfl | rfl) | rfl) | rfl
      · decide
      · decide
      · decide
      · decide
  | @mark c hc =>
      cases hfirst
      exact forall_marks (P := fun c => SmallSql.traits c = (punctuation c).traits)
        (by decide) hc

/-- Tokens that do not cling may stand side by side. -/
theorem Spelling.endsBefore {t t' : Token} {text text' : List Char} (h : Spelling t text)
    (h' : Spelling t' text') (hclings : t.clings t' = false) (hne : text' ≠ [])
    (rest : List Char) : EndsBefore text (text' ++ rest) := by
  intro first hfirst c hc
  have hc' : c ∈ text'.head? := by
    cases text' with
    | nil => exact absurd rfl hne
    | cons d tail => exact hc
  unfold Token.clings at hclings
  rw [← h.traits first hfirst, ← h'.traits c hc', Bool.or_eq_false_iff,
    Bool.or_eq_false_iff] at hclings
  obtain ⟨⟨hwords, hoperators⟩, hquotes⟩ := hclings
  change (isWordChar first && isWordChar c) = false at hwords
  change (isOperatorChar first && isOperatorChar c) = false at hoperators
  change ((first = '\'' || first = '"') && (c = '\'' || c = '"')) = false at hquotes
  unfold goesOn
  by_cases hq : (first = '\'' || first = '"') = true
  · rw [if_pos hq, decide_eq_false_iff_not]
    rintro rfl
    rw [hq] at hquotes
    cases hquotes
  · rw [if_neg hq]
    by_cases ho : isOperatorChar first = true
    · rwa [if_pos ho, ← Bool.true_and (isOperatorChar c), ← ho]
    · rw [if_neg ho]
      by_cases hw : isWordStart first = true
      · rwa [hw, ← isWordChar_of_isWordStart hw]
      · rw [Bool.not_eq_true] at hw
        rw [hw, Bool.false_and]

/-! ## §2. Layouts. -/

/-- Tokens with gaps between them. -/
inductive Layout : List Token → List Char → Prop
  | last {t : Token} {text : List Char} (h : Spelling t text) : Layout [t] text
  | more {t t' : Token} {ts : List Token} {text gap rest : List Char} (h : Spelling t text)
      (hgap : Trivia gap) (hapart : t.clings t' = true → gap ≠ [])
      (hrest : Layout (t' :: ts) rest) : Layout (t :: t' :: ts) (text ++ (gap ++ rest))

/-- The text of a layout begins with that of its first token. -/
theorem Layout.exists_spelling {t : Token} {ts : List Token} {body : List Char}
    (h : Layout (t :: ts) body) :
    ∃ text rest, Spelling t text ∧ text ≠ [] ∧ body = text ++ rest := by
  have hne : ∀ {text}, Spelling t text → text ≠ [] := by
    intro text hs
    have hnothing : EndsBefore text [] := fun _ _ _ hc => by cases hc
    obtain ⟨first, tail, he, -⟩ := readToken_spelling hs hnothing
    rw [he]
    exact List.cons_ne_nil _ _
  cases h with
  | last hs => exact ⟨body, [], hs, hne hs, (List.append_nil body).symm⟩
  | more hs => exact ⟨_, _, hs, hne hs, rfl⟩

/-- A gap that begins behind a token ends it. -/
theorem endsBefore_trivia (text : List Char) {gap : List Char} (h : Trivia gap)
    (hne : gap ≠ []) (rest : List Char) : EndsBefore text (gap ++ rest) := by
  intro first _ c hc
  apply goesOn_of_opensGap
  apply h.opensGap_head
  cases gap with
  | nil => exact absurd rfl hne
  | cons d tail => exact hc

/-- One token of a layout: the gap in front of it, itself, and what follows. -/
theorem nextLexeme_spelling {t : Token} {gap text rest : List Char} (hgap : Trivia gap)
    (h : Spelling t text) (hrest : EndsBefore text rest) :
    nextLexeme (gap ++ (text ++ rest)) = .ok (some (⟨gap, text, t⟩, rest)) := by
  obtain ⟨first, tail, rfl, hopens, hread⟩ := readToken_spelling h hrest
  have hsplit : splitGap .outside (gap ++ (first :: tail ++ rest))
      = (gap, first :: (tail ++ rest)) := by
    rw [splitGap_trivia hgap, List.cons_append, splitGap_token hopens]
    simp [prepend]
  unfold nextLexeme
  rw [hsplit]
  dsimp only
  rw [hread]

/-- Nothing is read off trivia. -/
theorem lexemes_trivia {gap : List Char} (h : Trivia gap) : lexemes gap = .ok ([], gap) := by
  have hsplit := splitGap_trivia h []
  have hnext : nextLexeme gap = .ok none := by
    unfold nextLexeme
    rw [List.append_nil] at hsplit
    rw [hsplit]
    rfl
  rw [lexemes]
  split
  · next he => rw [hnext] at he; cases he
  · rfl
  · next he => rw [hnext] at he; cases he

theorem lexemes_cons {cs rest tail : List Char} {l : Lexeme} {ls : List Lexeme}
    (h : nextLexeme cs = .ok (some (l, rest))) (hrest : lexemes rest = .ok (ls, tail)) :
    lexemes cs = .ok (l :: ls, tail) := by
  rw [lexemes]
  split
  · next he => rw [h] at he; cases he
  · next he => rw [h] at he; cases he
  · next l' rest' he =>
    rw [h] at he
    cases he
    rw [hrest]

/-- **A layout is read as its tokens**, whatever gaps stand in front of it and behind it. -/
theorem lexemes_layout {ts : List Token} {gap body tail : List Char} (h : Layout ts body)
    (hgap : Trivia gap) (htail : Trivia tail) :
    ∃ ls, lexemes (gap ++ (body ++ tail)) = .ok (ls, tail) ∧ ls.map Lexeme.token = ts := by
  -- by induction on the layout; the gap behind a token is the gap in front of the next
  induction h generalizing gap with
  | @last t text hs =>
      have hend : EndsBefore text tail := by
        by_cases hne : tail = []
        · subst hne
          exact fun _ _ _ hc => by cases hc
        · rw [← List.append_nil tail]
          exact endsBefore_trivia text htail hne []
      exact ⟨[⟨gap, text, t⟩],
        lexemes_cons (nextLexeme_spelling hgap hs hend) (lexemes_trivia htail), rfl⟩
  | @more t t' ts text gap' rest hs hgap' hapart hrest ih =>
      have hend : EndsBefore text (gap' ++ (rest ++ tail)) := by
        by_cases hne : gap' = []
        · obtain ⟨text', rest', hs', hne', rfl⟩ := hrest.exists_spelling
          have hclings : t.clings t' = false := by
            rw [← Bool.not_eq_true]
            exact fun hc => hapart hc hne
          rw [hne, List.nil_append, List.append_assoc]
          exact hs.endsBefore hs' hclings hne' _
        · exact endsBefore_trivia text hgap' hne _
      obtain ⟨ls, hls, htokens⟩ := ih hgap'
      refine ⟨⟨gap, text, t⟩ :: ls, ?_, ?_⟩
      · rw [List.append_assoc, List.append_assoc]
        exact lexemes_cons (nextLexeme_spelling hgap hs hend) hls
      · rw [List.map_cons, htokens]

/-! ## §3. Ends of a layout. -/

/-- No spelling ends with white space. -/
theorem Spelling.last_not_blank {t : Token} {text : List Char} (h : Spelling t text) :
    ∀ c ∈ text.getLast?, Text.isBlank c = false := by
  intro c hc
  cases h with
  | keyword hk =>
      have halpha := isAlpha_of_spelling hk c (List.mem_of_mem_getLast? hc)
      exact forall_isAlpha (P := fun c => Text.isBlank c = false) (by decide) halpha
  | name ho hn =>
      rw [← List.cons_append, List.getLast?_concat] at hc
      cases hc
      rcases ho with rfl | rfl
      · decide
      · decide
  | string content hq =>
      rw [← List.cons_append, List.getLast?_concat] at hc
      cases hc
      rcases hq with rfl | rfl
      · decide
      · decide
  | comparison op =>
      have hmem := List.mem_of_mem_getLast? hc
      have hall : op.symbol.toList.all (fun d => !Text.isBlank d) = true := by
        cases op <;> decide
      rw [← Bool.not_eq_true']
      exact List.all_eq_true.1 hall c hmem
  | mark hm =>
      rw [List.getLast?_singleton] at hc
      cases hc
      exact forall_marks (P := fun c => Text.isBlank c = false) (by decide) hm

/-- A layout neither begins nor ends with white space. -/
theorem Layout.ends_not_blank {ts : List Token} {body : List Char} (h : Layout ts body) :
    body ≠ [] ∧ (∀ c ∈ body.head?, Text.isBlank c = false)
      ∧ ∀ c ∈ body.getLast?, Text.isBlank c = false := by
  have hfirst : ∀ {t text}, Spelling t text →
      text ≠ [] ∧ ∀ c ∈ text.head?, Text.isBlank c = false := by
    intro t text hs
    have hnothing : EndsBefore text [] := fun _ _ _ hc => by cases hc
    obtain ⟨first, tail, rfl, hopens, -⟩ := readToken_spelling hs hnothing
    refine ⟨List.cons_ne_nil _ _, fun c hc => ?_⟩
    cases hc
    simp only [opensGap, Bool.or_eq_false_iff] at hopens
    exact hopens.1.1
  induction h with
  | last hs => exact ⟨(hfirst hs).1, (hfirst hs).2, hs.last_not_blank⟩
  | @more t t' ts text gap rest hs hgap hapart hrest ih =>
      obtain ⟨hne, hhead⟩ := hfirst hs
      obtain ⟨hne', -, hlast⟩ := ih
      refine ⟨List.append_ne_nil_of_left_ne_nil hne _, fun c hc => ?_, fun c hc => ?_⟩
      · rw [List.head?_append_of_ne_nil _ hne] at hc
        exact hhead c hc
      · rw [List.getLast?_append_of_ne_nil _ (List.append_ne_nil_of_right_ne_nil _ hne'),
          List.getLast?_append_of_ne_nil _ hne'] at hc
        exact hlast c hc

end SmallSql
