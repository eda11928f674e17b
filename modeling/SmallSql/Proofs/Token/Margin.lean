/-
  SmallSql.Proofs.Token.Margin
  ────────────────────────────────
  White space around a text leaves its tokens as they are.  In front of the text it belongs to the
  gap of the first lexeme, behind the text to the gap that ends it:

      before  gap₁ text₁  gap₂ text₂  …  gap  after

  A text that ends inside a string or a quoted name still does with white space behind it, since
  nothing of white space closes a quote.
-/
import SmallSql.Proofs.Text.Trim
import SmallSql.Proofs.Token.OpenEnd

namespace SmallSql

/-! ## §1. White space goes on no token. -/

theorem stops_of_isBlank {c : Char} (h : Text.isBlank c = true) :
    Text.isDigit c = false ∧ isWordChar c = false ∧ isOperatorChar c = false :=
  forall_isBlank (P := fun c => Text.isDigit c = false ∧ isWordChar c = false
    ∧ isOperatorChar c = false) (by decide +kernel) h

theorem ne_of_isBlank {c d : Char} (h : Text.isBlank c = true) (hd : Text.isBlank d = false) :
    c ≠ d := by
  rintro rfl
  rw [h] at hd
  cases hd

theorem isBlank_quote {quote : Char} (h : quote = '\'' ∨ quote = '"') :
    Text.isBlank quote = false := by
  rcases h with rfl | rfl
  · decide
  · decide

theorem isBlank_closingQuote {opening : Char} (h : opening = '\x60' ∨ opening = '[') :
    Text.isBlank (closingQuote opening) = false := by
  rcases h with rfl | rfl
  · decide
  · decide

section Margin

variable {before tail : List Char}

/-! ## §2. Gaps before white space. -/

/-- What is split off with a tail behind the text: the tail is part of the gap if the gap was all
there is. -/
def trail (tail : List Char) : List Char × List Char → List Char × List Char
  | (gap, []) => (gap ++ tail, [])
  | (gap, c :: rest) => (gap, c :: (rest ++ tail))

theorem trail_prepend (gap : List Char) (split : List Char × List Char) :
    trail tail (prepend gap split) = prepend gap (trail tail split) := by
  obtain ⟨gap', _ | ⟨c, rest⟩⟩ := split
  · simp [trail, prepend]
  · rfl

/-- White space is a gap, also inside a comment. -/
theorem splitGap_allBlank (state : GapState) (htail : Text.allBlank tail = true) :
    splitGap state tail = (tail, []) := by
  induction tail generalizing state with
  | nil => rw [splitGap]
  | cons c rest ih =>
      obtain ⟨hc, hrest⟩ := Text.allBlank_cons.1 htail
      cases state with
      | outside => rw [splitGap_blank hc, ih .outside hrest]; rfl
      | line => rw [splitGap, ih _ hrest]
      | block =>
          rw [splitGap, ih .block hrest]
          intro _ he
          exact absurd he (ne_of_isBlank hc (by decide))

/-- A character that is not white space and stands in front of a text with white space behind it
stands in front of the text. -/
theorem exists_cons_of_append_blank (htail : Text.allBlank tail = true) {cs rest : List Char}
    {d : Char} (hd : Text.isBlank d = false) (h : cs ++ tail = d :: rest) :
    ∃ rest', cs = d :: rest' := by
  cases cs with
  | nil =>
      subst h
      exact absurd rfl (ne_of_isBlank (Text.isBlank_head htail d rfl) hd)
  | cons c cs =>
      cases h
      exact ⟨cs, rfl⟩

/-- A gap ends before white space where it ends without, or goes on through all of it. -/
theorem splitGap_append_blank (htail : Text.allBlank tail = true) (state : GapState)
    (cs : List Char) : splitGap state (cs ++ tail) = trail tail (splitGap state cs) := by
  -- a mark of two characters is not made up with the tail
  have hmark : ∀ {c d d' : Char} {rest : List Char}, Text.isBlank d = false →
      (∀ rest', c = d' → rest = d :: rest' → False) →
      ∀ rest', c = d' → rest ++ tail = d :: rest' → False := by
    intro c d d' rest hd hno rest' hc he
    obtain ⟨rest'', hrest⟩ := exists_cons_of_append_blank htail hd he
    exact hno rest'' hc hrest
  fun_induction splitGap state cs with
  | case1 state => exact splitGap_allBlank state htail
  | case2 c rest gap left hsplit ih =>
      rw [List.cons_append, splitGap, ih, hsplit]
      exact (trail_prepend [c] (gap, left)).symm
  | case3 rest gap left hsplit ih =>
      rw [List.cons_append, List.cons_append, splitGap, ih, hsplit]
      exact (trail_prepend ['*', '/'] (gap, left)).symm
  | case4 c rest hno gap left hsplit ih =>
      rw [List.cons_append, splitGap, ih, hsplit]
      · exact (trail_prepend [c] (gap, left)).symm
      · exact hmark (by decide) hno
  | case5 rest gap left hsplit ih =>
      rw [List.cons_append, List.cons_append, splitGap, ih, hsplit]
      exact (trail_prepend ['-', '-'] (gap, left)).symm
  | case6 rest gap left hsplit ih =>
      rw [List.cons_append, List.cons_append, splitGap, ih, hsplit]
      exact (trail_prepend ['/', '*'] (gap, left)).symm
  | case7 c rest hnoLine hnoBlock hblank gap left hsplit ih =>
      rw [List.cons_append, splitGap_blank hblank, ih, hsplit]
      exact (trail_prepend [c] (gap, left)).symm
  | case8 c rest hnoLine hnoBlock hblank =>
      rw [List.cons_append, splitGap, if_neg hblank]
      · rfl
      · exact hmark (by decide) hnoLine
      · exact hmark (by decide) hnoBlock

/-! ## §3. Tokens before white space. -/

theorem splitNumber_append_blank (htail : Text.allBlank tail = true) (pointSeen : Bool)
    (cs : List Char) : splitNumber pointSeen (cs ++ tail)
      = ((splitNumber pointSeen cs).1, (splitNumber pointSeen cs).2 ++ tail) := by
  have hdigit : ∀ c ∈ tail.head?, Text.isDigit c = false := fun c hc =>
    (stops_of_isBlank (Text.isBlank_head htail c hc)).1
  have hpoint : ∀ rest : List Char,
      (rest ++ tail).head?.any Text.isDigit = rest.head?.any Text.isDigit := by
    intro rest
    cases rest with
    | nil =>
        cases tail with
        | nil => rfl
        | cons c tail => exact hdigit c rfl
    | cons => rfl
  fun_induction splitNumber pointSeen cs with
  | case1 pointSeen =>
      cases tail with
      | nil => rfl
      | cons c tail =>
          have hc : c ≠ '.' := ne_of_isBlank (Text.isBlank_head htail c rfl) (by decide)
          rw [List.nil_append, splitNumber, hdigit c rfl, if_neg Bool.false_ne_true,
            decide_eq_false hc, Bool.false_and, Bool.false_and, if_neg Bool.false_ne_true]
  | case2 pointSeen c rest hc digits left hsplit ih =>
      rw [List.cons_append, splitNumber, if_pos hc, ih, hsplit]
  | case3 pointSeen c rest hc hp digits left hsplit ih =>
      rw [List.cons_append, splitNumber, if_neg hc, hpoint, if_pos hp, ih, hsplit]
  | case4 pointSeen c rest hc hp =>
      rw [List.cons_append, splitNumber, if_neg hc, hpoint, if_neg hp]

/-- A string that is closed is closed in front of white space. -/
theorem readString_append_blank (htail : Text.allBlank tail = true) {quote : Char}
    (hquote : Text.isBlank quote = false) {cs content text rest : List Char}
    (h : readString quote cs = .closed content text rest) :
    readString quote (cs ++ tail) = .closed content text (rest ++ tail) := by
  fun_induction readString quote cs generalizing content text rest with
  | case1 => cases h
  | case2 =>
      cases h
      cases tail with
      | nil => rw [List.append_nil, readString, if_pos rfl]; rfl
      | cons d tail =>
          have hd : d ≠ quote := ne_of_isBlank (Text.isBlank_head htail d rfl) hquote
          rw [List.singleton_append, readString, if_pos rfl, if_neg hd]
          rfl
  | case3 => cases h
  | case4 => cases h
  | case5 cs ih =>
      obtain ⟨content', text', he, rfl, rfl⟩ := StringEnd.push_eq_closed h
      rw [List.cons_append, List.cons_append, readString, if_pos rfl, if_pos rfl, ih he]
      rfl
  | case6 d cs hd =>
      cases h
      rw [List.cons_append, List.cons_append, readString, if_pos rfl, if_neg hd]
  | case7 d cs hq ih =>
      obtain ⟨content', text', he, rfl, rfl⟩ := StringEnd.push_eq_closed h
      rw [List.cons_append, List.cons_append, readString, if_neg hq, if_pos rfl, ih he]
      rfl
  | case8 c d cs hq hs ih =>
      obtain ⟨content', text', he, rfl, rfl⟩ := StringEnd.push_eq_closed h
      rw [List.cons_append, readString_plain hq hs, ih he]
      rfl

/-- White space behind a string that is never closed goes on the string. -/
theorem OpenString.append_blank (htail : Text.allBlank tail = true) {quote : Char}
    (hquote : Text.isBlank quote = false) {cs : List Char} (h : OpenString quote cs) :
    OpenString quote (cs ++ tail) := by
  have hslash : Text.isBlank '\\' = false := by decide
  have hopen : ∀ {blanks : List Char}, Text.allBlank blanks = true → OpenString quote blanks := by
    intro blanks hblanks
    induction blanks with
    | nil => exact .none
    | cons c rest ih =>
        obtain ⟨hc, hrest⟩ := Text.allBlank_cons.1 hblanks
        exact .plain (ne_of_isBlank hc hquote) (ne_of_isBlank hc hslash) (ih hrest)
  induction h with
  | none => exact hopen htail
  | backslash =>
      cases tail with
      | nil => exact .backslash
      | cons c rest => exact .escaped (hopen (Text.allBlank_cons.1 htail).2)
  | plain hq hs _ ih => exact .plain hq hs ih
  | escaped _ ih => exact .escaped ih
  | doubled _ ih => exact .doubled ih

theorem Unclosed.append_blank (htail : Text.allBlank tail = true) {quote : Char}
    {inside : List Char} (h : Unclosed quote inside) : Unclosed quote (inside ++ tail) := by
  cases h with
  | string hquote hopen => exact .string hquote (hopen.append_blank htail (isBlank_quote hquote))
  | name hopening hclosing =>
      refine .name hopening fun hm => ?_
      rcases List.mem_append.1 hm with hm | hm
      · exact hclosing hm
      · have hblank := List.all_eq_true.1 htail _ hm
        exact ne_of_isBlank hblank (isBlank_closingQuote hopening) rfl

/-- A token ends before white space where it ends without. -/
theorem readToken_append_blank (htail : Text.allBlank tail = true) {c : Char} {rest : List Char}
    {cut : Cut} (h : readToken c rest = .ok cut) :
    readToken c (rest ++ tail) = .ok { cut with rest := cut.rest ++ tail } := by
  have hword : ∀ d ∈ tail.head?, isWordChar d = false := fun d hd =>
    (stops_of_isBlank (Text.isBlank_head htail d hd)).2.1
  have hoperator : ∀ d ∈ tail.head?, isOperatorChar d = false := fun d hd =>
    (stops_of_isBlank (Text.isBlank_head htail d hd)).2.2
  unfold readToken at h ⊢
  -- the reader is chosen by the first character, which the tail does not touch
  by_cases hc : Text.isDigit c = true
  · rw [if_pos hc] at h ⊢
    cases h
    rw [splitNumber_append_blank htail]
  rw [if_neg hc] at h ⊢
  by_cases hc : (c = '\'' || c = '"') = true
  · rw [if_pos hc] at h ⊢
    have hquote : Text.isBlank c = false := isBlank_quote (by simpa using hc)
    split at h
    · next hread =>
      cases h
      rw [readString_append_blank htail hquote hread]
    · cases h
  rw [if_neg hc] at h ⊢
  by_cases hc : (c = '\x60' || c = '[') = true
  · rw [if_pos hc] at h ⊢
    dsimp only at h ⊢
    split at h
    · next hclose =>
      cases h
      rw [(takeWhile_append_of_stopped hclose tail).1, (takeWhile_append_of_stopped hclose tail).2]
    · cases h
  rw [if_neg hc] at h ⊢
  by_cases hc : isWordStart c = true
  · rw [if_pos hc] at h ⊢
    cases h
    rw [(takeWhile_append_of_stop hword rest).1, (takeWhile_append_of_stop hword rest).2]
  rw [if_neg hc] at h ⊢
  by_cases hc : isOperatorChar c = true
  · rw [if_pos hc] at h ⊢
    cases h
    rw [(takeWhile_append_of_stop hoperator rest).1, (takeWhile_append_of_stop hoperator rest).2]
  · rw [if_neg hc] at h ⊢
    cases h
    rfl

/-! ## §4. Lexemes before white space. -/

theorem nextLexeme_append_none (htail : Text.allBlank tail = true) {cs : List Char}
    (h : nextLexeme cs = .ok none) : nextLexeme (cs ++ tail) = .ok none := by
  rw [nextLexeme_none_iff] at h ⊢
  rw [splitGap_append_blank htail]
  rcases hsplit : splitGap .outside cs with ⟨gap, left⟩
  rw [hsplit] at h
  cases h
  rfl

theorem nextLexeme_append_some (htail : Text.allBlank tail = true) {cs rest : List Char}
    {l : Lexeme} (h : nextLexeme cs = .ok (some (l, rest))) :
    nextLexeme (cs ++ tail) = .ok (some (l, rest ++ tail)) := by
  obtain ⟨c, inside, hsplit, hread⟩ := nextLexeme_some_iff.1 h
  refine nextLexeme_some_iff.2 ⟨c, inside ++ tail, ?_, readToken_append_blank htail hread⟩
  rw [splitGap_append_blank htail, hsplit]
  rfl

/-- White space behind a text goes to the gap that ends it. -/
theorem lexemes_append_blank (htail : Text.allBlank tail = true) {cs gap : List Char}
    {ls : List Lexeme} (h : lexemes cs = .ok (ls, gap)) :
    lexemes (cs ++ tail) = .ok (ls, gap ++ tail) := by
  fun_induction lexemes cs generalizing ls gap with
  | case1 => cases h
  | case2 cs hnext =>
      cases h
      rw [lexemes_unfold, nextLexeme_append_none htail hnext]
  | case3 => cases h
  | case4 cs l rest hnext ls' gap' hrest ih =>
      cases h
      exact lexemes_cons (nextLexeme_append_some htail hnext) (ih hrest)

/-- A text that ends inside a string or a quoted name does so with white space behind it. -/
theorem EndsOpen.append_blank (htail : Text.allBlank tail = true) {cs : List Char}
    (h : EndsOpen cs) : EndsOpen (cs ++ tail) := by
  induction h with
  | @here cs gap inside quote hsplit hopen =>
      -- what is behind the open quote is longer by the tail, and as open as before
      have hsplit' : splitGap .outside (cs ++ tail) = (gap, quote :: (inside ++ tail)) := by
        rw [splitGap_append_blank htail, hsplit]
        rfl
      exact .here hsplit' (hopen.append_blank htail)
  | later hnext _ ih => exact .later (nextLexeme_append_some htail hnext) ih

/-! ## §5. Lexemes behind a gap. -/

/-- The lexemes with a gap in front of the first. -/
def indent (before : List Char) : List Lexeme → List Lexeme
  | [] => []
  | l :: ls => { l with gap := before ++ l.gap } :: ls

theorem nextLexeme_indent_none (hbefore : Trivia before) {cs : List Char}
    (h : nextLexeme cs = .ok none) : nextLexeme (before ++ cs) = .ok none := by
  rw [nextLexeme_none_iff] at h ⊢
  rwa [splitGap_trivia hbefore]

theorem nextLexeme_indent_some (hbefore : Trivia before) {cs rest : List Char} {l : Lexeme}
    (h : nextLexeme cs = .ok (some (l, rest))) :
    nextLexeme (before ++ cs) = .ok (some ({ l with gap := before ++ l.gap }, rest)) := by
  obtain ⟨c, inside, hsplit, hread⟩ := nextLexeme_some_iff.1 h
  refine nextLexeme_some_iff.2 ⟨c, inside, ?_, hread⟩
  rw [splitGap_trivia hbefore, hsplit]
  rfl

/-- A gap in front of a text goes to the gap of its first lexeme. -/
theorem lexemes_indent (hbefore : Trivia before) {cs gap : List Char} {ls : List Lexeme}
    (h : lexemes cs = .ok (ls, gap)) :
    ∃ gap', lexemes (before ++ cs) = .ok (indent before ls, gap') := by
  rw [lexemes_unfold] at h
  split at h
  · cases h
  · next hnext =>
    cases h
    refine ⟨before ++ cs, ?_⟩
    rw [lexemes_unfold, nextLexeme_indent_none hbefore hnext]
    rfl
  · next l rest hnext =>
    split at h
    · cases h
    · next ls' tail hrest =>
      cases h
      exact ⟨gap, lexemes_cons (nextLexeme_indent_some hbefore hnext) hrest⟩

theorem EndsOpen.indent (hbefore : Trivia before) {cs : List Char} (h : EndsOpen cs) :
    EndsOpen (before ++ cs) := by
  cases h with
  | @here _ gap inside quote hsplit hopen =>
      have hsplit' : splitGap .outside (before ++ cs) = (before ++ gap, quote :: inside) := by
        rw [splitGap_trivia hbefore, hsplit]
        rfl
      exact .here hsplit' hopen
  | later hnext hrest => exact .later (nextLexeme_indent_some hbefore hnext) hrest

/-! ## §6. Texts with white space around them. -/

/-- **White space around a text leaves its tokens**: the lexemes are those of the text, the first
with a longer gap. -/
theorem lexemes_margin (hbefore : Text.allBlank before = true) (htail : Text.allBlank tail = true)
    {cs gap : List Char} {ls : List Lexeme} (h : lexemes cs = .ok (ls, gap)) :
    ∃ gap', lexemes (before ++ (cs ++ tail)) = .ok (indent before ls, gap') :=
  lexemes_indent (.of_allBlank hbefore) (lexemes_append_blank htail h)

/-- White space around a text neither opens nor closes a string or a quoted name. -/
theorem endsOpen_margin (hbefore : Text.allBlank before = true) (htail : Text.allBlank tail = true)
    (cs : List Char) : EndsOpen (before ++ (cs ++ tail)) ↔ EndsOpen cs := by
  constructor
  · intro h
    rcases hlex : lexemes cs with fault | ⟨ls, gap⟩
    · exact lexemes_error_iff.1 ⟨fault, hlex⟩
    · obtain ⟨gap', hok⟩ := lexemes_margin hbefore htail hlex
      obtain ⟨fault, herror⟩ := lexemes_error_iff.2 h
      rw [hok] at herror
      cases herror
  · intro h
    exact (h.append_blank htail).indent (.of_allBlank hbefore)

end Margin

end SmallSql
