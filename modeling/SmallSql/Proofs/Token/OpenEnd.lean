/-
  SmallSql.Proofs.Token.OpenEnd
  ────────────────────────────────
  The only texts that have no tokens are those that end inside a string or a quoted name:

      readString  unclosed   ↔   OpenString        the inside of the string
      readToken   fails      ↔   Unclosed          one token
      lexemes     fails      ↔   EndsOpen          the whole text

  The right-hand sides say by their form alone what is open at the end.
-/
import Mathlib.Data.List.TakeWhile
import SmallSql.Proofs.Token.Layout

namespace SmallSql

/-! ## §1. Strings that are never closed. -/

/-- The text behind the opening quote of a string that is never closed: no quote stands alone. -/
inductive OpenString (quote : Char) : List Char → Prop
  | none : OpenString quote []
  /-- A backslash with nothing behind it. -/
  | backslash : OpenString quote ['\\']
  | plain {c : Char} {rest : List Char} : c ≠ quote → c ≠ '\\' → OpenString quote rest →
      OpenString quote (c :: rest)
  | escaped {c : Char} {rest : List Char} : OpenString quote rest →
      OpenString quote ('\\' :: c :: rest)
  | doubled {rest : List Char} : OpenString quote rest → OpenString quote (quote :: quote :: rest)

theorem StringEnd.push_eq_unclosed {c : Char} {written content : List Char} {e : StringEnd}
    (h : e.push c written = .unclosed content) : ∃ content', e = .unclosed content' := by
  cases e with
  | closed => cases h
  | unclosed content' => exact ⟨content', rfl⟩

theorem openString_of_readString {quote : Char} {cs content : List Char}
    (h : readString quote cs = .unclosed content) : OpenString quote cs := by
  fun_induction readString quote cs generalizing content with
  | case1 => exact .none
  | case2 => cases h
  | case3 => exact .backslash
  | case4 c hquote hslash => exact .plain hquote hslash .none
  | case5 rest ih =>
      obtain ⟨content', he⟩ := StringEnd.push_eq_unclosed h
      exact .doubled (ih he)
  | case6 => cases h
  | case7 d rest hquote ih =>
      obtain ⟨content', he⟩ := StringEnd.push_eq_unclosed h
      exact .escaped (ih he)
  | case8 c d rest hquote hslash ih =>
      obtain ⟨content', he⟩ := StringEnd.push_eq_unclosed h
      exact .plain hquote hslash (ih he)

/-- One character that stands for itself is read, and the string goes on. -/
theorem readString_plain {quote c : Char} (hquote : c ≠ quote) (hslash : c ≠ '\\')
    (rest : List Char) : readString quote (c :: rest) = (readString quote rest).push c [c] := by
  cases rest with
  | nil => simp [readString, hquote, hslash, StringEnd.push]
  | cons d rest => rw [readString, if_neg hquote, if_neg hslash]

/-- A string is read as unclosed exactly if no quote in it stands alone. -/
theorem readString_unclosed_iff {quote : Char} (hquote : quote ≠ '\\') {cs : List Char} :
    (∃ content, readString quote cs = .unclosed content) ↔ OpenString quote cs := by
  constructor
  · rintro ⟨content, h⟩
    exact openString_of_readString h
  · intro h
    induction h with
    | none => exact ⟨[], rfl⟩
    | backslash => exact ⟨[], by rw [readString, if_neg hquote.symm, if_pos rfl]⟩
    | @plain c rest hq hs _ ih =>
        obtain ⟨content, he⟩ := ih
        exact ⟨c :: content, by rw [readString_plain hq hs, he]; rfl⟩
    | @escaped c rest _ ih =>
        obtain ⟨content, he⟩ := ih
        exact ⟨unescape c :: content, by
          rw [readString, if_neg hquote.symm, if_pos rfl, he]; rfl⟩
    | @doubled rest _ ih =>
        obtain ⟨content, he⟩ := ih
        exact ⟨quote :: content, by rw [readString, if_pos rfl, if_pos rfl, he]; rfl⟩

/-! ## §2. Tokens that are never closed. -/

/-- An opening quote, and behind it the rest of a text that never closes it. -/
inductive Unclosed : Char → List Char → Prop
  | string {quote : Char} {inside : List Char} : quote = '\'' ∨ quote = '"' →
      OpenString quote inside → Unclosed quote inside
  | name {opening : Char} {inside : List Char} : opening = '\x60' ∨ opening = '[' →
      closingQuote opening ∉ inside → Unclosed opening inside

/-- A quoted name is closed by the first of its closing quotes. -/
theorem dropWhile_closing_eq_nil {closing : Char} {inside : List Char} :
    inside.dropWhile (fun d => d != closing) = [] ↔ closing ∉ inside := by
  rw [List.dropWhile_eq_nil_iff]
  constructor
  · intro h hm
    exact absurd (h closing hm) (by simp)
  · intro h d hd
    rw [bne_iff_ne]
    rintro rfl
    exact h hd

/-- A token cannot be read exactly if it is never closed. -/
theorem readToken_error_iff {c : Char} {rest : List Char} :
    (∃ fault, readToken c rest = .error fault) ↔ Unclosed c rest := by
  constructor
  · rintro ⟨fault, h⟩
    unfold readToken at h
    split at h
    · cases h
    split at h
    · next hquote =>
      split at h
      · cases h
      · next content hread =>
        simp only [Bool.or_eq_true, decide_eq_true_eq] at hquote
        exact .string hquote (openString_of_readString hread)
    split at h
    · next hopening =>
      simp only at h
      split at h
      · cases h
      · next hrest =>
        simp only [Bool.or_eq_true, decide_eq_true_eq] at hopening
        exact .name hopening (dropWhile_closing_eq_nil.1 hrest)
    split at h
    · cases h
    split at h
    · cases h
    · cases h
  · rintro (⟨hquote, hopen⟩ | ⟨hopening, hclosing⟩)
    · have hslash : c ≠ '\\' := by rcases hquote with rfl | rfl <;> decide
      obtain ⟨content, hread⟩ := (readString_unclosed_iff hslash).2 hopen
      refine ⟨.unterminatedString c content, ?_⟩
      have hdigit : Text.isDigit c = false := by rcases hquote with rfl | rfl <;> rfl
      have hq : (c = '\'' || c = '"') = true := by simpa using hquote
      unfold readToken
      rw [hdigit, if_neg Bool.false_ne_true, if_pos hq, hread]
    · refine ⟨.unterminatedName c (rest.takeWhile fun d => d != closingQuote c), ?_⟩
      have hdigit : Text.isDigit c = false := by rcases hopening with rfl | rfl <;> rfl
      have hq : (c = '\'' || c = '"') = false := by rcases hopening with rfl | rfl <;> rfl
      have ho : (c = '\x60' || c = '[') = true := by simpa using hopening
      unfold readToken
      rw [hdigit, if_neg Bool.false_ne_true, hq, if_neg Bool.false_ne_true, if_pos ho]
      dsimp only
      rw [dropWhile_closing_eq_nil.2 hclosing]

/-! ## §3. Texts that end inside a token. -/

/-- A text that ends inside a string or a quoted name: behind some tokens and a gap stands an
opening quote that is never closed. -/
inductive EndsOpen : List Char → Prop
  | here {cs gap inside : List Char} {quote : Char} :
      splitGap .outside cs = (gap, quote :: inside) → Unclosed quote inside → EndsOpen cs
  | later {cs rest : List Char} {l : Lexeme} :
      nextLexeme cs = .ok (some (l, rest)) → EndsOpen rest → EndsOpen cs

/-- A gap and nothing more has no token. -/
theorem nextLexeme_none_iff {cs : List Char} :
    nextLexeme cs = .ok none ↔ (splitGap .outside cs).2 = [] := by
  unfold nextLexeme
  rcases splitGap .outside cs with ⟨gap, _ | ⟨c, inside⟩⟩
  · simp
  · dsimp only
    cases readToken c inside with
    | ok cut => simp
    | error fault => simp

/-- A lexeme is a gap and the token behind it. -/
theorem nextLexeme_some_iff {cs rest : List Char} {l : Lexeme} :
    nextLexeme cs = .ok (some (l, rest)) ↔ ∃ c inside, splitGap .outside cs = (l.gap, c :: inside)
      ∧ readToken c inside = .ok ⟨l.text, l.token, rest⟩ := by
  unfold nextLexeme
  rcases splitGap .outside cs with ⟨gap, _ | ⟨c, inside⟩⟩
  · simp
  · dsimp only
    constructor
    · intro h
      split at h
      · next cut hread =>
        cases h
        exact ⟨c, inside, rfl, hread⟩
      · cases h
    · rintro ⟨_, _, hsplit, hread⟩
      cases hsplit
      rw [hread]

/-- A lexeme cannot be read exactly if the token behind the gap is never closed. -/
theorem nextLexeme_error_iff {cs : List Char} : (∃ fault, nextLexeme cs = .error fault)
    ↔ ∃ gap quote inside, splitGap .outside cs = (gap, quote :: inside)
      ∧ Unclosed quote inside := by
  unfold nextLexeme
  rcases splitGap .outside cs with ⟨gap, _ | ⟨c, inside⟩⟩
  · simp
  · dsimp only
    constructor
    · rintro ⟨fault, h⟩
      split at h
      · cases h
      · next fault' hread => exact ⟨gap, c, inside, rfl, readToken_error_iff.1 ⟨fault', hread⟩⟩
    · rintro ⟨_, _, _, hsplit, hopen⟩
      cases hsplit
      obtain ⟨fault, hread⟩ := readToken_error_iff.2 hopen
      exact ⟨fault, by rw [hread]⟩

/-- The tokens of a text begin with the first. -/
theorem lexemes_unfold (cs : List Char) : lexemes cs = match nextLexeme cs with
    | .error fault => .error fault
    | .ok none => .ok ([], cs)
    | .ok (some (l, rest)) => match lexemes rest with
      | .error fault => .error fault
      | .ok (ls, tail) => .ok (l :: ls, tail) := by
  rw [lexemes]
  split
  · next he => rw [he]
  · next he => rw [he]
  · next he =>
    rewrite [he]
    rfl

/-- **A text has no tokens exactly if it ends inside a string or a quoted name.** -/
theorem lexemes_error_iff {cs : List Char} :
    (∃ fault, lexemes cs = .error fault) ↔ EndsOpen cs := by
  constructor
  · -- by induction along the lexemes, the last of which cannot be read
    rintro ⟨fault, h⟩
    fun_induction lexemes cs generalizing fault with
    | case1 cs fault' hnext =>
        obtain ⟨gap, quote, inside, hsplit, hopen⟩ := nextLexeme_error_iff.1 ⟨fault', hnext⟩
        exact .here hsplit hopen
    | case2 => cases h
    | case3 cs l rest hnext fault' hrest ih => exact .later hnext (ih fault' hrest)
    | case4 => cases h
  · intro h
    induction h with
    | here hsplit hopen =>
        obtain ⟨fault, hnext⟩ := nextLexeme_error_iff.2 ⟨_, _, _, hsplit, hopen⟩
        exact ⟨fault, by rw [lexemes_unfold, hnext]⟩
    | later hnext _ ih =>
        obtain ⟨fault, hrest⟩ := ih
        exact ⟨fault, by rw [lexemes_unfold, hnext]; dsimp only; rw [hrest]⟩

end SmallSql
