/-
  SmallSql.Proofs.Token.Spelling
  ────────────────────────────────
  The ways to write a token: a keyword in large and small letters, a name in backticks or in
  brackets, a string in single or in double quotes, an operator or a mark as it is.
  `readToken_spelling` says that each is read as its token, up to a character that would not go on
  it.
-/
import SmallSql.Proofs.Parsing
import SmallSql.Proofs.Token.Gap

namespace SmallSql

/-! ## §1. Letters. -/

theorem isUpper_iff {c : Char} : c.isUpper = true ↔ 'A'.val ≤ c.val ∧ c.val ≤ 'Z'.val :=
  decide_eq_true_iff

theorem isLower_iff {c : Char} : c.isLower = true ↔ 'a'.val ≤ c.val ∧ c.val ≤ 'z'.val := by
  show (decide ('a'.val ≤ c.val) && decide (c.val ≤ 'z'.val)) = true ↔ _
  rw [Bool.and_eq_true, decide_eq_true_iff, decide_eq_true_iff]

theorem isAlpha_iff {c : Char} : c.isAlpha = true ↔ c.isUpper = true ∨ c.isLower = true := by
  show (c.isUpper || c.isLower) = true ↔ _
  rw [Bool.or_eq_true]

/-- What holds of the letters of the ASCII range, one by one, holds of every such letter. -/
theorem forall_isAlpha {P : Char → Prop}
    (h : ∀ n < 128, (Char.ofNat n).isAlpha = true → P (Char.ofNat n)) {c : Char}
    (hc : c.isAlpha = true) : P c := by
  have hlt : c.toNat < 128 := by
    rw [isAlpha_iff, isUpper_iff, isLower_iff] at hc
    have hnat : c.toNat = c.val.toNat := rfl
    rcases hc with ⟨-, hle⟩ | ⟨-, hle⟩
    · have hle' : c.val.toNat ≤ 'Z'.val.toNat := hle
      have hz : 'Z'.val.toNat = 90 := rfl
      omega
    · have hle' : c.val.toNat ≤ 'z'.val.toNat := hle
      have hz : 'z'.val.toNat = 122 := rfl
      omega
  -- a letter is one of the first 128 characters, and those can be gone through
  rw [← Char.ofNat_toNat c] at hc ⊢
  exact h c.toNat hlt hc

/-- The two tables map an ASCII letter as the alphabet does. -/
theorem upper_of_isAlpha {c : Char} (h : c.isAlpha = true) : Text.upper c = [c.toUpper] :=
  forall_isAlpha (P := fun c => Text.upper c = [c.toUpper]) (by decide) h

theorem lower_of_isAlpha {c : Char} (h : c.isAlpha = true) : Text.lower c = [c.toLower] :=
  forall_isAlpha (P := fun c => Text.lower c = [c.toLower]) (by decide) h

theorem isWordStart_of_isAlpha {c : Char} (h : c.isAlpha = true) : isWordStart c = true :=
  forall_isAlpha (P := fun c => isWordStart c = true) (by decide) h

/-- What begins a word also goes on with it. -/
theorem isWordChar_of_isWordStart {c : Char} (h : isWordStart c = true) : isWordChar c = true := by
  unfold isWordStart at h
  unfold isWordChar Text.isAlphanumeric
  simp only [Bool.or_eq_true] at h ⊢
  exact h.imp_left .inl

/-- A character that is no letter is its own small letter. -/
theorem isAlpha_or_toLower_eq (c : Char) : c.isAlpha = true ∨ c.toLower = c := by
  by_cases hupper : c.isUpper = true
  · exact .inl (isAlpha_iff.2 (.inl hupper))
  · exact .inr (dif_neg (mt isUpper_iff.2 hupper))

/-- A character whose capital is a letter is a letter. -/
theorem isAlpha_of_isUpper_toUpper {c : Char} (h : c.toUpper.isUpper = true) :
    c.isAlpha = true := by
  unfold Char.toUpper at h
  split at h
  · next hlower => exact isAlpha_iff.2 (.inr (isLower_iff.2 hlower))
  · exact isAlpha_iff.2 (.inl h)

/-! ## §2. Spellings. -/

/-- The characters that are tokens by themselves. -/
def marks : List Char := ['*', ',', '(', ')', ';']

/-- What holds of each mark, one by one, holds of every mark. -/
theorem forall_marks {P : Char → Prop} (h : P '*' ∧ P ',' ∧ P '(' ∧ P ')' ∧ P ';') {c : Char}
    (hc : c ∈ marks) : P c := by
  obtain ⟨hstar, hcomma, hleft, hright, hsemicolon⟩ := h
  simp only [marks, List.mem_cons, List.not_mem_nil, or_false] at hc
  rcases hc with rfl | rfl | rfl | rfl | rfl
  · exact hstar
  · exact hcomma
  · exact hleft
  · exact hright
  · exact hsemicolon

/-- A string as it stands between quotes: quotes and backslashes are doubled. -/
def quoted (quote : Char) (content : List Char) : List Char :=
  content.flatMap fun c => if c = quote ∨ c = '\\' then [c, c] else [c]

/-- The ways to write a token. -/
inductive Spelling : Token → List Char → Prop
  /-- A keyword in large and small letters. -/
  | keyword {k : Keyword} {word : List Char} (h : word.map Char.toUpper = k.spelling.toList) :
      Spelling (.keyword k) word
  /-- A name in backticks or in brackets; the closing one does not occur in it. -/
  | name {opening : Char} {name : String} (ho : opening = '\x60' ∨ opening = '[')
      (hn : closingQuote opening ∉ name.toList) :
      Spelling (.identifier name) (opening :: (name.toList ++ [closingQuote opening]))
  /-- A string in single or in double quotes. -/
  | string {quote : Char} (content : String) (hq : quote = '\'' ∨ quote = '"') :
      Spelling (.string content) (quote :: (quoted quote content.toList ++ [quote]))
  | comparison (c : Comparison) : Spelling (.comparison c) c.symbol.toList
  | mark {c : Char} (h : c ∈ marks) : Spelling (punctuation c) [c]

/-- Whether `c` would go on a token that begins with `first` if it stood behind it. -/
def goesOn (first c : Char) : Bool :=
  if first = '\'' || first = '"' then c = first
  else if isOperatorChar first then isOperatorChar c
  else isWordStart first && isWordChar c

/-- A character that means nothing inside a string stands for itself. -/
theorem readString_cons {quote c : Char} {tail : List Char} (hc : c ≠ quote) (hb : c ≠ '\\')
    (htail : tail ≠ []) : readString quote (c :: tail) = (readString quote tail).push c [c] := by
  cases tail with
  | nil => exact absurd rfl htail
  | cons d rest => rw [readString, if_neg hc, if_neg hb]

theorem quoted_cons_twice {quote c : Char} (h : c = quote ∨ c = '\\') (content : List Char) :
    quoted quote (c :: content) = c :: c :: quoted quote content := by
  unfold quoted
  rw [List.flatMap_cons, if_pos h]
  rfl

theorem quoted_cons_once {quote c : Char} (hc : c ≠ quote) (hb : c ≠ '\\')
    (content : List Char) : quoted quote (c :: content) = c :: quoted quote content := by
  unfold quoted
  rw [List.flatMap_cons, if_neg (not_or.2 ⟨hc, hb⟩)]
  rfl

/-- A string is read back up to its closing quote, if no other quote stands behind that. -/
theorem readString_quoted {quote : Char} (hq : quote = '\'' ∨ quote = '"') (content : List Char)
    {rest : List Char} (hrest : ∀ c ∈ rest.head?, c ≠ quote) :
    readString quote (quoted quote content ++ quote :: rest)
      = .closed content (quoted quote content ++ [quote]) rest := by
  have hslash : '\\' ≠ quote := by
    rcases hq with rfl | rfl
    · decide
    · decide
  induction content with
  | nil =>
      show readString quote (quote :: rest) = .closed [] [quote] rest
      cases rest with
      | nil => rw [readString, if_pos rfl]
      | cons d rest => rw [readString, if_pos rfl, if_neg (hrest d rfl)]
  | cons c content ih =>
      -- a quote and a backslash are doubled, every other character stands for itself
      by_cases hc : c = quote
      · subst hc
        rw [quoted_cons_twice (.inl rfl), List.cons_append, List.cons_append, readString,
          if_pos rfl, if_pos rfl, ih]
        rfl
      by_cases hb : c = '\\'
      · subst hb
        rw [quoted_cons_twice (.inr rfl), List.cons_append, List.cons_append, readString,
          if_neg hslash, if_pos rfl, ih]
        rfl
      · rw [quoted_cons_once hc hb, List.cons_append, readString_cons hc hb (by simp), ih]
        rfl

/-- The capital letters of a keyword. -/
theorem isUpper_spelling (k : Keyword) : k.spelling.toList.all Char.isUpper = true := by
  cases k <;> rfl

/-- What spells a keyword is made of letters. -/
theorem isAlpha_of_spelling {k : Keyword} {word : List Char}
    (h : word.map Char.toUpper = k.spelling.toList) : ∀ c ∈ word, c.isAlpha = true := by
  intro c hc
  apply isAlpha_of_isUpper_toUpper
  refine List.all_eq_true.1 (isUpper_spelling k) _ ?_
  rw [← h]
  exact List.mem_map_of_mem hc

/-- What spells a keyword is mapped to capital letters as the alphabet is. -/
theorem uppercase_of_spelling {k : Keyword} {word : List Char}
    (h : word.map Char.toUpper = k.spelling.toList) : Text.uppercase word = k.spelling.toList := by
  rw [← h]
  unfold Text.uppercase
  have halpha := isAlpha_of_spelling h
  clear h
  induction word with
  | nil => rfl
  | cons c rest ih =>
      rw [List.flatMap_cons, upper_of_isAlpha (halpha c List.mem_cons_self),
        ih fun d hd => halpha d (List.mem_cons_of_mem _ hd)]
      rfl

/-- A word that spells a keyword in capitals is that keyword. -/
theorem wordToken_of_uppercase {k : Keyword} {word : List Char}
    (h : Text.uppercase word = k.spelling.toList) : wordToken word = .keyword k := by
  have hfind : Keyword.ofWord? word = some k := by
    unfold Keyword.ofWord?
    dsimp only
    rw [h]
    cases k <;> rfl
  unfold wordToken
  rw [hfind]

/-- A keyword is recognized in large and small letters. -/
theorem wordToken_of_spelling {k : Keyword} {word : List Char}
    (h : word.map Char.toUpper = k.spelling.toList) : wordToken word = .keyword k :=
  wordToken_of_uppercase (uppercase_of_spelling h)

/-! ## §3. Single tokens are read back. -/

/-- A word begins with no character of another kind of token. -/
theorem readToken_word {c : Char} (h : c.isAlpha = true) (rest : List Char) :
    readToken c rest = .ok ⟨c :: rest.takeWhile isWordChar,
      wordToken (c :: rest.takeWhile isWordChar), rest.dropWhile isWordChar⟩ := by
  have hother : Text.isDigit c = false ∧ ¬ (c = '\'' || c = '"') = true
      ∧ ¬ (c = '\x60' || c = '[') = true :=
    forall_isAlpha (P := fun c => Text.isDigit c = false ∧ ¬ (c = '\'' || c = '"') = true
      ∧ ¬ (c = '\x60' || c = '[') = true) (by decide) h
  obtain ⟨hdigit, hquote, hname⟩ := hother
  unfold readToken
  rw [hdigit, if_neg Bool.false_ne_true, if_neg hquote, if_neg hname,
    if_pos (isWordStart_of_isAlpha h)]

theorem readToken_quoted {c : Char} (h : c = '\'' ∨ c = '"') {rest content text left : List Char}
    (hrest : readString c rest = .closed content text left) :
    readToken c rest = .ok ⟨c :: text, .string (String.ofList content), left⟩ := by
  have hother : Text.isDigit c = false ∧ (c = '\'' || c = '"') = true := by
    rcases h with rfl | rfl
    · decide
    · decide
  obtain ⟨hdigit, hquote⟩ := hother
  unfold readToken
  rw [hdigit, if_neg Bool.false_ne_true, if_pos hquote, hrest]

theorem readToken_name {c : Char} (h : c = '\x60' ∨ c = '[') {name : List Char}
    (hname : closingQuote c ∉ name) (rest : List Char) :
    readToken c (name ++ closingQuote c :: rest)
      = .ok ⟨c :: (name ++ [closingQuote c]), .identifier (String.ofList name), rest⟩ := by
  have hother : Text.isDigit c = false ∧ ¬ (c = '\'' || c = '"') = true
      ∧ (c = '\x60' || c = '[') = true := by
    rcases h with rfl | rfl
    · decide
    · decide
  obtain ⟨hdigit, hquote, hopen⟩ := hother
  have hinside : ∀ d ∈ name, (d != closingQuote c) = true := by
    intro d hd
    rw [bne_iff_ne]
    rintro rfl
    exact hname hd
  have hclose : ∀ d ∈ (closingQuote c :: rest).head?, (d != closingQuote c) = false := by
    simp
  obtain ⟨htake, hdrop⟩ := takeWhile_run hinside hclose
  unfold readToken
  rw [hdigit, if_neg Bool.false_ne_true, if_neg hquote, if_pos hopen, htake, hdrop]
  rfl

theorem readToken_operator {first : Char} {tail rest : List Char}
    (h : ∀ c ∈ first :: tail, isOperatorChar c = true)
    (hrest : ∀ c ∈ rest.head?, isOperatorChar c = false) :
    readToken first (tail ++ rest) = .ok ⟨first :: tail, operatorToken (first :: tail), rest⟩ := by
  have hfirst := h first List.mem_cons_self
  have hother : Text.isDigit first = false ∧ ¬ (first = '\'' || first = '"') = true
      ∧ ¬ (first = '\x60' || first = '[') = true ∧ isWordStart first = false := by
    have hcases := hfirst
    simp only [isOperatorChar, Bool.or_eq_true, decide_eq_true_eq] at hcases
    rcases hcases with ((rfl | rfl) | rfl) | rfl
    · decide
    · decide
    · decide
    · decide
  obtain ⟨hdigit, hquote, hname, hword⟩ := hother
  obtain ⟨htake, hdrop⟩ := takeWhile_run (fun c hc => h c (List.mem_cons_of_mem _ hc)) hrest
  unfold readToken
  rw [hdigit, if_neg Bool.false_ne_true, if_neg hquote, if_neg hname, hword,
    if_neg Bool.false_ne_true, if_pos hfirst, htake, hdrop]

theorem readToken_mark {c : Char} (h : c ∈ marks) (rest : List Char) :
    readToken c rest = .ok ⟨[c], punctuation c, rest⟩ := by
  have hother : Text.isDigit c = false ∧ ¬ (c = '\'' || c = '"') = true
      ∧ ¬ (c = '\x60' || c = '[') = true ∧ isWordStart c = false ∧ isOperatorChar c = false :=
    forall_marks (P := fun c => Text.isDigit c = false ∧ ¬ (c = '\'' || c = '"') = true
      ∧ ¬ (c = '\x60' || c = '[') = true ∧ isWordStart c = false ∧ isOperatorChar c = false)
      (by decide) h
  obtain ⟨hdigit, hquote, hname, hword, hoperator⟩ := hother
  unfold readToken
  rw [hdigit, if_neg Bool.false_ne_true, if_neg hquote, if_neg hname, hword,
    if_neg Bool.false_ne_true, hoperator, if_neg Bool.false_ne_true]

/-- Nothing at the start of `rest` goes on a token written as `text`. -/
def EndsBefore (text rest : List Char) : Prop :=
  ∀ first ∈ text.head?, ∀ c ∈ rest.head?, goesOn first c = false

theorem EndsBefore.word {first : Char} {tail rest : List Char} (h : first.isAlpha = true)
    (hrest : EndsBefore (first :: tail) rest) : ∀ c ∈ rest.head?, isWordChar c = false := by
  have hother : ¬ (first = '\'' || first = '"') = true ∧ ¬ isOperatorChar first = true :=
    forall_isAlpha (P := fun c => ¬ (c = '\'' || c = '"') = true ∧ ¬ isOperatorChar c = true)
      (by decide) h
  intro c hc
  have hgoes := hrest first rfl c hc
  unfold goesOn at hgoes
  rwa [if_neg hother.1, if_neg hother.2, isWordStart_of_isAlpha h, Bool.true_and] at hgoes

theorem EndsBefore.operator {first : Char} {tail rest : List Char}
    (h : isOperatorChar first = true) (hrest : EndsBefore (first :: tail) rest) :
    ∀ c ∈ rest.head?, isOperatorChar c = false := by
  have hquote : ¬ (first = '\'' || first = '"') = true := by
    intro hq
    simp only [Bool.or_eq_true, decide_eq_true_eq] at hq
    rcases hq with rfl | rfl
    · exact absurd h (by decide)
    · exact absurd h (by decide)
  intro c hc
  have hgoes := hrest first rfl c hc
  unfold goesOn at hgoes
  rwa [if_neg hquote, if_pos h] at hgoes

theorem EndsBefore.string {quote : Char} {tail rest : List Char}
    (h : quote = '\'' ∨ quote = '"') (hrest : EndsBefore (quote :: tail) rest) :
    ∀ c ∈ rest.head?, c ≠ quote := by
  intro c hc
  have hgoes := hrest quote rfl c hc
  unfold goesOn at hgoes
  rw [if_pos (by simpa using h)] at hgoes
  simpa using hgoes

/-- The characters of a comparison. -/
theorem symbol_eq_cons (c : Comparison) :
    ∃ first tail, c.symbol.toList = first :: tail
      ∧ ∀ d ∈ first :: tail, isOperatorChar d = true := by
  cases c with
  | eq | lt | gt => exact ⟨_, [], rfl, List.all_eq_true.1 rfl⟩
  | ne | le | ge => exact ⟨_, [_], rfl, List.all_eq_true.1 rfl⟩

theorem operatorToken_symbol (c : Comparison) : operatorToken c.symbol.toList = .comparison c := by
  cases c <;> rfl

/-- **A spelling is read as its token**, up to a character that does not go on it. -/
theorem readToken_spelling {t : Token} {text rest : List Char} (h : Spelling t text)
    (hrest : EndsBefore text rest) :
    ∃ first tail, text = first :: tail ∧ opensGap first = false
      ∧ readToken first (tail ++ rest) = .ok ⟨text, t, rest⟩ := by
  cases h with
  | @keyword k _ hk =>
      cases text with
      | nil => cases k <;> cases hk
      | cons first tail =>
          have halpha := isAlpha_of_spelling hk
          have hfirst := halpha first List.mem_cons_self
          have hgap : opensGap first = false :=
            forall_isAlpha (P := fun c => opensGap c = false) (by decide) hfirst
          have hrun : ∀ c ∈ tail, isWordChar c = true := fun c hc =>
            isWordChar_of_isWordStart
              (isWordStart_of_isAlpha (halpha c (List.mem_cons_of_mem _ hc)))
          obtain ⟨htake, hdrop⟩ := takeWhile_run hrun (hrest.word hfirst)
          refine ⟨first, tail, rfl, hgap, ?_⟩
          rw [readToken_word hfirst, htake, hdrop, wordToken_of_spelling hk]
  | @name opening name ho hn =>
      refine ⟨opening, name.toList ++ [closingQuote opening], rfl, ?_, ?_⟩
      · rcases ho with rfl | rfl
        · decide
        · decide
      · rw [List.append_assoc, List.singleton_append, readToken_name ho hn, String.ofList_toList]
  | @string quote content hq =>
      refine ⟨quote, quoted quote content.toList ++ [quote], rfl, ?_, ?_⟩
      · rcases hq with rfl | rfl
        · decide
        · decide
      · rw [List.append_assoc, List.singleton_append,
          readToken_quoted hq (readString_quoted hq content.toList (hrest.string hq)),
          String.ofList_toList]
  | comparison c =>
      obtain ⟨first, tail, hsymbol, hoperator⟩ := symbol_eq_cons c
      have hfirst := hoperator first List.mem_cons_self
      have hgap : opensGap first = false := by
        have hcases := hfirst
        simp only [isOperatorChar, Bool.or_eq_true, decide_eq_true_eq] at hcases
        rcases hcases with ((rfl | rfl) | rfl) | rfl
        · decide
        · decide
        · decide
        · decide
      rw [hsymbol] at hrest ⊢
      refine ⟨first, tail, rfl, hgap, ?_⟩
      rw [readToken_operator hoperator (hrest.operator hfirst), ← hsymbol, operatorToken_symbol]
  | @mark c hc =>
      have hgap : opensGap c = false :=
        forall_marks (P := fun c => opensGap c = false) (by decide) hc
      exact ⟨c, [], rfl, hgap, readToken_mark hc rest⟩

end SmallSql
