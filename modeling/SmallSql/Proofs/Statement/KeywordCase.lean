/-
  SmallSql.Proofs.Statement.KeywordCase
  ────────────────────────────────
  Keywords in two cases.  A text announces its command in small letters, while the words of its
  statement are compared in capitals, and two letters outside the alphabet have capitals inside it:

      ſ ──▶ S ◀── s            the long s is a small letter already
      ı ──▶ I ◀── i            and so is the dotless i

  Every other character with a capital of the alphabet is a letter of the alphabet, and no letter
  that becomes two or three capitals, as ß becomes SS, becomes a part of a keyword.  So a word is a
  keyword exactly if, with these two letters replaced, it is the keyword in lower case: the two
  comparisons agree on all words without a long s and a dotless i, and on no keyword with one.
-/
import SmallSql.Proofs.Statement.Announcement

namespace SmallSql

/-! ## §1. Letters with a capital of the alphabet. -/

/-- The long s and the dotless i become the letters that share their capitals; every other
character stays. -/
def plainLetter (c : Char) : Char := if c = 'ſ' then 's' else if c = 'ı' then 'i' else c

/-- Of the runs that map characters to capitals, three reach into the first 128: the alphabet, the
dotless i and the long s. -/
theorem upperRuns_below : ∀ r ∈ Text.upperRuns, r.target < 128 →
    (r.first = 0x61 ∧ r.last = 0x7A) ∨ (r.first = 0x131 ∧ r.last = 0x131)
      ∨ (r.first = 0x17F ∧ r.last = 0x17F) := by
  decide +kernel

/-- The double s and the ligatures in capitals, all of the alphabet. -/
def ligatures : List (List Nat) :=
  [[0x53, 0x53], [0x46, 0x46], [0x46, 0x49], [0x46, 0x4C], [0x46, 0x46, 0x49], [0x46, 0x46, 0x4C],
   [0x53, 0x54]]

/-- What becomes several capitals becomes two at least, and one of them is not of the alphabet
unless it is a ligature. -/
theorem upperExpansions_below : ∀ e ∈ Text.upperExpansions, 2 ≤ e.2.length
    ∧ (e.2 ∈ ligatures ∨ (e.2.map Char.ofNat).any (128 ≤ ·.toNat) = true) := by
  decide

/-- No ligature is a part of a keyword. -/
theorem ligatures_apart : ∀ k ∈ Keyword.all, ∀ l ∈ ligatures,
    ¬ l.map Char.ofNat <:+: k.spelling.toList := by
  decide +kernel

theorem mem_all_keywords (k : Keyword) : k ∈ Keyword.all := by
  cases k <;> decide

/-- A capital letter is among the first 128 characters. -/
theorem toNat_of_isUpper {d : Char} (h : d.isUpper = true) : 0 < d.toNat ∧ d.toNat < 128 :=
  forall_isAlpha (P := fun d => 0 < d.toNat ∧ d.toNat < 128) (by decide)
    (isAlpha_iff.2 (.inl h))

/-- What becomes several capitals becomes no part of a keyword. -/
theorem not_infix_of_upperExpansions {e : Nat × List Nat} (he : e ∈ Text.upperExpansions)
    (k : Keyword) : ¬ e.2.map Char.ofNat <:+: k.spelling.toList := by
  rcases (upperExpansions_below e he).2 with hligature | houtside
  · exact ligatures_apart k (mem_all_keywords k) e.2 hligature
  · intro hpart
    obtain ⟨c, hc, hlarge⟩ := List.any_eq_true.1 houtside
    have hcapital := List.all_eq_true.1 (isUpper_spelling k) c (hpart.subset hc)
    exact Nat.not_le.2 (toNat_of_isUpper hcapital).2 (of_decide_eq_true hlarge)

/-- A character becomes several capitals, or the one that a run sends it to, or stays. -/
theorem upper_cases (c : Char) :
    (∃ e ∈ Text.upperExpansions, Text.upper c = e.2.map Char.ofNat)
      ∨ (∃ r ∈ Text.upperRuns, r.first ≤ c.toNat ∧ c.toNat ≤ r.last
        ∧ Text.upper c = [Char.ofNat (r.image c.toNat)])
      ∨ Text.upper c = [c] := by
  unfold Text.upper
  split
  · next ns hns =>
    obtain ⟨before, after, hsplit, -⟩ := List.lookup_eq_some_iff.1 hns
    refine .inl ⟨(c.toNat, ns), ?_, rfl⟩
    rw [hsplit]
    exact List.mem_append_right _ List.mem_cons_self
  · split
    · next m hm =>
      obtain ⟨r, hr, hfirst, hlast, -, rfl⟩ := Text.exists_run_of_mapped? hm
      exact .inr (.inl ⟨r, hr, hfirst, hlast, rfl⟩)
    · exact .inr (.inr rfl)

theorem plainLetter_of_isAlpha {c : Char} (h : c.isAlpha = true) : plainLetter c = c :=
  forall_isAlpha (P := fun c => plainLetter c = c) (by decide) h

/-- What has a capital of the alphabet is a letter of the alphabet, or one of the two. -/
theorem isAlpha_plainLetter {c d : Char} (h : Text.upper c = [d]) (hd : d.isUpper = true) :
    (plainLetter c).isAlpha = true := by
  have hplain : c.isAlpha = true → (plainLetter c).isAlpha = true := by
    intro hc
    rwa [plainLetter_of_isAlpha hc]
  rcases upper_cases c with ⟨e, he, hupper⟩ | ⟨r, hr, hfirst, hlast, hupper⟩ | hupper
  · have hlength := congrArg List.length (hupper.symm.trans h)
    rw [List.length_map, List.length_singleton] at hlength
    have := (upperExpansions_below e he).1
    omega
  · obtain rfl : Char.ofNat (r.image c.toNat) = d := List.singleton_inj.1 (hupper.symm.trans h)
    obtain ⟨hpositive, hbelow⟩ := toNat_of_isUpper hd
    have himage : r.image c.toNat = r.target + (c.toNat - r.first) := rfl
    rw [toNat_ofNat_of_pos hpositive] at hbelow
    rcases upperRuns_below r hr (by omega) with ⟨ha, hz⟩ | hdotless | hlong
    · have hfrom : 'a'.val.toNat ≤ c.toNat := by
        rw [← show 0x61 = 'a'.val.toNat from rfl]
        omega
      have hto : c.toNat ≤ 'z'.val.toNat := by
        rw [← show 0x7A = 'z'.val.toNat from rfl]
        omega
      exact hplain (isAlpha_iff.2 (.inr (isLower_iff.2 ⟨hfrom, hto⟩)))
    · rw [← Char.ofNat_toNat c, show c.toNat = 0x131 by omega]
      decide
    · rw [← Char.ofNat_toNat c, show c.toNat = 0x17F by omega]
      decide
  · obtain rfl : c = d := List.singleton_inj.1 (hupper.symm.trans h)
    exact hplain (isAlpha_iff.2 (.inl hd))

/-- A letter of the alphabet, and each of the two, has the capital of the plain letter. -/
theorem upper_of_plainLetter {c : Char} (h : (plainLetter c).isAlpha = true) :
    Text.upper c = [(plainLetter c).toUpper] := by
  by_cases hlong : c = 'ſ'
  · subst hlong
    decide
  by_cases hdotless : c = 'ı'
  · subst hdotless
    decide
  · have hsame : plainLetter c = c := by
      unfold plainLetter
      rw [if_neg hlong, if_neg hdotless]
    rw [hsame] at h ⊢
    exact upper_of_isAlpha h

/-! ## §2. Words in capitals and in small letters. -/

section Words

variable {word spelled : List Char} {k : Keyword}

/-- What becomes a part of a keyword in capitals is that part, in plain letters. -/
theorem map_plainLetter_of_uppercase (hpart : spelled <:+: k.spelling.toList)
    (h : Text.uppercase word = spelled) : (word.map plainLetter).map Char.toUpper = spelled := by
  induction word generalizing spelled with
  | nil => exact h
  | cons c rest ih =>
      have hsplit : Text.upper c ++ Text.uppercase rest = spelled := by
        rw [← h]
        exact List.flatMap_cons.symm
      subst hsplit
      have hfirst : Text.upper c <:+: k.spelling.toList :=
        (List.prefix_append _ _).isInfix.trans hpart
      obtain ⟨d, hd⟩ : ∃ d, Text.upper c = [d] := by
        rcases upper_cases c with ⟨e, he, hupper⟩ | ⟨r, -, -, -, hupper⟩ | hupper
        · rw [hupper] at hfirst
          exact absurd hfirst (not_infix_of_upperExpansions he k)
        · exact ⟨_, hupper⟩
        · exact ⟨_, hupper⟩
      have hmem : d ∈ k.spelling.toList := by
        apply hfirst.subset
        rw [hd]
        exact List.mem_singleton_self d
      have hplain := isAlpha_plainLetter hd (List.all_eq_true.1 (isUpper_spelling k) d hmem)
      have hothers := ih ((List.suffix_append _ _).isInfix.trans hpart) rfl
      rw [List.map_cons, List.map_cons, hothers, upper_of_plainLetter hplain]
      rfl

/-- A word spells a keyword in capitals exactly if its plain letters do. -/
theorem uppercase_eq_spelling_iff : Text.uppercase word = k.spelling.toList
    ↔ (word.map plainLetter).map Char.toUpper = k.spelling.toList := by
  constructor
  · exact map_plainLetter_of_uppercase List.infix_rfl
  · intro h
    have halpha := isAlpha_of_spelling h
    have hupper : ∀ c ∈ word, Text.upper c = [(plainLetter c).toUpper] := fun c hc =>
      upper_of_plainLetter (halpha _ (List.mem_map_of_mem hc))
    unfold Text.uppercase
    rw [List.flatMap_congr hupper, ← List.map_eq_flatMap, ← h, List.map_map]
    rfl

/-- A lowered text is no shorter than the text. -/
theorem length_le_lowercaseAfter (before cs : List Char) :
    cs.length ≤ (Text.lowercaseAfter before cs).length := by
  induction cs generalizing before with
  | nil => exact Nat.zero_le _
  | cons c rest ih =>
      have hone : 1 ≤ (Text.lowerBetween before c rest).length := by
        rw [Text.length_lowerBetween]
        rcases eq_or_exists_lower c with rfl | ⟨d, hd⟩
        · decide
        · rw [hd]
          exact Nat.le_refl 1
      rw [Text.lowercaseAfter_cons, List.length_append, List.length_cons]
      have := ih (c :: before)
      omega

/-- A word that is a keyword in capitals is lowered as the alphabet is. -/
theorem lowercase_of_spelling (h : word.map Char.toUpper = k.spelling.toList) :
    Text.lowercase word = word.map Char.toLower := by
  have hplain : ∀ c ∈ word, isPlain c = true := by
    intro c hc
    unfold isPlain
    rw [isAlpha_of_spelling h c hc]
    rfl
  obtain ⟨before, hlower⟩ := lowercaseAfter_plain hplain [] []
  rw [List.append_nil] at hlower
  exact hlower.trans (List.append_nil _)

theorem map_toLower_of_spelling (h : word.map Char.toUpper = k.spelling.toList) :
    word.map Char.toLower = k.spelling.toList.map Char.toLower := by
  rw [← h, List.map_map]
  refine List.map_congr_left fun c hc => ?_
  exact forall_isAlpha (P := fun c => c.toLower = c.toUpper.toLower) (by decide)
    (isAlpha_of_spelling h c hc)

/-- A word is a keyword in lower case exactly if it spells the keyword in letters of the
alphabet. -/
theorem lowercase_eq_spelling_iff :
    Text.lowercase word = Text.lowercase k.spelling.toList
      ↔ word.map Char.toUpper = k.spelling.toList := by
  have hcapitals : k.spelling.toList.map Char.toUpper = k.spelling.toList := by cases k <;> rfl
  have hspelled := lowercase_of_spelling hcapitals
  constructor
  · intro h
    rw [hspelled] at h
    have hplain : (k.spelling.toList.map Char.toLower).all isPlain = true := by
      cases k <;> decide
    have hk : 'k' ∉ k.spelling.toList.map Char.toLower := by cases k <;> decide
    have hlast : (k.spelling.toList.map Char.toLower).getLast? ≠ some 'i' := by
      cases k <;> decide
    have hbegins := prefix_of_lowercaseAfter (List.all_eq_true.1 hplain) hk hlast
      (show _ <+: Text.lowercaseAfter [] word from h ▸ List.prefix_rfl)
    -- the lowered text is no shorter, so nothing stands behind the keyword
    have hlength := length_le_lowercaseAfter [] word
    rw [show Text.lowercaseAfter [] word = _ from h] at hlength
    refine map_toUpper_of_map_toLower (hbegins.eq_of_length_le ?_).symm
    rwa [List.length_map]
  · intro h
    rw [hspelled, lowercase_of_spelling h]
    exact map_toLower_of_spelling h

/-! ## §3. The token of a word. -/

/-- A word is a keyword exactly if it spells the keyword in capitals. -/
theorem wordToken_eq_keyword_iff :
    wordToken word = .keyword k ↔ Text.uppercase word = k.spelling.toList :=
  ⟨uppercase_of_wordToken, wordToken_of_uppercase⟩

/-- A word that is no keyword is an identifier, kept as written. -/
theorem wordToken_of_forall_ne (h : ∀ k, wordToken word ≠ .keyword k) :
    wordToken word = .identifier (String.ofList word) := by
  unfold wordToken at h ⊢
  split
  · next k hk =>
    rw [hk] at h
    exact absurd rfl (h k)
  · rfl

end Words

/-- What the token of a word says about the word in lower case. -/
structure FoldsLetters (word : List Char) (token : Token) : Prop where
  /-- It is a keyword if the plain letters of the word are the keyword in lower case, and else
  not. -/
  keyword_iff : ∀ k, token = .keyword k
    ↔ Text.lowercase (word.map plainLetter) = Text.lowercase k.spelling.toList
  /-- If it is no keyword, it is an identifier, with the word as written. -/
  identifier : (∀ k, token ≠ .keyword k) → token = .identifier (String.ofList word)
  /-- A word that is the keyword in lower case is the keyword. -/
  of_lowercase : ∀ k, Text.lowercase word = Text.lowercase k.spelling.toList → token = .keyword k
  /-- A keyword that is not the word in lower case has a long s or a dotless i. -/
  apart_iff : ∀ k, token = .keyword k →
    (Text.lowercase word ≠ Text.lowercase k.spelling.toList ↔ 'ſ' ∈ word ∨ 'ı' ∈ word)

theorem map_plainLetter_of_not_mem {word : List Char} (h : ¬ ('ſ' ∈ word ∨ 'ı' ∈ word)) :
    word.map plainLetter = word := by
  obtain ⟨hlong, hdotless⟩ := not_or.1 h
  refine (List.map_congr_left (g := id) fun c hc => ?_).trans (List.map_id word)
  unfold plainLetter
  rw [if_neg (ne_of_mem_of_not_mem hc hlong), if_neg (ne_of_mem_of_not_mem hc hdotless)]
  rfl

/-- Every word has a token of this kind. -/
theorem foldsLetters_wordToken (word : List Char) : FoldsLetters word (wordToken word) := by
  have hplain : ∀ k, wordToken word = .keyword k
      ↔ Text.lowercase (word.map plainLetter) = Text.lowercase k.spelling.toList := fun k =>
    wordToken_eq_keyword_iff.trans (uppercase_eq_spelling_iff.trans lowercase_eq_spelling_iff.symm)
  refine ⟨hplain, wordToken_of_forall_ne, fun k hk => ?_, fun k hk => ?_⟩
  · exact wordToken_of_spelling (lowercase_eq_spelling_iff.1 hk)
  · rw [← not_iff_not, not_not]
    constructor
    · -- the letters of the keyword in any case are letters of the alphabet
      intro hsame
      have halpha := isAlpha_of_spelling (lowercase_eq_spelling_iff.1 hsame)
      rintro (hlong | hdotless)
      · exact absurd (halpha _ hlong) (by decide)
      · exact absurd (halpha _ hdotless) (by decide)
    · intro hnone
      have hsame := (hplain k).1 hk
      rwa [map_plainLetter_of_not_mem hnone] at hsame

/-! ## §4. Words in a text. -/

/-- Word characters, the first of which begins a word. -/
structure IsWord (word : List Char) : Prop where
  begins : ∃ c ∈ word.head?, isWordStart c = true
  goesOn : ∀ c ∈ word, isWordChar c = true

/-- A digit begins no word. -/
theorem isDigit_of_isWordStart {c : Char} (h : isWordStart c = true) : Text.isDigit c = false := by
  rw [← Bool.not_eq_true]
  intro hdigit
  unfold Text.isDigit at hdigit
  obtain ⟨hfrom, hto⟩ := Bool.and_eq_true_iff.1 hdigit
  have hfrom : '0'.val.toNat ≤ c.toNat := decide_eq_true_iff.1 hfrom
  have hto : c.toNat ≤ '9'.val.toNat := decide_eq_true_iff.1 hto
  have hdigits : ∀ n < '9'.val.toNat + 1, '0'.val.toNat ≤ n →
      isWordStart (Char.ofNat n) = false := by
    decide
  have hnone := hdigits c.toNat (Nat.lt_succ_of_le hto) hfrom
  rw [Char.ofNat_toNat, h] at hnone
  cases hnone

/-- What begins a word begins no gap. -/
theorem opensGap_of_isWordStart {c : Char} (h : isWordStart c = true) : opensGap c = false := by
  rw [← Bool.not_eq_true]
  intro hgap
  -- behind a word a gap would end it
  have hgoes : goesOn 'a' c = false := goesOn_of_opensGap 'a' hgap
  have hword : goesOn 'a' c = true := by
    unfold goesOn
    rw [if_neg (by decide), if_neg (by decide), isWordChar_of_isWordStart h]
    decide
  rw [hgoes] at hword
  cases hword

/-- What begins a word is read by the reader of words. -/
theorem readToken_of_isWordStart {c : Char} (h : isWordStart c = true) (rest : List Char) :
    readToken c rest = .ok ⟨c :: rest.takeWhile isWordChar,
      wordToken (c :: rest.takeWhile isWordChar), rest.dropWhile isWordChar⟩ := by
  have hne : ∀ d, isWordStart d = false → c ≠ d := by
    rintro d hd rfl
    rw [h] at hd
    cases hd
  have hquote : ¬ (c = '\'' || c = '"') = true := by
    rw [Bool.or_eq_true, decide_eq_true_eq, decide_eq_true_eq]
    exact not_or.2 ⟨hne _ (by decide), hne _ (by decide)⟩
  have hname : ¬ (c = '\x60' || c = '[') = true := by
    rw [Bool.or_eq_true, decide_eq_true_eq, decide_eq_true_eq]
    exact not_or.2 ⟨hne _ (by decide), hne _ (by decide)⟩
  unfold readToken
  rw [isDigit_of_isWordStart h, if_neg Bool.false_ne_true, if_neg hquote, if_neg hname, if_pos h]

/-- A word behind a gap that no word character follows is one lexeme. -/
theorem nextLexeme_word {gap word rest : List Char} (hgap : Trivia gap) (hword : IsWord word)
    (hrest : ∀ c ∈ rest.head?, isWordChar c = false) :
    nextLexeme (gap ++ (word ++ rest)) = .ok (some (⟨gap, word, wordToken word⟩, rest)) := by
  obtain ⟨c, hc, hstart⟩ := hword.begins
  obtain ⟨inside, rfl⟩ := List.head?_eq_some_iff.1 hc
  obtain ⟨htake, hdrop⟩ := takeWhile_run (List.forall_mem_cons.1 hword.goesOn).2 hrest
  refine nextLexeme_some_iff_readsAs.2 ⟨rfl, hgap, c, inside, rfl, ?_, ?_⟩
  · exact splitGap_token (opensGap_of_isWordStart hstart) _
  · rw [readToken_of_isWordStart hstart, htake, hdrop]

/-- **The lexer folds a word through its capitals**: what it makes of the word is the keyword that
the plain letters are in lower case, or the word itself as an identifier. -/
theorem foldsLetters_nextLexeme {gap word rest : List Char} (hgap : Trivia gap)
    (hword : IsWord word) (hrest : ∀ c ∈ rest.head?, isWordChar c = false) :
    ∃ token, nextLexeme (gap ++ (word ++ rest)) = .ok (some (⟨gap, word, token⟩, rest))
      ∧ FoldsLetters word token :=
  ⟨wordToken word, nextLexeme_word hgap hword hrest, foldsLetters_wordToken word⟩

/-- A word in two cases, with a long s, up to a comma. -/
theorem foldsLetters_nextLexeme_values : Trivia [' '] ∧ IsWord "valUEſ".toList
    ∧ (∀ c ∈ (",".toList).head?, isWordChar c = false)
    ∧ ∃ token, nextLexeme ([' '] ++ ("valUEſ".toList ++ ",".toList))
        = .ok (some (⟨[' '], "valUEſ".toList, token⟩, ",".toList))
      ∧ FoldsLetters "valUEſ".toList token := by
  have hgap : Trivia [' '] := .of_allBlank (by decide)
  have hword : IsWord "valUEſ".toList :=
    ⟨⟨'v', rfl, by decide⟩, List.all_eq_true.1 (by decide)⟩
  have hrest : ∀ c ∈ (",".toList).head?, isWordChar c = false := by
    intro c hc
    cases hc
    decide
  exact ⟨hgap, hword, hrest, foldsLetters_nextLexeme hgap hword hrest⟩

/-- A word that is a keyword to the lexer and none in lower case: it announces no statement, and in
another place of a statement it is read as the keyword. -/
theorem longS_is_keyword :
    IsWord "ſelect".toList
      ∧ lexemes "ſelect".toList = .ok ([⟨[], "ſelect".toList, .keyword .select⟩], [])
      ∧ Text.lowercase "ſelect".toList ≠ Text.lowercase Keyword.select.spelling.toList
      ∧ Command.ofText "ſelect * FROM t".toList = .error (.unsupportedCommand "ſelect")
      ∧ Text.lowercase "valueſ".toList ≠ Text.lowercase Keyword.values.spelling.toList
      ∧ Statement.ofText .insert "INSERT INTO t (a) valueſ (1);".toList
        = .ok (.insert "t" ["a"] [[.text "1"]]) := by
  have hword : IsWord "ſelect".toList :=
    ⟨⟨'ſ', rfl, by decide⟩, List.all_eq_true.1 (by decide)⟩
  refine ⟨hword, ?_, by decide, by decide, by decide, by decide +kernel⟩
  have hnext : nextLexeme ([] ++ ("ſelect".toList ++ []))
      = .ok (some (⟨[], "ſelect".toList, .keyword .select⟩, [])) := by
    decide
  exact lexemes_cons hnext (lexemes_trivia .none)

end SmallSql
