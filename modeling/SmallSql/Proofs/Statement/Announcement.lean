/-
  SmallSql.Proofs.Statement.Announcement
  ────────────────────────────────
  The command that a text announces is the only one that it can be a statement of.  The two are
  found out in different ways: the announcement from the characters of the lowered text, whatever
  stands behind them; the statement from words that are cut off the text first and compared in
  capitals.

      text      c  r  e  a  t  e  ␣  T  a  b  l  e  x …
      opening   c  r  e  a  t  e  ␣  t  a  b  l  e                    lowered, a prefix
      tokens    CREATE               TABLEX …                         capitals, whole words

  Nothing but a letter of the alphabet is lowered to a letter of an opening, so the opening words
  stand in the text, each at the start of a token; and no opening word begins the keyword that
  another command has in its place.
-/
import SmallSql.Proofs.Statement.Derivation
import SmallSql.Proofs.Statement.Writing
import SmallSql.Proofs.Text.Lower
import SmallSql.Proofs.Token.Context

namespace SmallSql

/-! ## §1. Characters that become plain. -/

/-- Of the runs that lower characters, two reach into the first 128: the alphabet, and the sign for
kelvin, which becomes a k. -/
theorem lowerRuns_below : ∀ r ∈ Text.lowerRuns, r.target < 128 →
    (r.first = 0x41 ∧ r.last = 0x5A) ∨ (r.target = 0x6B ∧ r.first = r.last) := by
  decide +kernel

/-- The plain characters are among the first 128, and none is the very first. -/
theorem toNat_of_isPlain {c : Char} (h : isPlain c = true) : 0 < c.toNat ∧ c.toNat < 128 := by
  simp only [isPlain, Bool.or_eq_true, decide_eq_true_eq] at h
  rcases h with (halpha | rfl) | rfl
  · exact forall_isAlpha (P := fun c => 0 < c.toNat ∧ c.toNat < 128) (by decide) halpha
  · decide
  · decide

/-- A number that does not become the very first character becomes the character of that number. -/
theorem toNat_ofNat_of_pos {n : Nat} (h : 0 < (Char.ofNat n).toNat) : (Char.ofNat n).toNat = n := by
  by_cases hvalid : n.isValidChar
  · exact toNat_ofNat_of_isValid hvalid
  · have hchar : Char.ofNat n = Char.ofNat 0 := dif_neg hvalid
    rw [hchar] at h
    exact absurd h (by decide)

/-- What is lowered to one of the first 128 characters, neither the very first nor a k, is that
character or a capital of the alphabet. -/
theorem eq_or_isUpper_of_lower {c d : Char} (h : Text.lower c = [d]) (hpositive : 0 < d.toNat)
    (hbelow : d.toNat < 128) (hk : d ≠ 'k') : c = d ∨ c.isUpper = true := by
  unfold Text.lower at h
  split at h
  · cases h
  split at h
  · next m hm =>
    obtain ⟨r, hr, hfirst, hlast, -, rfl⟩ := Text.exists_run_of_mapped? hm
    obtain rfl : Char.ofNat (r.image c.toNat) = d := List.singleton_inj.1 h
    have himage : r.image c.toNat = r.target + (c.toNat - r.first) := rfl
    rw [toNat_ofNat_of_pos hpositive] at hbelow
    -- the run ends among the first 128 characters
    rcases lowerRuns_below r hr (by omega) with ⟨hA, hZ⟩ | ⟨hkelvin, hsingle⟩
    · have hfrom : 'A'.val.toNat ≤ c.toNat := by
        rw [← show 0x41 = 'A'.val.toNat from rfl]
        omega
      have hto : c.toNat ≤ 'Z'.val.toNat := by
        rw [← show 0x5A = 'Z'.val.toNat from rfl]
        omega
      exact .inr (isUpper_iff.2 ⟨hfrom, hto⟩)
    · refine absurd ?_ hk
      rw [show r.image c.toNat = 0x6B by omega]
  · exact .inl (List.singleton_inj.1 h)

/-- What is lowered to one plain character, other than a k, is plain. -/
theorem isPlain_of_lower {c p : Char} (h : Text.lower c = [p]) (hp : isPlain p = true)
    (hk : p ≠ 'k') : isPlain c = true := by
  obtain ⟨hpositive, hbelow⟩ := toNat_of_isPlain hp
  rcases eq_or_isUpper_of_lower h hpositive hbelow hk with rfl | hupper
  · exact hp
  · unfold isPlain
    rw [isAlpha_iff.2 (.inl hupper)]
    rfl

/-- A plain character at the start of a lowered text is the small letter of the first character. -/
theorem prefix_tail_of_lowercaseAfter {p c : Char} {more before rest : List Char}
    (hp : isPlain p = true) (hk : p ≠ 'k') (hdotted : c ≠ '\u0130')
    (h : p :: more <+: Text.lowercaseAfter before (c :: rest)) :
    p = c.toLower ∧ more <+: Text.lowercaseAfter (c :: before) rest := by
  rw [Text.lowercaseAfter] at h
  split at h
  · -- neither form of a small sigma is plain
    exfalso
    split at h
    · obtain ⟨rfl, -⟩ := List.cons_prefix_cons.1 h
      exact absurd hp (by decide)
    · obtain ⟨rfl, -⟩ := List.cons_prefix_cons.1 h
      exact absurd hp (by decide)
  · obtain ⟨d, hd⟩ := (eq_or_exists_lower c).resolve_left hdotted
    rw [hd] at h
    obtain ⟨rfl, hmore⟩ := List.cons_prefix_cons.1 h
    obtain ⟨-, hlower⟩ := lower_of_isPlain (isPlain_of_lower hd hp hk)
    exact ⟨List.singleton_inj.1 (hd.symm.trans hlower), hmore⟩

/-- Plain characters at the start of a lowered text stand there in large or small letters.  Two
letters could come about in another way: a k from the sign for kelvin, and an i, with its dot behind
it, from the capital I with a dot. -/
theorem prefix_of_lowercaseAfter {opening before body : List Char}
    (hplain : ∀ c ∈ opening, isPlain c = true) (hk : 'k' ∉ opening)
    (hlast : opening.getLast? ≠ some 'i') (h : opening <+: Text.lowercaseAfter before body) :
    opening <+: body.map Char.toLower := by
  induction opening generalizing before body with
  | nil => exact List.nil_prefix
  | cons p opening ih =>
      obtain ⟨hp, hmore⟩ := List.forall_mem_cons.1 hplain
      cases body with
      | nil => cases List.prefix_nil.1 h
      | cons c rest =>
          by_cases hdotted : c = '\u0130'
          · -- its dot would be the next character, but is not plain
            exfalso
            subst hdotted
            obtain ⟨rfl, hdot⟩ := List.cons_prefix_cons.1 h
            cases opening with
            | nil => exact hlast rfl
            | cons q opening =>
                obtain ⟨rfl, -⟩ := List.cons_prefix_cons.1 hdot
                exact absurd (hmore _ List.mem_cons_self) (by decide)
          · obtain ⟨hfirst, hrest⟩ := prefix_tail_of_lowercaseAfter hp
              (Ne.symm (List.ne_of_not_mem_cons hk)) hdotted h
            refine List.cons_prefix_cons.2
              ⟨hfirst, ih hmore (List.not_mem_of_not_mem_cons hk) ?_ hrest⟩
            cases opening with
            | nil =>
                intro hnone
                cases hnone
            | cons q opening => rwa [List.getLast?_cons_cons] at hlast

/-! ## §2. Opening words at the start of tokens. -/

/-- A word that is a keyword spells it in capitals. -/
theorem uppercase_of_wordToken {text : List Char} {k : Keyword} (h : wordToken text = .keyword k) :
    Text.uppercase text = k.spelling.toList := by
  unfold wordToken at h
  split at h
  · next k' hk =>
    cases h
    unfold Keyword.ofWord? at hk
    have hspelled := List.find?_some hk
    exact (beq_iff_eq.1 hspelled).symm
  · cases h

/-- If the lexeme is a keyword, its spelling begins with that of `w`. -/
def BeginsAs (w : Keyword) (l : Lexeme) : Prop :=
  ∀ k, l.token = .keyword k → w.spelling.toList <+: k.spelling.toList

theorem toUpper_toLower (c : Char) : c.toLower.toUpper = c.toUpper := by
  rcases isAlpha_or_toLower_eq c with halpha | hsame
  · exact forall_isAlpha (P := fun c => c.toLower.toUpper = c.toUpper) (by decide) halpha
  · rw [hsame]

/-- What is a keyword in small letters is one in capitals. -/
theorem map_toUpper_of_map_toLower {w : Keyword} {word : List Char}
    (h : word.map Char.toLower = w.spelling.toList.map Char.toLower) :
    word.map Char.toUpper = w.spelling.toList := by
  have hlower : ∀ cs : List Char, (cs.map Char.toLower).map Char.toUpper = cs.map Char.toUpper := by
    intro cs
    rw [List.map_map]
    exact List.map_congr_left fun c _ => toUpper_toLower c
  rw [← hlower, h]
  cases w <;> rfl

/-- A keyword with a gap in front is the first token, or begins it. -/
theorem exists_lexeme_word {w : Keyword} {gap word rest tail : List Char} {ls : List Lexeme}
    (hgap : Trivia gap) (hword : word.map Char.toUpper = w.spelling.toList)
    (h : lexemes (gap ++ (word ++ rest)) = .ok (ls, tail)) :
    ∃ l others, ls = l :: others ∧ BeginsAs w l
      ∧ lexemes (rest.dropWhile isWordChar) = .ok (others, tail) := by
  have halpha := isAlpha_of_spelling hword
  obtain ⟨c, inside, rfl⟩ : ∃ c inside, word = c :: inside := by
    cases word with
    | nil => cases w <;> cases hword
    | cons c inside => exact ⟨c, inside, rfl⟩
  have hc := halpha c List.mem_cons_self
  have hinside : ∀ d ∈ inside, isWordChar d = true := fun d hd =>
    isWordChar_of_isWordStart (isWordStart_of_isAlpha (halpha d (List.mem_cons_of_mem _ hd)))
  have hopens : opensGap c = false :=
    forall_isAlpha (P := fun c => opensGap c = false) (by decide) hc
  have hnext : nextLexeme (gap ++ (c :: inside ++ rest))
      = .ok (some (⟨gap, c :: inside ++ rest.takeWhile isWordChar,
        wordToken (c :: inside ++ rest.takeWhile isWordChar)⟩, rest.dropWhile isWordChar)) := by
    refine nextLexeme_some_iff.2 ⟨c, inside ++ rest, ?_, ?_⟩
    · rw [splitGap_trivia hgap, List.cons_append, splitGap_token hopens]
      simp [prepend]
    · rw [readToken_word hc, List.takeWhile_append_of_pos hinside,
        List.dropWhile_append_of_pos hinside]
      rfl
  obtain ⟨others, rfl, hleft⟩ := exists_lexemes_left hnext h
  refine ⟨_, others, rfl, ?_, hleft⟩
  intro k hk
  rw [← uppercase_of_wordToken hk, ← uppercase_of_spelling hword]
  exact ⟨Text.uppercase (rest.takeWhile isWordChar), List.flatMap_append.symm⟩

/-- A keyword at the start of a text, in any case, and what goes on behind it. -/
theorem exists_word_of_prefix {w : Keyword} {more body : List Char}
    (h : w.spelling.toList.map Char.toLower ++ more <+: body.map Char.toLower) :
    ∃ word rest, body = word ++ rest ∧ word.map Char.toUpper = w.spelling.toList
      ∧ more <+: rest.map Char.toLower := by
  obtain ⟨after, hbody⟩ := h
  rw [List.append_assoc] at hbody
  obtain ⟨word, rest, rfl, hword, hrest⟩ := List.map_eq_append_iff.1 hbody.symm
  exact ⟨word, rest, rfl, map_toUpper_of_map_toLower hword, after, hrest.symm⟩

theorem eq_space_of_toLower {c : Char} (h : c.toLower = ' ') : c = ' ' := by
  rcases isAlpha_or_toLower_eq c with halpha | hsame
  · exact absurd h (forall_isAlpha (P := fun c => c.toLower ≠ ' ') (by decide) halpha)
  · rwa [hsame] at h

/-- Keywords with a space between each two, in any case, each begin a token. -/
theorem exists_firsts {ks : List Keyword} {gap body tail : List Char} {ls : List Lexeme}
    (hgap : Trivia gap) (h : lexemes (gap ++ body) = .ok (ls, tail))
    (hopening : ([' '].intercalate (ks.map fun w => w.spelling.toList)).map Char.toLower
      <+: body.map Char.toLower) :
    ∃ firsts others, ls = firsts ++ others ∧ List.Forall₂ BeginsAs ks firsts := by
  induction ks generalizing gap body ls with
  | nil => exact ⟨[], ls, rfl, .nil⟩
  | cons w ks ih =>
      cases ks with
      | nil =>
          rw [List.map_singleton, List.intercalate_singleton,
            ← List.append_nil (List.map Char.toLower _)] at hopening
          obtain ⟨word, rest, rfl, hword, -⟩ := exists_word_of_prefix hopening
          obtain ⟨l, others, rfl, hl, -⟩ := exists_lexeme_word hgap hword h
          exact ⟨[l], others, rfl, .cons hl .nil⟩
      | cons w' ks =>
          rw [List.map_cons, List.map_cons, List.intercalate_cons_cons, List.map_append,
            List.map_append, List.append_assoc] at hopening
          obtain ⟨word, rest, rfl, hword, hmore⟩ := exists_word_of_prefix hopening
          -- the space ends the token
          obtain ⟨c, rest, rfl⟩ : ∃ c rest', rest = c :: rest' := by
            cases rest with
            | nil => cases List.prefix_nil.1 hmore
            | cons c rest' => exact ⟨c, rest', rfl⟩
          obtain ⟨hspace, hothers⟩ := List.cons_prefix_cons.1 hmore
          obtain rfl := eq_space_of_toLower hspace.symm
          obtain ⟨l, others, rfl, hl, hleft⟩ := exists_lexeme_word hgap hword h
          rw [List.dropWhile_cons_of_neg (by decide)] at hleft
          have hblank : Trivia [' '] := .of_allBlank (by decide)
          obtain ⟨firsts, others, rfl, hfirsts⟩ := ih hblank hleft hothers
          exact ⟨l :: firsts, others, rfl, .cons hl hfirsts⟩

/-! ## §3. The words of a statement. -/

/-- A statement of a command begins with the words of the command. -/
theorem Grammar.Rule.exists_words {k : Command} {statement : Statement} {forms : List Form}
    (h : Rule k statement forms) : ∃ more, forms = (Statement.words k).map Word ++ more := by
  cases h <;> exact ⟨_, rfl⟩

/-- A run of words and more begins with the keywords. -/
theorem Grammar.Sequence.keywords_prefix {ks : List Keyword} {more : List Form} {ls : List Lexeme}
    (h : Sequence (ks.map Word ++ more) ls) : ks.map .keyword <+: ls.map Lexeme.token := by
  induction ks generalizing ls with
  | nil => exact List.nil_prefix
  | cons w ks ih =>
      obtain ⟨phrase, rest, rfl, hphrase, hrest⟩ := h
      obtain ⟨l, rfl, hl⟩ := is_iff.1 hphrase
      exact List.cons_prefix_cons.2 ⟨hl.symm, ih hrest⟩

/-- Where tokens that begin with some words are other words, each begins the other in its place. -/
theorem begins_zip {ks ks' : List Keyword} {firsts others : List Lexeme}
    (h : List.Forall₂ BeginsAs ks firsts)
    (h' : ks'.map .keyword <+: (firsts ++ others).map Lexeme.token) :
    ∀ p ∈ ks.zip ks', p.1.spelling.toList <+: p.2.spelling.toList := by
  induction h generalizing ks' with
  | nil => exact nofun
  | @cons w l ks firsts hl _ ih =>
      cases ks' with
      | nil => exact nofun
      | cons w' ks' =>
          obtain ⟨htoken, hrest⟩ := List.cons_prefix_cons.1 h'
          exact List.forall_mem_cons.2 ⟨hl w' htoken.symm, ih hrest⟩

/-- No words of a command begin, each in its place, the words of another. -/
theorem eq_of_begins_zip {k k' : Command}
    (h : ∀ p ∈ (Statement.words k).zip (Statement.words k'),
      p.1.spelling.toList <+: p.2.spelling.toList) : k' = k := by
  revert h
  cases k <;> cases k' <;> decide

/-- The opening words of the announced command stand at the start of the text. -/
theorem Command.exists_body_of_ofText {k : Command} {cs : List Char}
    (h : Command.ofText cs = .ok k) : ∃ before body, Text.allBlank before = true
      ∧ cs = before ++ body ∧ k.opening.toList <+: body.map Char.toLower := by
  obtain ⟨before, after, hbefore, -, -, hcs⟩ := Text.exists_trim cs
  refine ⟨before, Text.trim cs ++ after, hbefore, hcs, ?_⟩
  have hannounced : announced? (Text.lowercase (Text.trim cs)) = some k := by
    unfold ofText at h
    dsimp only at h
    split at h
    · next k' hk' =>
      split at h
      · cases h
        exact hk'
      · cases h
    · cases h
  have hprefix := List.find?_some hannounced
  have hk : 'k' ∉ k.opening.toList := by cases k <;> decide
  have hlast : k.opening.toList.getLast? ≠ some 'i' := by cases k <;> decide
  have hopening := prefix_of_lowercaseAfter (List.all_eq_true.1 k.isPlain_opening) hk hlast
    (List.isPrefixOf_iff_prefix.1 hprefix)
  rw [List.map_append]
  exact hopening.trans (List.prefix_append _ _)

/-- **The command that a text announces is the only one that it can be a statement of.** -/
theorem announced_is_only_command {cs : List Char} {k k' : Command} {statement : Statement}
    (hannounced : Command.ofText cs = .ok k) (hread : Statement.ofText k' cs = .ok statement) :
    k' = k := by
  obtain ⟨before, body, hbefore, rfl, hopening⟩ := Command.exists_body_of_ofText hannounced
  obtain ⟨ls, tail, hlexemes, forms, hrule, hforms⟩ :=
    (Statement.ofText_eq_ok_iff_derives _ _ _).1 hread
  rw [Statement.opening_eq] at hopening
  obtain ⟨firsts, others, rfl, hfirsts⟩ := exists_firsts (.of_allBlank hbefore) hlexemes hopening
  obtain ⟨more, rfl⟩ := hrule.exists_words
  exact eq_of_begins_zip (begins_zip hfirsts hforms.keywords_prefix)

/-- A comment right behind the word, and a name in backticks. -/
theorem announced_is_only_command_use :
    Command.ofText " use--d\n`x` ;".toList = .ok .use
      ∧ Statement.ofText .use " use--d\n`x` ;".toList = .ok (.use "x")
      ∧ Command.use = Command.use := by
  have hannounced : Command.ofText " use--d\n`x` ;".toList = .ok .use := by decide +kernel
  have hread : Statement.ofText .use " use--d\n`x` ;".toList = .ok (.use "x") := by
    decide +kernel
  exact ⟨hannounced, hread, announced_is_only_command hannounced hread⟩

end SmallSql
