/-
  SmallSql.Proofs.Shell.LastWord
  ────────────────────────────────
  Completing a line and hinting at its end, told by the last word.  The word runs from the last
  separator to the cursor, so it holds no separator, and a line is cut there and only there:

      INSERT INTO t (a,na|          front  INSERT INTO t (a,      word  na

  Two cuts are counted in bytes and may go wrong.  The word is taken to start one byte behind the
  separator, which is inside the separator if it takes several bytes; and the candidate for a hint
  is cut at as many bytes as the word has, although it begins with the word in lower case only.
  Separators of one byte, and letters that keep their size in lower case, are always cut between
  characters.
-/
import Mathlib.Data.List.Induction
import SmallSql.Proofs.Text.LowerPrefix
import SmallSql.Shell.Completion

namespace SmallSql.Shell

open Text (byteSize)

/-! ## §1. Positions between characters. -/

/-- The position stands between two characters of the text, or at one of its ends. -/
def IsBoundary (position : Nat) (cs : List Char) : Prop :=
  ∃ front behind, cs = front ++ behind ∧ byteSize front = position

/-- No position inside a character is a boundary. -/
theorem not_isBoundary_inside {front rest : List Char} {c : Char} {k : Nat} (hpos : 0 < k)
    (hk : k < c.utf8Size) : ¬ IsBoundary (byteSize front + k) (front ++ c :: rest) := by
  rintro ⟨front', behind', heq, hsize⟩
  -- the cut stands behind `front`, where it is too short or takes in all of `c`, or inside `front`
  rcases List.append_eq_append_iff.1 heq with ⟨more, rfl, hmore⟩ | ⟨more, rfl, -⟩
  · cases more with
    | nil =>
        rw [List.append_nil] at hsize
        omega
    | cons d more =>
        obtain ⟨rfl, -⟩ := List.cons.inj hmore
        rw [Text.byteSize_append, byteSize] at hsize
        omega
  · rw [Text.byteSize_append] at hsize
    omega

theorem cutAt_append (front behind : List Char) :
    cutAt (byteSize front) (front ++ behind) = .ok (front, behind) := by
  unfold cutAt
  rw [Text.splitAtByte_append]

theorem cutAt_of_not_isBoundary {position : Nat} {cs : List Char}
    (h : ¬ IsBoundary position cs) : cutAt position cs = .error .insideCharacter := by
  unfold cutAt
  split
  · next parts hparts =>
    obtain ⟨heq, hsize⟩ := Text.splitAtByte_eq_some hparts
    exact absurd ⟨parts.1, parts.2, heq.symm, hsize⟩ h
  · rfl

theorem byteSize_of_oneByte {cs : List Char} (h : ∀ c ∈ cs, c.utf8Size = 1) :
    byteSize cs = cs.length := by
  induction cs with
  | nil => rfl
  | cons c cs ih =>
      obtain ⟨hc, hcs⟩ := List.forall_mem_cons.1 h
      rw [byteSize, hc, ih hcs, List.length_cons, Nat.add_comm]

/-- A text of characters of one byte has boundaries everywhere. -/
theorem isBoundary_of_oneByte {cs : List Char} (h : ∀ c ∈ cs, c.utf8Size = 1) {position : Nat}
    (hle : position ≤ byteSize cs) : IsBoundary position cs := by
  have htake : ∀ c ∈ cs.take position, c.utf8Size = 1 := fun c hc => h c (List.mem_of_mem_take hc)
  refine ⟨cs.take position, cs.drop position, (List.take_append_drop _ _).symm, ?_⟩
  rw [byteSize_of_oneByte htake, List.length_take]
  rw [byteSize_of_oneByte h] at hle
  exact Nat.min_eq_left hle

/-! ## §2. The last word. -/

/-- The text ends in the word: the word has no separator inside, and stands behind one or at the
start. -/
structure LastWord (cs front word : List Char) : Prop where
  eq_append : cs = front ++ word
  unbroken : ∀ c ∈ word, Text.isBlank c = false ∧ c ≠ '(' ∧ c ≠ ','
  separated : ∀ c, front.getLast? = some c → Text.isBlank c = true ∨ c = '(' ∨ c = ','

/-- The text ends with a character of several bytes. -/
def EndsWide (front : List Char) : Prop := ∃ c, front.getLast? = some c ∧ 1 < c.utf8Size

theorem separatesWords_iff {c : Char} :
    separatesWords c = true ↔ Text.isBlank c = true ∨ c = '(' ∨ c = ',' := by
  unfold separatesWords
  simp [or_assoc]

theorem not_separatesWords_iff {c : Char} :
    ¬ separatesWords c = true ↔ Text.isBlank c = false ∧ c ≠ '(' ∧ c ≠ ',' := by
  rw [separatesWords_iff, not_or, not_or, Bool.not_eq_true]

theorem exists_lastWord (cs : List Char) : ∃ front word, LastWord cs front word := by
  -- by induction from the end: a separator begins an empty word, any other character goes on
  induction cs using List.reverseRecOn with
  | nil => exact ⟨[], [], rfl, nofun, nofun⟩
  | append_singleton cs c ih =>
      by_cases hc : separatesWords c = true
      · refine ⟨cs ++ [c], [], (List.append_nil _).symm, nofun, fun d hd => ?_⟩
        rw [List.getLast?_concat] at hd
        cases hd
        exact separatesWords_iff.1 hc
      · obtain ⟨front, word, heq, hword, hfront⟩ := ih
        refine ⟨front, word ++ [c], by rw [heq, List.append_assoc], fun d hd => ?_, hfront⟩
        rcases List.mem_append.1 hd with hd | hd
        · exact hword d hd
        · obtain rfl := List.mem_singleton.1 hd
          exact not_separatesWords_iff.1 hc

theorem wordStartFrom_append (found position : Nat) (cs ds : List Char) :
    wordStartFrom found position (cs ++ ds)
      = wordStartFrom (wordStartFrom found position cs) (position + byteSize cs) ds := by
  induction cs generalizing found position with
  | nil => rfl
  | cons c cs ih =>
      rw [List.cons_append, wordStartFrom, wordStartFrom, ih, byteSize, Nat.add_assoc]

/-- Where no separator stands, the word that was found goes on. -/
theorem wordStartFrom_unbroken {word : List Char} (h : ∀ c ∈ word, ¬ separatesWords c = true)
    (found position : Nat) : wordStartFrom found position word = found := by
  induction word generalizing position with
  | nil => rfl
  | cons c word ih =>
      obtain ⟨hc, hword⟩ := List.forall_mem_cons.1 h
      rw [wordStartFrom, if_neg hc, ih hword]

namespace LastWord

variable {cs front word : List Char}

theorem wordStart_eq (h : LastWord cs front word) : wordStart cs = wordStart front := by
  obtain ⟨rfl, hword, -⟩ := h
  have hunbroken : ∀ c ∈ word, ¬ separatesWords c = true := fun c hc =>
    not_separatesWords_iff.2 (hword c hc)
  unfold wordStart
  rw [wordStartFrom_append, wordStartFrom_unbroken hunbroken]

/-- Behind a separator the word is taken to start one byte behind where the separator starts. -/
theorem wordStart_concat {c : Char} (h : LastWord cs (front ++ [c]) word) :
    wordStart cs = byteSize front + 1 := by
  have hc := separatesWords_iff.2 (h.separated c List.getLast?_concat)
  rw [h.wordStart_eq]
  unfold wordStart
  rw [wordStartFrom_append, wordStartFrom, if_pos hc, Nat.zero_add]
  rfl

/-- **The text is cut in front of the word, unless its separator takes several bytes.** -/
theorem cutAt_wordStart (h : LastWord cs front word) (hwide : ¬ EndsWide front) :
    wordStart cs = byteSize front ∧ cutAt (wordStart cs) cs = .ok (front, word) := by
  have hstart : wordStart cs = byteSize front := by
    rcases List.eq_nil_or_concat front with rfl | ⟨init, c, rfl⟩
    · rw [h.wordStart_eq]
      rfl
    · rw [List.concat_eq_append] at h hwide ⊢
      have hone : c.utf8Size = 1 := by
        have hle : ¬ 1 < c.utf8Size := fun hc => hwide ⟨c, List.getLast?_concat, hc⟩
        have hpos := c.utf8Size_pos
        omega
      rw [h.wordStart_concat, Text.byteSize_append, byteSize, byteSize, hone]
  refine ⟨hstart, ?_⟩
  rw [hstart, h.eq_append]
  exact cutAt_append front word

/-- **Behind a separator of several bytes the text is cut inside the separator.** -/
theorem cutAt_wordStart_wide (h : LastWord cs front word) (hwide : EndsWide front) :
    cutAt (wordStart cs) cs = .error .insideCharacter := by
  obtain ⟨c, hlast, hc⟩ := hwide
  obtain ⟨init, rfl⟩ := List.getLast?_eq_some_iff.1 hlast
  refine cutAt_of_not_isBoundary ?_
  rw [h.wordStart_concat, h.eq_append, List.append_assoc]
  exact not_isBoundary_inside Nat.one_pos hc

end LastWord

/-! ## §3. Candidates. -/

/-- The words of a list in front of this one take no more bytes than `word`, and this one takes
more. -/
def FirstLonger (words : List String) (word : List Char) (s : String) : Prop :=
  ∃ shorter others, words = shorter ++ s :: others
    ∧ (∀ t ∈ shorter, byteSize t.toList ≤ byteSize word) ∧ byteSize word < byteSize s.toList

theorem FirstLonger.mem {words : List String} {word : List Char} {s : String}
    (h : FirstLonger words word s) : s ∈ words := by
  obtain ⟨shorter, others, rfl, -⟩ := h
  exact List.mem_append_right _ List.mem_cons_self

theorem FirstLonger.lt {words : List String} {word : List Char} {s : String}
    (h : FirstLonger words word s) : byteSize word < byteSize s.toList := by
  obtain ⟨shorter, others, -, -, hlt⟩ := h
  exact hlt

theorem firstLonger_of_find? {words : List String} {word : List Char} {s : String}
    (h : words.find? (fun s => byteSize word < byteSize s.toList) = some s) :
    FirstLonger words word s := by
  obtain ⟨hs, shorter, others, heq, hshorter⟩ := List.find?_eq_some_iff_append.1 h
  refine ⟨shorter, others, heq, fun t ht => ?_, of_decide_eq_true hs⟩
  have hnot := hshorter t ht
  simpa using hnot

/-- What is suggested behind a word: nothing if no candidate is longer, else what the first longer
one has behind as many bytes as the word, and no answer if these end inside a character. -/
inductive Suggests (words : List String) (word : List Char) :
    Except CutFault (Option String) → Prop
  | nothing (h : ∀ s ∈ words, byteSize s.toList ≤ byteSize word) : Suggests words word (.ok none)
  | rest {s : String} {part : List Char} {suggested : String} (h : FirstLonger words word s)
      (hcut : s.toList = part ++ suggested.toList) (hsize : byteSize part = byteSize word) :
      Suggests words word (.ok (some suggested))
  | inside {s : String} (h : FirstLonger words word s)
      (hcut : ¬ IsBoundary (byteSize word) s.toList) :
      Suggests words word (.error .insideCharacter)

/-- There is an answer if the candidate is cut between characters. -/
theorem Suggests.exists_ok {words : List String} {word : List Char}
    {result : Except CutFault (Option String)} (h : Suggests words word result)
    (hcut : ∀ s, FirstLonger words word s → IsBoundary (byteSize word) s.toList) :
    ∃ suggested, result = .ok suggested := by
  cases h with
  | nothing => exact ⟨none, rfl⟩
  | rest => exact ⟨_, rfl⟩
  | inside hlonger hnot => exact absurd (hcut _ hlonger) hnot

/-- A fixed word, as it is spelled or in small letters. -/
def IsFixed (s : String) : Prop :=
  ∃ fixed ∈ fixedWords, s = fixed ∨ s = String.ofList (foldWord fixed)

/-- What holds of the fixed words in both spellings. -/
theorem IsFixed.elim {P : String → Prop}
    (hall : ∀ fixed ∈ fixedWords, P fixed ∧ P (String.ofList (foldWord fixed))) {s : String}
    (h : IsFixed s) : P s := by
  obtain ⟨fixed, hmem, rfl | rfl⟩ := h
  · exact (hall _ hmem).1
  · exact (hall _ hmem).2

theorem utf8Size_of_isFixed {s : String} (h : IsFixed s) : ∀ c ∈ s.toList, c.utf8Size = 1 := by
  have hone := h.elim (P := fun s => s.toList.all (·.utf8Size == 1) = true) (by decide +kernel)
  exact fun c hc => beq_iff_eq.1 (List.all_eq_true.1 hone c hc)

theorem foldWord_small : ∀ fixed ∈ fixedWords,
    foldWord (String.ofList (foldWord fixed)) = foldWord fixed := by
  decide +kernel

/-- A candidate begins with the word in lower case, and is a fixed word or a name. -/
theorem of_mem_candidates {names : List String} {word : List Char} {s : String}
    (h : s ∈ candidates names word) :
    Text.lowercase word <+: foldWord s ∧ (IsFixed s ∨ s ∈ names) := by
  unfold candidates at h
  split at h
  · cases h
  · rcases List.mem_append.1 h with hfixed | hname
    · obtain ⟨fixed, hmem, rfl⟩ := List.mem_map.1 hfixed
      obtain ⟨hmem, hbegins⟩ := List.mem_filter.1 hmem
      have hbegins := List.isPrefixOf_iff_prefix.1 hbegins
      split
      · -- offered in small letters, but found by its own spelling
        rw [foldWord_small fixed hmem]
        exact ⟨hbegins, .inl ⟨fixed, hmem, .inr rfl⟩⟩
      · exact ⟨hbegins, .inl ⟨fixed, hmem, .inl rfl⟩⟩
    · obtain ⟨hmem, hbegins⟩ := List.mem_filter.1 hname
      exact ⟨List.isPrefixOf_iff_prefix.1 hbegins, .inr hmem⟩

/-- A candidate is cut between characters if it is a fixed word, or if its letters and those of the
word keep their size in lower case. -/
theorem isBoundary_of_mem_candidates {names : List String} {word : List Char} {s : String}
    (h : s ∈ candidates names word) (hlonger : byteSize word < byteSize s.toList)
    (hletters : s ∈ names →
      (∀ c ∈ word, Text.KeepsSize c) ∧ ∀ c ∈ s.toList, Text.KeepsSize c) :
    IsBoundary (byteSize word) s.toList := by
  obtain ⟨hbegins, hfixed | hname⟩ := of_mem_candidates h
  · exact isBoundary_of_oneByte (utf8Size_of_isFixed hfixed) (Nat.le_of_lt hlonger)
  · obtain ⟨hword, hs⟩ := hletters hname
    obtain ⟨part, rest, heq, hsize⟩ := Text.exists_beginning hs hbegins
    exact ⟨part, rest, heq, hsize.trans (Text.byteSize_lowercase hword)⟩

/-! ## §4. Completing and hinting. -/

section Line

variable {names : List String} {before behind front word : List Char}

theorem complete_eq (names : List String) (before behind : List Char) :
    complete names (before ++ behind) (byteSize before) = do
      let (_, word) ← cutAt (wordStart before) before
      return { start := wordStart before, words := candidates names word } := by
  unfold complete
  rw [cutAt_append]
  rfl

/-- At the end of the line the word that ends it is completed. -/
theorem suggests_hint (h : LastWord before front word) (hwide : ¬ EndsWide front) :
    Suggests (candidates names word) word (hint names before (byteSize before)) := by
  unfold hint
  rw [if_neg (Nat.lt_irrefl _), (h.cutAt_wordStart hwide).2]
  dsimp only [bind, Except.bind]
  cases hfind : (candidates names word).find? (fun s => byteSize word < byteSize s.toList) with
  | none =>
      refine .nothing fun s hs => ?_
      have hnot := List.find?_eq_none.1 hfind s hs
      simpa using hnot
  | some s =>
      have hlonger := firstLonger_of_find? hfind
      dsimp only
      by_cases hcut : IsBoundary (byteSize word) s.toList
      · obtain ⟨part, rest, heq, hsize⟩ := hcut
        rw [heq, ← hsize, cutAt_append]
        refine .rest hlonger ?_ hsize
        rw [heq, String.toList_ofList]
      · rw [cutAt_of_not_isBoundary hcut]
        exact .inside hlonger hcut

theorem hint_wide (h : LastWord before front word) (hwide : EndsWide front) :
    hint names before (byteSize before) = .error .insideCharacter := by
  unfold hint
  rw [if_neg (Nat.lt_irrefl _), h.cutAt_wordStart_wide hwide]
  rfl

/-- Inside the line nothing is suggested. -/
theorem hint_inside (hbehind : behind ≠ []) :
    hint names (before ++ behind) (byteSize before) = .ok none := by
  have hlt : byteSize before < byteSize (before ++ behind) := by
    rw [Text.byteSize_append]
    cases behind with
    | nil => exact absurd rfl hbehind
    | cons c behind =>
        have hpos := c.utf8Size_pos
        rw [byteSize]
        omega
  unfold hint
  rw [if_pos hlt]
  rfl

end Line

/-- What completing and hinting answer at a cursor between `before` and `behind`, with `word` in
front of it. -/
structure AnswersAt (names : List String) (before behind front word : List Char) : Prop where
  lastWord : LastWord before front word
  /-- Behind a separator of one byte, or at the start of the line, the word is completed from where
  it starts. -/
  complete_ok : ¬ EndsWide front → complete names (before ++ behind) (byteSize before)
    = .ok { start := byteSize front, words := candidates names word }
  /-- That is a place between characters of the line, and not behind the cursor. -/
  start_isBoundary : IsBoundary (byteSize front) (before ++ behind)
    ∧ byteSize front ≤ byteSize before
  /-- Behind a separator of several bytes there is no answer. -/
  complete_wide : EndsWide front →
    complete names (before ++ behind) (byteSize before) = .error .insideCharacter
  hint_inside : behind ≠ [] → hint names (before ++ behind) (byteSize before) = .ok none
  hint_wide : behind = [] → EndsWide front →
    hint names (before ++ behind) (byteSize before) = .error .insideCharacter
  suggests : behind = [] → ¬ EndsWide front →
    Suggests (candidates names word) word (hint names (before ++ behind) (byteSize before))
  /-- Behind a separator of one byte there is always a hint or none, unless it would come from a
  name, and the name or the word has a letter that changes its size in lower case. -/
  hint_ok : ¬ EndsWide front →
    (∀ s ∈ names, FirstLonger (candidates names word) word s →
      (∀ c ∈ word, Text.KeepsSize c) ∧ ∀ c ∈ s.toList, Text.KeepsSize c) →
    ∃ suggested, hint names (before ++ behind) (byteSize before) = .ok suggested

/-- **A line is completed and hinted at by the word in front of the cursor, and cut inside a
character only at a separator of several bytes or beside a letter that changes its size.** -/
theorem answersAt_lastWord (names : List String) (before behind : List Char) :
    ∃ front word, AnswersAt names before behind front word := by
  obtain ⟨front, word, hword⟩ := exists_lastWord before
  have hend : behind = [] → before ++ behind = before := by
    rintro rfl
    exact List.append_nil before
  have hsuggests : behind = [] → ¬ EndsWide front →
      Suggests (candidates names word) word (hint names (before ++ behind) (byteSize before)) := by
    intro hbehind hwide
    rw [hend hbehind]
    exact suggests_hint hword hwide
  refine ⟨front, word, hword, ?_, ?_, ?_, hint_inside, ?_, hsuggests, ?_⟩
  · intro hwide
    obtain ⟨hstart, hcut⟩ := hword.cutAt_wordStart hwide
    rw [complete_eq, hcut, hstart]
    rfl
  · obtain ⟨rfl, -, -⟩ := hword
    refine ⟨⟨front, word ++ behind, List.append_assoc .., rfl⟩, ?_⟩
    rw [Text.byteSize_append]
    exact Nat.le_add_right _ _
  · intro hwide
    rw [complete_eq, hword.cutAt_wordStart_wide hwide]
    rfl
  · intro hbehind hwide
    rw [hend hbehind]
    exact hint_wide hword hwide
  · intro hwide hletters
    by_cases hbehind : behind = []
    · refine (hsuggests hbehind hwide).exists_ok fun s hs => ?_
      exact isBoundary_of_mem_candidates hs.mem hs.lt fun hname => hletters s hname hs
    · exact ⟨none, hint_inside hbehind⟩

/-- A word behind a blank of three bytes; and a name that begins with the sign for kelvin in lower
case, cut behind as many bytes as the sign has. -/
theorem insideCharacter_wideBlank :
    complete [] "\u3000sel".toList (byteSize "\u3000sel".toList) = .error .insideCharacter
      ∧ hint [] "\u3000sel".toList (byteSize "\u3000sel".toList) = .error .insideCharacter
      ∧ hint ["kaé"] "\u212a".toList (byteSize "\u212a".toList) = .error .insideCharacter := by
  decide +kernel

end SmallSql.Shell
