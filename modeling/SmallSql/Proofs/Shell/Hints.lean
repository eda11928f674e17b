/-
  SmallSql.Proofs.Shell.Hints
  ────────────────────────────────
  What a word is completed to, and what a hint spells.  Both are found by comparing texts in lower
  case: the candidates begin with the word, and the hint is what a candidate has behind the word.

      word  sel    candidate  select    hint  ect      sel ++ ect  =  select
      word  SHo    candidate  shop      hint  p        SHo ++ p    ≈  shop

  So a name that begins with the word as it is typed is a candidate, and the word with the hint
  behind it is the candidate in lower case.  Both fail at a capital sigma, which is lowered to
  another letter at the end of the word than in front of a letter; and the hint is another part of
  the candidate if a letter changes its size in lower case.  The fixed words have neither.

  In a session the names are those of its databases and of the tables of the selected one.
-/
import SmallSql.Proofs.Shell.LastWord
import SmallSql.Proofs.Statement.Announcement
import SmallSql.Shell.Session

namespace SmallSql.Shell

open Text (byteSize KeepsSize EndsInSigma meetsCased lowercase)

/-! ## §1. Names that begin with the word. -/

/-- **A name that begins with the word is a candidate, unless the word ends in a capital sigma and
the name goes on with a letter.** -/
theorem mem_candidates_iff {names : List String} {word rest : List Char} {name : String}
    (hword : word ≠ []) (hmem : name ∈ names) (hname : name.toList = word ++ rest) :
    name ∈ candidates names word ↔ ¬ (EndsInSigma word ∧ meetsCased rest = true) := by
  rw [← Text.lowercase_prefix_append_iff, ← hname]
  constructor
  · intro h
    exact (of_mem_candidates h).1
  · intro h
    unfold candidates
    rw [if_neg (by simpa using hword)]
    exact List.mem_append_right _ (List.mem_filter.2 ⟨hmem, List.isPrefixOf_iff_prefix.2 h⟩)

/-! ## §2. Fixed words. -/

/-- One of the first 128 characters, but neither the very first nor a small k. -/
def isAlone (c : Char) : Bool := decide (0 < c.toNat) && decide (c.toNat < 128) && c != 'k'

/-- What is lowered to such a character is one of the first 128. -/
theorem lt_of_lower {c d : Char} (h : Text.lower c = [d]) (hd : isAlone d = true) :
    c.toNat < 128 := by
  simp only [isAlone, Bool.and_eq_true, decide_eq_true_eq, bne_iff_ne] at hd
  obtain ⟨⟨hpositive, hbelow⟩, hk⟩ := hd
  rcases eq_or_isUpper_of_lower h hpositive hbelow hk with rfl | hupper
  · exact hbelow
  · exact forall_isAlpha (P := fun c => c.toNat < 128) (by decide) (isAlpha_iff.2 (.inl hupper))

/-- A text that is lowered to such characters has only characters among the first 128. -/
theorem lt_of_lowercaseAfter {before cs : List Char}
    (h : ∀ d ∈ Text.lowercaseAfter before cs, isAlone d = true) : ∀ c ∈ cs, c.toNat < 128 := by
  induction cs generalizing before with
  | nil => nofun
  | cons c cs ih =>
      rw [Text.lowercaseAfter_cons] at h
      obtain ⟨hfirst, hmore⟩ := List.forall_mem_append.1 h
      refine List.forall_mem_cons.2 ⟨?_, ih hmore⟩
      unfold Text.lowerBetween at hfirst
      split at hfirst
      · -- neither form of a small sigma is one of them
        exfalso
        split at hfirst
        · exact absurd (hfirst 'ς' List.mem_cons_self) (by decide)
        · exact absurd (hfirst 'σ' List.mem_cons_self) (by decide)
      · rcases eq_or_exists_lower c with rfl | ⟨d, hd⟩
        · exact absurd (hfirst '\u0307' (by decide)) (by decide)
        · rw [hd] at hfirst
          exact lt_of_lower hd (hfirst d List.mem_cons_self)

/-- No fixed word has a k. -/
theorem isAlone_of_isFixed {s : String} (h : IsFixed s) : ∀ c ∈ foldWord s, isAlone c = true :=
  List.all_eq_true.1 (h.elim (P := fun s => (foldWord s).all isAlone = true) (by decide +kernel))

/-- A fixed word and what is lowered to its beginning have only characters among the first 128. -/
theorem lt_of_isFixed {s : String} {word : List Char} (h : IsFixed s)
    (hbegins : lowercase word <+: foldWord s) :
    (∀ c ∈ word, c.toNat < 128) ∧ ∀ c ∈ s.toList, c.toNat < 128 := by
  have halone := isAlone_of_isFixed h
  exact ⟨lt_of_lowercaseAfter fun d hd => halone d (hbegins.subset hd), lt_of_lowercaseAfter halone⟩

theorem not_endsInSigma {word : List Char} (h : Text.capitalSigma ∉ word) : ¬ EndsInSigma word := by
  rintro ⟨front, marks, rfl, -⟩
  exact h (List.mem_append_right _ List.mem_cons_self)

/-! ## §3. What a hint spells. -/

section Spelled

variable {names : List String} {word part : List Char} {s suggested : String}

/-- **With the hint behind it the word is the candidate in lower case, if the letters keep their
size, unless the word ends in a capital sigma and the hint begins with a letter.** -/
theorem spells_candidate_iff (h : s ∈ candidates names word)
    (hcut : s.toList = part ++ suggested.toList) (hsize : byteSize part = byteSize word)
    (hword : ∀ c ∈ word, KeepsSize c) (hpart : ∀ c ∈ part, KeepsSize c) :
    lowercase (word ++ suggested.toList) = foldWord s
      ↔ ¬ (EndsInSigma word ∧ meetsCased suggested.toList = true) := by
  have hbegins := (of_mem_candidates h).1
  unfold foldWord at hbegins ⊢
  rw [hcut] at hbegins ⊢
  exact Text.lowercase_replaced_iff hword hpart hbegins hsize

/-- **A hint that comes from a fixed word spells it.** -/
theorem spells_fixed (h : s ∈ candidates names word) (hfixed : IsFixed s)
    (hcut : s.toList = part ++ suggested.toList) (hsize : byteSize part = byteSize word) :
    lowercase (word ++ suggested.toList) = foldWord s := by
  obtain ⟨hword, hs⟩ := lt_of_isFixed hfixed (of_mem_candidates h).1
  have hpart : ∀ c ∈ part, c.toNat < 128 := by
    intro c hc
    apply hs
    rw [hcut]
    exact List.mem_append_left _ hc
  have hsigma : Text.capitalSigma ∉ word := fun hmem => absurd (hword _ hmem) (by decide)
  refine (spells_candidate_iff h hcut hsize (fun c hc => Text.keepsSize_of_lt (hword c hc))
    fun c hc => Text.keepsSize_of_lt (hpart c hc)).2 ?_
  exact fun hends => not_endsInSigma hsigma hends.1

/-- A hint is what a longer candidate has behind as many bytes as the last word. -/
theorem exists_candidate_of_hint {line front : List Char} (h : LastWord line front word)
    (hhint : hint names line (byteSize line) = .ok (some suggested)) :
    ∃ s ∈ candidates names word, ∃ part,
      s.toList = part ++ suggested.toList ∧ byteSize part = byteSize word := by
  by_cases hwide : EndsWide front
  · rw [hint_wide h hwide] at hhint
    cases hhint
  · have hsuggests : Suggests (candidates names word) word (hint names line (byteSize line)) :=
      suggests_hint h hwide
    rw [hhint] at hsuggests
    cases hsuggests with
    | rest hlonger hcut hsize => exact ⟨_, hlonger.mem, _, hcut, hsize⟩

end Spelled

/-! ## §4. Any names. -/

/-- What is offered for a word, and what a hint behind the word spells. -/
structure Completes (names : List String) (word : List Char) : Prop where
  /-- A name that begins with the word is offered, unless the word ends in a capital sigma and the
  name goes on with a letter. -/
  offered_iff : ∀ name ∈ names, ∀ rest, name.toList = word ++ rest →
    (name ∈ candidates names word ↔ ¬ (EndsInSigma word ∧ meetsCased rest = true))
  /-- A hint comes from a fixed word and spells it in lower case, or it comes from a name and spells
  the name in lower case, if letters keep their size and the hint does not go on with a letter
  behind a capital sigma. -/
  spells : ∀ line front suggested, LastWord line front word →
    hint names line (byteSize line) = .ok (some suggested) →
    ∃ s ∈ candidates names word,
      (IsFixed s ∧ lowercase (word ++ suggested.toList) = foldWord s)
        ∨ s ∈ names ∧ ∃ part, s.toList = part ++ suggested.toList ∧ byteSize part = byteSize word
          ∧ ((∀ c ∈ word, KeepsSize c) → (∀ c ∈ part, KeepsSize c) →
            (lowercase (word ++ suggested.toList) = foldWord s
              ↔ ¬ (EndsInSigma word ∧ meetsCased suggested.toList = true)))

/-- **A word is completed to all names that begin with it, and a hint completes it to a fixed word
or a name**, but for sigmas and letters that change their size. -/
theorem completes_of_ne_nil (names : List String) {word : List Char} (hword : word ≠ []) :
    Completes names word := by
  refine ⟨fun name hmem rest hname => mem_candidates_iff hword hmem hname, ?_⟩
  intro line front suggested hlast hhint
  obtain ⟨s, hs, part, hcut, hsize⟩ := exists_candidate_of_hint hlast hhint
  refine ⟨s, hs, ?_⟩
  rcases (of_mem_candidates hs).2 with hfixed | hname
  · exact .inl ⟨hfixed, spells_fixed hs hfixed hcut hsize⟩
  · exact .inr ⟨hname, part, hcut, hsize, spells_candidate_iff hs hcut hsize⟩

/-- A word with an accent, which is a capital in one of two names. -/
theorem completes_of_ne_nil_accent :
    "ét".toList ≠ [] ∧ "été" ∈ candidates ["Étage", "été"] "ét".toList
      ∧ hint ["Étage", "été"] "USE ét".toList (byteSize "USE ét".toList) = .ok (some "age")
      ∧ ∃ s ∈ candidates ["Étage", "été"] "ét".toList,
        lowercase ("ét".toList ++ "age".toList) = foldWord s := by
  have hcompletes := completes_of_ne_nil ["Étage", "été"] (show "ét".toList ≠ [] by decide)
  have hsigma : ¬ EndsInSigma "ét".toList := not_endsInSigma (by decide)
  have hhint : hint ["Étage", "été"] "USE ét".toList (byteSize "USE ét".toList)
      = .ok (some "age") := by
    decide +kernel
  have hlast : LastWord "USE ét".toList "USE ".toList "ét".toList := by
    have hword : "ét".toList.all (fun c => !separatesWords c) = true := by decide +kernel
    refine ⟨by decide, fun c hc => ?_, fun c hc => ?_⟩
    · have hc := List.all_eq_true.1 hword c hc
      exact not_separatesWords_iff.1 (by simpa using hc)
    · cases hc
      exact .inl (by decide +kernel)
  have hsize : ∀ cs : List Char, cs.all (fun c => decide (KeepsSize c)) = true →
      ∀ c ∈ cs, KeepsSize c := fun cs h c hc => of_decide_eq_true (List.all_eq_true.1 h c hc)
  refine ⟨by decide, ?_, hhint, ?_⟩
  · exact (hcompletes.offered_iff "été" (by decide) "é".toList (by decide)).2 fun h => hsigma h.1
  · obtain ⟨s, hs, hspells⟩ := hcompletes.spells _ _ _ hlast hhint
    refine ⟨s, hs, ?_⟩
    rcases hspells with ⟨-, hspells⟩ | ⟨hname, part, hcut, -, hspells⟩
    · exact hspells
    · simp only [List.mem_cons, List.not_mem_nil, or_false] at hname
      rcases hname with rfl | rfl
      · obtain rfl : part = "Ét".toList := by
          refine List.append_cancel_right (hcut.symm.trans ?_)
          decide
        refine (hspells (hsize _ ?_) (hsize _ ?_)).2 fun h => hsigma h.1
        · decide +kernel
        · decide +kernel
      · exact absurd ⟨part, hcut.symm⟩ (show ¬ "age".toList <:+ "été".toList by decide)

/-- A name that goes on with a letter behind a capital sigma; and a name that begins with the sign
for kelvin in lower case, cut behind as many bytes as the sign has. -/
theorem sigma_not_offered_kelvin_misspelled :
    "ΑΣΑ".toList = "ΑΣ".toList ++ "Α".toList ∧ "ΑΣΑ" ∉ candidates ["ΑΣΑ"] "ΑΣ".toList
      ∧ hint ["kabc"] "\u212a".toList (byteSize "\u212a".toList) = .ok (some "c")
      ∧ ∀ s ∈ candidates ["kabc"] "\u212a".toList,
        lowercase ("\u212a".toList ++ "c".toList) ≠ foldWord s := by
  decide +kernel

/-! ## §5. The names of a session. -/

namespace Session

variable {σ : Type} {s : Session σ} {before behind front word : List Char}

/-- There is a database of this name, or a table of this name in the selected one. -/
def Knows (s : Session σ) (name : String) : Prop :=
  (∃ db ∈ s.bench.state.catalog.databases, db.name = name)
    ∨ ∃ db, s.bench.state.selection.current? s.bench.state.catalog = some db
      ∧ ∃ t ∈ db.tables, t.name = name

theorem mem_knownNames_iff {name : String} : name ∈ s.knownNames ↔ s.Knows name := by
  unfold knownNames Knows Catalog.databaseNames
  rw [List.mem_append, List.mem_map]
  refine or_congr Iff.rfl ?_
  cases s.bench.state.selection.current? s.bench.state.catalog with
  | none => simp
  | some db => simp [Database.tableNames]

/-- Candidates are fixed words and what the session knows. -/
theorem knows_of_mem_candidates {candidate : String}
    (h : candidate ∈ candidates s.knownNames word) : IsFixed candidate ∨ s.Knows candidate :=
  (of_mem_candidates h).2.imp_right mem_knownNames_iff.1

/-- **A session completes a word to what there is, and to all of it**, but for names that go on with
a letter behind a capital sigma. -/
theorem exists_words_of_complete (h : LastWord before front word) (hwide : ¬ EndsWide front)
    (hword : word ≠ []) :
    ∃ words, s.complete (before ++ behind) (byteSize before) = .ok ⟨byteSize front, words⟩
      ∧ (∀ candidate ∈ words, IsFixed candidate ∨ s.Knows candidate)
      ∧ ∀ name, s.Knows name → ∀ rest, name.toList = word ++ rest →
        (name ∈ words ↔ ¬ (EndsInSigma word ∧ meetsCased rest = true)) := by
  refine ⟨candidates s.knownNames word, ?_, fun _ hmem => knows_of_mem_candidates hmem, ?_⟩
  · obtain ⟨hstart, hcut⟩ := h.cutAt_wordStart hwide
    unfold complete
    rw [complete_eq, hcut, hstart]
    rfl
  · intro name hname rest hrest
    exact mem_candidates_iff hword (mem_knownNames_iff.2 hname) hrest

/-- **A hint in a session is the end of something that there is** and that begins with the word in
lower case. -/
theorem exists_known_of_hint {line : List Char} {suggested : String}
    (h : LastWord line front word)
    (hhint : s.hint line (byteSize line) = .ok (some suggested)) :
    ∃ candidate, (IsFixed candidate ∨ s.Knows candidate)
      ∧ lowercase word <+: foldWord candidate
      ∧ ∃ part, candidate.toList = part ++ suggested.toList ∧ byteSize part = byteSize word := by
  obtain ⟨candidate, hmem, part, hcut, hsize⟩ := exists_candidate_of_hint h hhint
  exact ⟨candidate, knows_of_mem_candidates hmem, (of_mem_candidates hmem).1, part, hcut, hsize⟩

end Session

end SmallSql.Shell
