/-
  SmallSql.Proofs.Text.LowerPrefix
  ────────────────────────────────
  Texts in lower case that begin like one another.  Characters are lowered one by one, so a text
  that goes on is lowered to the same beginning, unless a capital sigma ends the word in the one
  and a letter follows it in the other:

      A Σ    ──▶  a ς              A Σ  -    ──▶  a ς -
                                   A Σ  b    ──▶  a σ b

  How many bytes a beginning takes is the same in lower case, if each of its characters keeps its
  size.  Then a word may stand for the beginning of a text that is lowered to the same characters:
  in lower case nothing changes, but for a sigma as above.
-/
import SmallSql.Proofs.Text.Lower
import SmallSql.Text.Bytes

namespace SmallSql.Text

/-! ## §1. The beginning of a longer text. -/

/-- The lowercase forms of characters between others, the ones in front nearest first. -/
def lowercaseBetween : List Char → List Char → List Char → List Char
  | _, [], _ => []
  | before, c :: cs, behind =>
    lowerBetween before c (cs ++ behind) ++ lowercaseBetween (c :: before) cs behind

/-- The text, put behind others, ends in a capital sigma that ends its word: a letter with case
stands in front of it, and all that stands behind it is looked through. -/
def EndsInSigmaAfter (before cs : List Char) : Prop :=
  ∃ front marks, cs = front ++ capitalSigma :: marks
    ∧ meetsCased (front.reverse ++ before) = true ∧ ∀ m ∈ marks, isCaseIgnorable m = true

/-- The text ends in a capital sigma that ends its word. -/
def EndsInSigma (cs : List Char) : Prop := EndsInSigmaAfter [] cs

section Beginning

variable {before behind behind' cs rest : List Char} {c : Char}

theorem lowercaseAfter_append (before cs behind : List Char) :
    lowercaseAfter before (cs ++ behind)
      = lowercaseBetween before cs behind ++ lowercaseAfter (cs.reverse ++ before) behind := by
  induction cs generalizing before with
  | nil => rfl
  | cons c cs ih =>
      rw [List.cons_append, lowercaseAfter_cons, ih, lowercaseBetween, List.append_assoc,
        List.reverse_cons, List.append_assoc, List.singleton_append]

theorem lowercaseBetween_nil (before cs : List Char) :
    lowercaseBetween before cs [] = lowercaseAfter before cs := by
  have happend := lowercaseAfter_append before cs []
  rwa [List.append_nil, lowercaseAfter, List.append_nil, eq_comm] at happend

/-- What stands behind does not matter to the number of characters. -/
theorem length_lowercaseBetween (before cs behind behind' : List Char) :
    (lowercaseBetween before cs behind).length = (lowercaseBetween before cs behind').length := by
  induction cs generalizing before with
  | nil => rfl
  | cons c cs ih =>
      rw [lowercaseBetween, lowercaseBetween, List.length_append, List.length_append,
        length_lowerBetween, length_lowerBetween, ih]

theorem meetsCased_append_of_ignorable (h : ∀ c ∈ cs, isCaseIgnorable c = true) :
    meetsCased (cs ++ behind) = meetsCased behind := by
  unfold meetsCased
  rw [List.dropWhile_append_of_pos h]

theorem meetsCased_append_of_not (h : ¬ ∀ c ∈ cs, isCaseIgnorable c = true) :
    meetsCased (cs ++ behind) = meetsCased cs := by
  induction cs with
  | nil => exact absurd (List.forall_mem_nil _) h
  | cons c cs ih =>
      unfold meetsCased at ih ⊢
      rw [List.cons_append, List.dropWhile_cons, List.dropWhile_cons]
      by_cases hc : isCaseIgnorable c = true
      · rw [if_pos hc, if_pos hc]
        exact ih fun hcs => h (List.forall_mem_cons.2 ⟨hc, hcs⟩)
      · rw [if_neg hc, if_neg hc]

/-- What stands farther behind matters to a capital sigma that would end its word. -/
theorem lowerBetween_append_iff :
    lowerBetween before c (cs ++ behind) = lowerBetween before c cs
      ↔ ¬ ((c = capitalSigma ∧ meetsCased before = true ∧ ∀ m ∈ cs, isCaseIgnorable m = true)
        ∧ meetsCased behind = true) := by
  unfold lowerBetween
  by_cases hc : c = capitalSigma
  · rw [if_pos hc, if_pos hc]
    by_cases hcs : ∀ m ∈ cs, isCaseIgnorable m = true
    · have hnone : meetsCased cs = false := by
        have happend : meetsCased (cs ++ []) = meetsCased [] :=
          meetsCased_append_of_ignorable hcs
        rwa [List.append_nil] at happend
      have hends : (c = capitalSigma ∧ meetsCased before = true
          ∧ ∀ m ∈ cs, isCaseIgnorable m = true) ↔ meetsCased before = true :=
        ⟨fun h => h.2.1, fun h => ⟨hc, h, hcs⟩⟩
      rw [meetsCased_append_of_ignorable hcs, hnone, hends]
      cases meetsCased before <;> cases meetsCased behind <;> decide
    · rw [meetsCased_append_of_not hcs]
      exact iff_of_true rfl fun h => hcs h.1.2.2
  · rw [if_neg hc, if_neg hc]
    exact iff_of_true rfl fun h => hc h.1.1

theorem endsInSigmaAfter_cons :
    EndsInSigmaAfter before (c :: cs)
      ↔ (c = capitalSigma ∧ meetsCased before = true ∧ ∀ m ∈ cs, isCaseIgnorable m = true)
        ∨ EndsInSigmaAfter (c :: before) cs := by
  constructor
  · rintro ⟨front, marks, heq, hfront, hmarks⟩
    cases front with
    | nil =>
        obtain ⟨rfl, rfl⟩ := List.cons.inj heq
        exact .inl ⟨rfl, hfront, hmarks⟩
    | cons d front =>
        obtain ⟨rfl, rfl⟩ := List.cons.inj heq
        refine .inr ⟨front, marks, rfl, ?_, hmarks⟩
        rwa [List.reverse_cons, List.append_assoc] at hfront
  · rintro (⟨rfl, hbefore, hmarks⟩ | ⟨front, marks, rfl, hfront, hmarks⟩)
    · exact ⟨[], cs, rfl, hbefore, hmarks⟩
    · refine ⟨c :: front, marks, rfl, ?_, hmarks⟩
      rwa [List.reverse_cons, List.append_assoc]

/-- A text is lowered in the same way in front of others, unless its last word goes on there behind
a capital sigma. -/
theorem lowercaseBetween_eq_iff :
    lowercaseBetween before cs behind = lowercaseAfter before cs
      ↔ ¬ (EndsInSigmaAfter before cs ∧ meetsCased behind = true) := by
  -- by induction along the text; the characters passed stand in front of the rest
  induction cs generalizing before with
  | nil =>
      refine iff_of_true rfl ?_
      rintro ⟨⟨front, marks, heq, -⟩, -⟩
      cases front <;> cases heq
  | cons c cs ih =>
      rw [lowercaseBetween, lowercaseAfter_cons, endsInSigmaAfter_cons, or_and_right, not_or,
        ← lowerBetween_append_iff, ← ih]
      constructor
      · intro heq
        refine List.append_inj heq ?_
        rw [length_lowerBetween, length_lowerBetween]
      · rintro ⟨hfirst, hmore⟩
        rw [hfirst, hmore]

/-- **The beginning of a text is lowered to the beginning of the lowered text, unless it ends in a
capital sigma and the text goes on with a letter.** -/
theorem lowercase_prefix_append_iff :
    lowercase cs <+: lowercase (cs ++ behind)
      ↔ ¬ (EndsInSigma cs ∧ meetsCased behind = true) := by
  unfold EndsInSigma lowercase
  rw [← lowercaseBetween_eq_iff, lowercaseAfter_append]
  constructor
  · rintro ⟨more, hmore⟩
    refine (List.append_inj hmore ?_).1.symm
    rw [← lowercaseBetween_nil, length_lowercaseBetween [] cs [] behind]
  · intro h
    rw [h]
    exact List.prefix_append _ _

end Beginning

/-! ## §2. Characters that keep their size. -/

/-- The lowercase form of the character takes as many bytes as the character. -/
def KeepsSize (c : Char) : Prop := byteSize (lower c) = c.utf8Size

instance (c : Char) : Decidable (KeepsSize c) :=
  inferInstanceAs (Decidable (byteSize (lower c) = c.utf8Size))

/-- The first 128 characters keep their size. -/
theorem keepsSize_of_lt {c : Char} (h : c.toNat < 128) : KeepsSize c := by
  have hfirst : ∀ n < 128, KeepsSize (Char.ofNat n) := by decide +kernel
  have hc := hfirst c.toNat h
  rwa [Char.ofNat_toNat] at hc

section Sizes

variable {before before' behind behind' cs ds p q : List Char} {c d : Char}

/-- A character that keeps its size has a single one as its lowercase form, of the same size and
alike to its neighbours. -/
theorem exists_lowerBetween (h : KeepsSize c) (before rest : List Char) :
    ∃ d, lowerBetween before c rest = [d] ∧ d.utf8Size = c.utf8Size ∧ Alike c d := by
  unfold lowerBetween
  split
  · next hsigma =>
    subst hsigma
    split
    · exact ⟨'ς', rfl, rfl, by decide +kernel, by decide +kernel⟩
    · exact ⟨'σ', rfl, rfl, by decide +kernel, by decide +kernel⟩
  · rcases eq_or_exists_lower c with rfl | ⟨d, hd⟩
    · exact absurd h (by decide)
    · refine ⟨d, hd, ?_, ?_⟩
      · unfold KeepsSize at h
        rw [hd] at h
        exact h
      · rcases eq_or_hasCase_of_lower hd with rfl | ⟨hc, hd⟩
        · exact ⟨rfl, rfl⟩
        · exact ⟨hc.1.trans hd.1.symm, hc.2.trans hd.2.symm⟩

theorem byteSize_lowercaseBetween (h : ∀ c ∈ cs, KeepsSize c) (before behind : List Char) :
    byteSize (lowercaseBetween before cs behind) = byteSize cs := by
  induction cs generalizing before with
  | nil => rfl
  | cons c cs ih =>
      obtain ⟨hc, hcs⟩ := List.forall_mem_cons.1 h
      obtain ⟨d, hd, hsize, -⟩ := exists_lowerBetween hc before (cs ++ behind)
      rw [lowercaseBetween, hd, List.singleton_append, byteSize, byteSize, hsize, ih hcs]

theorem byteSize_lowercase (h : ∀ c ∈ cs, KeepsSize c) : byteSize (lowercase cs) = byteSize cs := by
  unfold lowercase
  rw [← lowercaseBetween_nil]
  exact byteSize_lowercaseBetween h [] []

/-- What a lowered text begins with is the lowered form of as many bytes at its beginning. -/
theorem exists_beginning (hcs : ∀ c ∈ cs, KeepsSize c) (h : p <+: lowercaseAfter before cs) :
    ∃ part rest, cs = part ++ rest ∧ byteSize part = byteSize p := by
  induction p generalizing before cs with
  | nil => exact ⟨[], cs, rfl, rfl⟩
  | cons e p ih =>
      cases cs with
      | nil => cases List.prefix_nil.1 h
      | cons c cs =>
          obtain ⟨hc, hmore⟩ := List.forall_mem_cons.1 hcs
          obtain ⟨d, hd, hsize, -⟩ := exists_lowerBetween hc before cs
          rw [lowercaseAfter_cons, hd, List.singleton_append] at h
          obtain ⟨rfl, hp⟩ := List.cons_prefix_cons.1 h
          obtain ⟨part, rest, rfl, hpart⟩ := ih hmore hp
          exact ⟨c :: part, rest, rfl, by rw [byteSize, byteSize, hpart, hsize]⟩

/-- Beginnings of one text that take as many bytes are the same. -/
theorem eq_of_prefix {text : List Char} (hp : p <+: text) (hq : q <+: text)
    (h : byteSize p = byteSize q) : p = q := by
  obtain ⟨behind, rfl⟩ := hp
  obtain ⟨behind', heq⟩ := hq
  have hcut := splitAtByte_append p behind
  rw [← heq, h, splitAtByte_append] at hcut
  cases hcut
  rfl

/-- Characters that keep their size and are lowered to the same ones are alike to their
neighbours. -/
theorem forall₂_alike (hcs : ∀ c ∈ cs, KeepsSize c) (hds : ∀ d ∈ ds, KeepsSize d)
    (h : lowercaseBetween before cs behind = lowercaseBetween before' ds behind') :
    List.Forall₂ Alike cs ds := by
  induction cs generalizing before before' ds with
  | nil =>
      cases ds with
      | nil => exact .nil
      | cons d ds =>
          obtain ⟨hd, -⟩ := List.forall_mem_cons.1 hds
          obtain ⟨e, he, -⟩ := exists_lowerBetween hd before' (ds ++ behind')
          rw [lowercaseBetween, lowercaseBetween, he] at h
          cases h
  | cons c cs ih =>
      obtain ⟨hc, hcs⟩ := List.forall_mem_cons.1 hcs
      obtain ⟨e, he, -, hce⟩ := exists_lowerBetween hc before (cs ++ behind)
      cases ds with
      | nil =>
          rw [lowercaseBetween, lowercaseBetween, he] at h
          cases h
      | cons d ds =>
          obtain ⟨hd, hds⟩ := List.forall_mem_cons.1 hds
          obtain ⟨e', he', -, hde⟩ := exists_lowerBetween hd before' (ds ++ behind')
          rw [lowercaseBetween, lowercaseBetween, he, he'] at h
          obtain ⟨rfl, hmore⟩ := List.cons.inj h
          exact .cons ⟨hce.1.trans hde.1.symm, hce.2.trans hde.2.symm⟩ (ih hcs hds hmore)

theorem lowerBetween_congr (h : List.Forall₂ Alike before before') (c : Char) (rest : List Char) :
    lowerBetween before c rest = lowerBetween before' c rest := by
  unfold lowerBetween
  rw [meetsCased_congr h]

/-- Characters in front that are alike to their neighbours lower a text in the same way. -/
theorem lowercaseAfter_congr (h : List.Forall₂ Alike before before') (cs : List Char) :
    lowercaseAfter before cs = lowercaseAfter before' cs := by
  induction cs generalizing before before' with
  | nil => rfl
  | cons c cs ih =>
      rw [lowercaseAfter_cons, lowercaseAfter_cons, lowerBetween_congr h,
        ih (.cons ⟨rfl, rfl⟩ h)]

/-- **A word may stand for as many bytes at the beginning of a text that begins with it in lower
case: the text stays the same in lower case, unless the word ends in a capital sigma and a letter
follows.** -/
theorem lowercase_replaced_iff {word part rest : List Char} (hword : ∀ c ∈ word, KeepsSize c)
    (hpart : ∀ c ∈ part, KeepsSize c) (h : lowercase word <+: lowercase (part ++ rest))
    (hsize : byteSize part = byteSize word) :
    lowercase (word ++ rest) = lowercase (part ++ rest)
      ↔ ¬ (EndsInSigma word ∧ meetsCased rest = true) := by
  -- both begin the lowered text, with as many bytes
  have hlowered : lowercaseBetween [] part rest = lowercase word := by
    unfold lowercase at h
    rw [lowercaseAfter_append] at h
    refine eq_of_prefix (List.prefix_append _ _) h ?_
    rw [byteSize_lowercaseBetween hpart, hsize]
    exact (byteSize_lowercase hword).symm
  -- so what stands behind them has the same neighbours
  have halike : List.Forall₂ Alike word part := by
    have hword' : lowercaseBetween [] word [] = lowercase word := lowercaseBetween_nil [] word
    exact forall₂_alike hword hpart (hword'.trans hlowered.symm)
  have hrest : lowercaseAfter (word.reverse ++ []) rest
      = lowercaseAfter (part.reverse ++ []) rest := by
    rw [List.append_nil, List.append_nil]
    exact lowercaseAfter_congr (List.forall₂_reverse_iff.2 halike) rest
  unfold EndsInSigma
  rw [← lowercaseBetween_eq_iff]
  unfold lowercase at hlowered ⊢
  rw [lowercaseAfter_append, lowercaseAfter_append, hlowered, hrest, List.append_left_inj]

end Sizes

end SmallSql.Text
