/-
  SmallSql.Proofs.Text.Lower
  ────────────────────────────────
  Texts in lower case, beside their characters in lower case.  Case variants have the same lowercase
  forms character by character, but a capital sigma takes the final form where its word ends:

      Α Σ  ──▶  α ς                 A S  ──▶  a s
      ∥ ∥         ≠                 ∥ ∥         ∥
      Α σ  ──▶  α σ                 a s  ──▶  a s

  So case variants are equal in lower case exactly if the capital sigmas that end a word in one of
  them are capital sigmas in the other.  Where words end is the same in both, because a letter and
  its lowercase form are alike to their neighbours: both have case and neither is looked through.
-/
import Mathlib.Data.List.Forall2
import SmallSql.Text.Fold

namespace SmallSql

/-! ## §1. The lowercase form of a character. -/

/-- What is sent somewhere is sent there by one of the runs. -/
theorem Text.exists_run_of_mapped? {runs : List Text.CaseRun} {n m : Nat}
    (h : Text.mapped? runs n = some m) : ∃ r ∈ runs, r.first ≤ n ∧ n ≤ r.last
      ∧ (n - r.first) % r.step = 0 ∧ m = r.image n := by
  induction runs with
  | nil => cases h
  | cons r rest ih =>
      rw [Text.mapped?] at h
      split at h
      · cases h
      split at h
      · next hlt hin =>
        cases h
        exact ⟨r, List.mem_cons_self, Nat.le_of_not_lt hlt, hin.1, hin.2, rfl⟩
      · obtain ⟨r', hr', hcover⟩ := ih h
        exact ⟨r', List.mem_cons_of_mem _ hr', hcover⟩

/-- Every character but the capital I with a dot has a single one as its lowercase form. -/
theorem eq_or_exists_lower (c : Char) : c = '\u0130' ∨ ∃ d, Text.lower c = [d] := by
  unfold Text.lower
  split
  · next hdot => exact .inl hdot
  · split
    · exact .inr ⟨_, rfl⟩
    · exact .inr ⟨_, rfl⟩

/-- The character of a code point has that code point. -/
theorem toNat_ofNat_of_isValid {n : Nat} (h : n.isValidChar) : (Char.ofNat n).toNat = n := by
  have hchar : Char.ofNat n = Char.ofNatAux n h := dif_pos h
  rw [hchar]
  rfl

/-! ## §2. Letters with case. -/

namespace Text

/-- Whether one of the ranges holds the code points from `first` to `last`; none in front of it
begins behind `first`. -/
def within (first last : Nat) : List (Nat × Nat) → Bool
  | [] => false
  | r :: rest => r.1.ble first && (last.ble r.2 || within first last rest)

/-- Whether the ranges up to the first one behind `last` end in front of `first`. -/
def apartFrom (first last : Nat) : List (Nat × Nat) → Bool
  | [] => true
  | r :: rest => last.blt r.1 || (r.2.blt first && apartFrom first last rest)

section Span

variable {first last n : Nat} {ranges : List (Nat × Nat)}

theorem inRanges_of_within (h : within first last ranges = true) (hfirst : first ≤ n)
    (hlast : n ≤ last) : inRanges ranges n = true := by
  induction ranges with
  | nil => cases h
  | cons r rest ih =>
      unfold within at h
      obtain ⟨hbegins, h⟩ := Bool.and_eq_true_iff.1 h
      have hbegins : r.1 ≤ first := Nat.le_of_ble_eq_true hbegins
      unfold inRanges
      rw [if_neg (by omega), Bool.or_eq_true, decide_eq_true_eq]
      rcases Bool.or_eq_true_iff.1 h with hends | hrest
      · have hends : last ≤ r.2 := Nat.le_of_ble_eq_true hends
        exact .inl (by omega)
      · exact .inr (ih hrest)

theorem inRanges_of_apartFrom (h : apartFrom first last ranges = true) (hfirst : first ≤ n)
    (hlast : n ≤ last) : inRanges ranges n = false := by
  induction ranges with
  | nil => rfl
  | cons r rest ih =>
      unfold apartFrom at h
      unfold inRanges
      rcases Bool.or_eq_true_iff.1 h with hbehind | h
      · rw [Nat.blt_eq] at hbehind
        rw [if_pos (by omega)]
      · obtain ⟨hends, hrest⟩ := Bool.and_eq_true_iff.1 h
        rw [Nat.blt_eq] at hends
        split
        · rfl
        · rw [ih hrest, Bool.or_false, decide_eq_false_iff_not]
          omega

end Span

/-- A code point to which a capital sigma is at the end of its word or is not: it has case, and no
look passes through it. -/
def HasCase (n : Nat) : Prop :=
  inRanges casedRanges n = true ∧ inRanges caseIgnorableRanges n = false

/-- The runs that lower characters go from letters with case to letters with case.  The letters are
looked up run by run; of one run, which goes in twos, the characters in between are no letters. -/
theorem lowerRuns_hasCase : ∀ r ∈ lowerRuns,
    (within r.first r.last casedRanges = true
        ∨ ∀ k < r.last + 1 - r.first, k % r.step = 0 → inRanges casedRanges (r.first + k) = true)
      ∧ apartFrom r.first r.last caseIgnorableRanges = true
      ∧ within r.target (r.image r.last) casedRanges = true
      ∧ apartFrom r.target (r.image r.last) caseIgnorableRanges = true
      ∧ (r.image r.last < 0xD800 ∨ 0xDFFF < r.target ∧ r.image r.last < 0x110000) := by
  decide +kernel

/-- A character that is lowered to another one has case, and so has the other one. -/
theorem eq_or_hasCase_of_lower {c d : Char} (h : lower c = [d]) :
    d = c ∨ HasCase c.toNat ∧ HasCase d.toNat := by
  unfold lower at h
  split at h
  · cases h
  split at h
  · next m hm =>
    obtain ⟨r, hr, hfirst, hlast, hstep, rfl⟩ := exists_run_of_mapped? hm
    obtain ⟨hcased, happart, hcasedTo, hapartTo, hvalid⟩ := lowerRuns_hasCase r hr
    have himage : r.image c.toNat = r.target + (c.toNat - r.first) := rfl
    have himageLast : r.image r.last = r.target + (r.last - r.first) := rfl
    obtain rfl : Char.ofNat (r.image c.toNat) = d := List.singleton_inj.1 h
    have htoNat : (Char.ofNat (r.image c.toNat)).toNat = r.image c.toNat := by
      apply toNat_ofNat_of_isValid
      unfold Nat.isValidChar
      omega
    refine .inr ⟨⟨?_, inRanges_of_apartFrom happart hfirst hlast⟩, ?_⟩
    · rcases hcased with hwithin | hevery
      · exact inRanges_of_within hwithin hfirst hlast
      · have hc := hevery (c.toNat - r.first) (by omega) hstep
        rwa [Nat.add_sub_cancel' hfirst] at hc
    · rw [htoNat]
      exact ⟨inRanges_of_within hcasedTo (by omega) (by omega),
        inRanges_of_apartFrom hapartTo (by omega) (by omega)⟩
  · exact .inl (List.singleton_inj.1 h).symm

/-- Characters that are alike to a capital sigma beside them. -/
def Alike (c d : Char) : Prop := isCased c = isCased d ∧ isCaseIgnorable c = isCaseIgnorable d

/-- Characters with the same lowercase form are alike to their neighbours. -/
theorem alike_of_lower_eq {c d : Char} (h : lower c = lower d) : Alike c d := by
  rcases eq_or_exists_lower c with rfl | ⟨e, hc⟩
  · -- no other character becomes two
    rcases eq_or_exists_lower d with rfl | ⟨e, hd⟩
    · exact ⟨rfl, rfl⟩
    · rw [hd] at h
      cases h
  · rcases eq_or_hasCase_of_lower hc with rfl | ⟨hcasedC, hcasedE⟩
    · rcases eq_or_hasCase_of_lower (h.symm.trans hc) with rfl | ⟨hcasedD, hcasedE⟩
      · exact ⟨rfl, rfl⟩
      · exact ⟨hcasedE.1.trans hcasedD.1.symm, hcasedE.2.trans hcasedD.2.symm⟩
    · rcases eq_or_hasCase_of_lower (h.symm.trans hc) with rfl | ⟨hcasedD, -⟩
      · exact ⟨hcasedC.1.trans hcasedE.1.symm, hcasedC.2.trans hcasedE.2.symm⟩
      · exact ⟨hcasedC.1.trans hcasedD.1.symm, hcasedC.2.trans hcasedD.2.symm⟩

/-! ## §3. Case variants of a text. -/

/-- Texts whose characters have, one by one, the same lowercase form. -/
def CaseVariants (cs ds : List Char) : Prop := List.Forall₂ (fun c d => lower c = lower d) cs ds

/-- Whether a word ends with the character at this position of `cs`, the characters of `before`
standing in front of it, the nearest first. -/
def endsWordAfter (before cs : List Char) (i : Nat) : Bool :=
  meetsCased ((cs.take i).reverse ++ before) && !meetsCased (cs.drop (i + 1))

/-- Whether a word ends with the character at this position. -/
def endsWord (cs : List Char) (i : Nat) : Bool := endsWordAfter [] cs i

variable {c d : Char} {cs ds before before' : List Char}

/-- The nearest letter has case in both or in neither. -/
theorem meetsCased_congr (h : List.Forall₂ Alike cs ds) : meetsCased cs = meetsCased ds := by
  induction h with
  | nil => rfl
  | @cons c d cs ds hcd _ ih =>
      obtain ⟨hcased, hignorable⟩ := hcd
      unfold meetsCased at ih ⊢
      rw [List.dropWhile_cons, List.dropWhile_cons, ← hignorable]
      by_cases hpassed : isCaseIgnorable c = true
      · rw [if_pos hpassed, if_pos hpassed]
        exact ih
      · rw [if_neg hpassed, if_neg hpassed]
        exact hcased

theorem meetsCased_eq (h : CaseVariants cs ds) : meetsCased cs = meetsCased ds :=
  meetsCased_congr (h.imp fun _ _ => alike_of_lower_eq)

/-- The lowercase form of a character between others. -/
def lowerBetween (before : List Char) (c : Char) (rest : List Char) : List Char :=
  if c = capitalSigma then
    (if meetsCased before && !meetsCased rest then ['ς'] else ['σ'])
  else lower c

theorem lowercaseAfter_cons (before : List Char) (c : Char) (rest : List Char) :
    lowercaseAfter before (c :: rest)
      = lowerBetween before c rest ++ lowercaseAfter (c :: before) rest := rfl

theorem lower_capitalSigma : lower capitalSigma = ['σ'] := by decide +kernel

/-- Between others, a character has as many characters in its lowercase form as alone. -/
theorem length_lowerBetween (before : List Char) (c : Char) (rest : List Char) :
    (lowerBetween before c rest).length = (lower c).length := by
  unfold lowerBetween
  split
  · next hsigma =>
    rw [hsigma, lower_capitalSigma]
    split <;> rfl
  · rfl

/-- Between case variants, characters with the same lowercase form still have the same one, unless
their word ends with them and just one of them is a capital sigma. -/
theorem lowerBetween_eq_iff (hcd : lower c = lower d) (hbefore : CaseVariants before before')
    (hrest : CaseVariants cs ds) :
    lowerBetween before c cs = lowerBetween before' d ds
      ↔ ((meetsCased before && !meetsCased cs) = true →
        (c = capitalSigma ↔ d = capitalSigma)) := by
  unfold lowerBetween
  rw [← meetsCased_eq hbefore, ← meetsCased_eq hrest]
  cases (meetsCased before && !meetsCased cs) with
  | false =>
      -- inside a word a capital sigma is lowered like any other character
      have hinside : ∀ x, (if x = capitalSigma then (if false = true then ['ς'] else ['σ'])
          else lower x) = lower x := by
        intro x
        split
        · next hx =>
          rw [hx, lower_capitalSigma]
          rfl
        · rfl
      rw [hinside, hinside]
      exact iff_of_true hcd nofun
  | true =>
      by_cases hc : c = capitalSigma
      · by_cases hd : d = capitalSigma
        · simp [hc, hd]
        · rw [if_pos hc, if_neg hd, ← hcd, hc, lower_capitalSigma]
          simp [hd]
      · by_cases hd : d = capitalSigma
        · rw [if_neg hc, if_pos hd, hcd, hd, lower_capitalSigma]
          simp [hc]
        · simp [hc, hd, hcd]

/-- Behind case variants, the same capital sigmas at the ends of words make the same text in lower
case, and others do not. -/
theorem lowercaseAfter_eq_iff (h : CaseVariants cs ds) (hbefore : CaseVariants before before') :
    lowercaseAfter before cs = lowercaseAfter before' ds
      ↔ ∀ i, endsWordAfter before cs i = true →
        (cs[i]? = some capitalSigma ↔ ds[i]? = some capitalSigma) := by
  -- by induction along the two texts; the characters passed are case variants as well
  induction h generalizing before before' with
  | nil => simp [lowercaseAfter]
  | @cons c d cs ds hcd hrest ih =>
      have hhead := lowerBetween_eq_iff hcd hbefore hrest
      have htail := ih (.cons hcd hbefore)
      have hlength : (lowerBetween before c cs).length = (lowerBetween before' d ds).length := by
        rw [length_lowerBetween, length_lowerBetween, hcd]
      have hends : ∀ i, endsWordAfter before (c :: cs) (i + 1)
          = endsWordAfter (c :: before) cs i := by
        intro i
        unfold endsWordAfter
        rw [List.take_succ_cons, List.reverse_cons, List.append_assoc, List.singleton_append,
          List.drop_succ_cons]
      rw [lowercaseAfter_cons, lowercaseAfter_cons, ← Nat.and_forall_add_one]
      simp only [hends, List.getElem?_cons_succ, List.getElem?_cons_zero, Option.some.injEq]
      rw [← htail]
      constructor
      · intro heq
        obtain ⟨hfirst, hothers⟩ := List.append_inj heq hlength
        exact ⟨hhead.1 hfirst, hothers⟩
      · rintro ⟨hfirst, hothers⟩
        rw [hothers, hhead.2 hfirst]

/-- **Case variants are equal in lower case exactly if the capital sigmas that end a word in one of
them are capital sigmas in the other.** -/
theorem lowercase_eq_iff (h : CaseVariants cs ds) :
    lowercase cs = lowercase ds
      ↔ ∀ i, endsWord cs i = true → (cs[i]? = some capitalSigma ↔ ds[i]? = some capitalSigma) :=
  lowercaseAfter_eq_iff h .nil

end Text

end SmallSql
