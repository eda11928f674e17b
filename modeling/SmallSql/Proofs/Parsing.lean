/-
  SmallSql.Proofs.Parsing
  ────────────────────────────────
  Errors pass through what comes after them, and there are two ways to reason about readers.
  `Ensures` says what is true of whatever a reader gives, on any input; it goes through a reader
  step by step.  The `…_last` and `…_more` lemmas say what a separated list gives on an input whose
  items are known, one item at a time; the `takeWhile_…` lemmas say where a run of characters or
  tokens ends.
-/
import SmallSql.Parsing

namespace SmallSql

/-! ## §1. Errors pass through. -/

/-- Two steps succeed when the first does, and the second does with its value. -/
theorem bind_eq_ok {ε α β : Type} {x : Except ε α} {f : α → Except ε β} {b : β} :
    (x >>= f) = .ok b ↔ ∃ a, x = .ok a ∧ f a = .ok b := by
  cases x with
  | error e =>
      show Except.error e = .ok b ↔ _
      simp
  | ok a =>
      show f a = .ok b ↔ _
      simp

@[simp] theorem ok_bind {ε α β : Type} (a : α) (f : α → Except ε β) :
    ((.ok a : Except ε α) >>= f) = f a := rfl

namespace Parser

variable {τ ε α β σ : Type}

/-! ## §2. What a reader ensures. -/

/-- A reader built of two gives what the second gives after the first. -/
theorem run_bind_eq_ok {p : Parser τ ε α} {f : α → Parser τ ε β} {input rest : List τ} {b : β} :
    (p >>= f).run input = .ok (b, rest)
      ↔ ∃ a mid, p.run input = .ok (a, mid) ∧ (f a).run mid = .ok (b, rest) := by
  rw [run_bind]
  cases p.run input with
  | error e => simp
  | ok r =>
      obtain ⟨a, mid⟩ := r
      constructor
      · intro h
        exact ⟨a, mid, rfl, h⟩
      · rintro ⟨a', mid', he, h⟩
        cases he
        exact h

/-- Whatever the reader takes off an input has the property. -/
def Ensures (p : Parser τ ε α) (P : α → Prop) : Prop :=
  ∀ ⦃input rest : List τ⦄ ⦃a : α⦄, p.run input = .ok (a, rest) → P a

namespace Ensures

theorem pure {a : α} {P : α → Prop} (h : P a) : Ensures (pure a : Parser τ ε α) P := by
  intro input rest b hb
  cases hb
  exact h

/-- Nothing needs to be known of the first of two readers. -/
theorem bind {p : Parser τ ε α} {f : α → Parser τ ε β} {P : β → Prop}
    (h : ∀ a, Ensures (f a) P) : Ensures (p >>= f) P := by
  intro input rest b hb
  obtain ⟨a, mid, -, hf⟩ := run_bind_eq_ok.1 hb
  exact h a hf

/-- What the first of two readers ensures helps the second. -/
theorem bind_of {p : Parser τ ε α} {f : α → Parser τ ε β} {P : α → Prop} {Q : β → Prop}
    (hp : Ensures p P) (h : ∀ a, P a → Ensures (f a) Q) : Ensures (p >>= f) Q := by
  intro input rest b hb
  obtain ⟨a, mid, ha, hf⟩ := run_bind_eq_ok.1 hb
  exact h a (hp ha) hf

/-- Nothing is read behind a failure. -/
theorem fail_bind {fault : List τ → ε} {f : α → Parser τ ε β} {P : β → Prop} :
    Ensures (Parser.fail fault >>= f) P := by
  intro input rest b hb
  obtain ⟨a, mid, hfail, -⟩ := run_bind_eq_ok.1 hb
  cases hfail

theorem ite {c : Prop} [Decidable c] {p q : Parser τ ε α} {P : α → Prop} (hp : c → Ensures p P)
    (hq : ¬ c → Ensures q P) : Ensures (if c then p else q) P := by
  split
  · next h => exact hp h
  · next h => exact hq h

/-- What every step of a separated list makes of a value with `I` has `J`, and `J` is enough for
the next step. -/
theorem separatedFrom {separates : τ → Bool} {step : σ → Parser τ ε σ} {I J : σ → Prop}
    (hstep : ∀ s, I s → Ensures (step s) J) (hJ : ∀ s, J s → I s) {s : σ} (hs : I s) :
    Ensures (Parser.separatedFrom separates step s) J := by
  intro input rest s' h
  change separatedFromRun separates step s input = .ok (s', rest) at h
  fun_induction separatedFromRun separates step s input with
  | case1 => cases h
  | case2 s input s₁ hi =>
      cases h
      exact hstep s hs hi
  | case3 s input s₁ t left hi ht ih => exact ih (hJ s₁ (hstep s hs hi)) h
  | case4 s input s₁ t left hi ht =>
      cases h
      exact hstep s hs hi

end Ensures

/-! ## §3. Known inputs: one token, separated items. -/

/-- A reader of one token takes a token that it accepts. -/
theorem run_token {view : τ → Option α} {fault : List τ → ε} {t : τ} {a : α} (h : view t = some a)
    (rest : List τ) : (token view fault).run (t :: rest) = .ok (a, rest) := by
  unfold token
  dsimp only
  rw [h]

section Separated

variable {separates : τ → Bool} {item : Parser τ ε α} {step : σ → Parser τ ε σ}

/-- A separated list begins with an item; what stands behind it says whether the list goes on. -/
theorem separatedRun_unfold (input : List τ) :
    separatedRun separates item input = match item.run input with
      | .error fault => .error fault
      | .ok (a, []) => .ok ([a], [])
      | .ok (a, t :: rest) =>
        if separates t then
          match separatedRun separates item rest with
          | .error fault => .error fault
          | .ok (as, left) => .ok (a :: as, left)
        else .ok ([a], t :: rest) := by
  rw [separatedRun]
  split
  · next he => rw [he]
  · next he => rw [he]
  · next he =>
    rewrite [he]
    rfl

/-- The list ends with an item behind which no separator stands. -/
theorem separatedRun_last {input rest : List τ} {a : α} (h : item.run input = .ok (a, rest))
    (hrest : ∀ t ∈ rest.head?, separates t = false) :
    separatedRun separates item input = .ok ([a], rest) := by
  rw [separatedRun_unfold, h]
  cases rest with
  | nil => rfl
  | cons t left => exact if_neg (by simp [hrest t rfl])

/-- The list fails with its first item. -/
theorem separatedRun_error {input : List τ} {fault : ε} (h : item.run input = .error fault) :
    separatedRun separates item input = .error fault := by
  rw [separatedRun_unfold, h]

/-- Behind a separator stands the rest of the list. -/
theorem separatedRun_step {input rest : List τ} {a : α} {t : τ}
    (h : item.run input = .ok (a, t :: rest)) (ht : separates t = true) :
    separatedRun separates item input = match separatedRun separates item rest with
      | .error fault => .error fault
      | .ok (as, left) => .ok (a :: as, left) := by
  rw [separatedRun_unfold, h]
  exact if_pos ht

/-- The list goes on behind a separator. -/
theorem separatedRun_more {input rest left : List τ} {a : α} {as : List α} {t : τ}
    (h : item.run input = .ok (a, t :: rest)) (ht : separates t = true)
    (hmore : separatedRun separates item rest = .ok (as, left)) :
    separatedRun separates item input = .ok (a :: as, left) := by
  rw [separatedRun_step h ht, hmore]

theorem run_separatedFrom (s : σ) (input : List τ) :
    (Parser.separatedFrom separates step s).run input = separatedFromRun separates step s input :=
  rfl

/-- Separated steps begin with one; what stands behind it says whether there are more. -/
theorem separatedFromRun_unfold (s : σ) (input : List τ) :
    separatedFromRun separates step s input = match (step s).run input with
      | .error fault => .error fault
      | .ok (s', []) => .ok (s', [])
      | .ok (s', t :: rest) =>
        if separates t then separatedFromRun separates step s' rest else .ok (s', t :: rest) := by
  rw [separatedFromRun]
  split
  · next he => rw [he]
  · next he => rw [he]
  · next he => rw [he]

theorem separatedFromRun_error {s : σ} {input : List τ} {fault : ε}
    (h : (step s).run input = .error fault) :
    separatedFromRun separates step s input = .error fault := by
  rw [separatedFromRun_unfold, h]

theorem separatedFromRun_last {s s' : σ} {input rest : List τ}
    (h : (step s).run input = .ok (s', rest)) (hrest : ∀ t ∈ rest.head?, separates t = false) :
    separatedFromRun separates step s input = .ok (s', rest) := by
  rw [separatedFromRun_unfold, h]
  cases rest with
  | nil => rfl
  | cons t left => exact if_neg (by simp [hrest t rfl])

theorem separatedFromRun_more {s s' : σ} {input rest : List τ} {t : τ}
    (h : (step s).run input = .ok (s', t :: rest)) (ht : separates t = true) :
    separatedFromRun separates step s input = separatedFromRun separates step s' rest := by
  rw [separatedFromRun_unfold, h]
  exact if_pos ht

end Separated

end Parser

/-! ## §4. Runs and separated texts. -/

/-- A run ends where nothing goes on with it. -/
theorem takeWhile_run {α : Type} {p : α → Bool} {run rest : List α} (h : ∀ a ∈ run, p a = true)
    (hrest : ∀ a ∈ rest.head?, p a = false) :
    (run ++ rest).takeWhile p = run ∧ (run ++ rest).dropWhile p = rest := by
  rw [List.takeWhile_append_of_pos h, List.dropWhile_append_of_pos h]
  cases rest with
  | nil => exact ⟨by simp, rfl⟩
  | cons a rest =>
      have ha : ¬ p a = true := by rw [hrest a rfl]; decide
      rw [List.takeWhile_cons_of_neg ha, List.dropWhile_cons_of_neg ha]
      exact ⟨by simp, rfl⟩

/-- What stands behind a list and stops a run leaves the run in the list as it is. -/
theorem takeWhile_append_of_stop {α : Type} {p : α → Bool} {tail : List α}
    (h : ∀ a ∈ tail.head?, p a = false) (l : List α) :
    (l ++ tail).takeWhile p = l.takeWhile p ∧ (l ++ tail).dropWhile p = l.dropWhile p ++ tail := by
  induction l with
  | nil => exact @takeWhile_run _ p [] tail nofun h
  | cons a rest ih =>
      rw [List.cons_append]
      by_cases ha : p a = true
      · rw [List.takeWhile_cons_of_pos ha, List.takeWhile_cons_of_pos ha,
          List.dropWhile_cons_of_pos ha, List.dropWhile_cons_of_pos ha, ih.1, ih.2]
        exact ⟨rfl, rfl⟩
      · rw [List.takeWhile_cons_of_neg ha, List.takeWhile_cons_of_neg ha,
          List.dropWhile_cons_of_neg ha, List.dropWhile_cons_of_neg ha]
        exact ⟨rfl, rfl⟩

/-- A run that ends inside a list ends there whatever stands behind the list. -/
theorem takeWhile_append_of_stopped {α : Type} {p : α → Bool} {l rest : List α} {a : α}
    (h : l.dropWhile p = a :: rest) (tail : List α) :
    (l ++ tail).takeWhile p = l.takeWhile p ∧ (l ++ tail).dropWhile p = a :: (rest ++ tail) := by
  have hl : l.takeWhile p ++ a :: rest = l := h ▸ List.takeWhile_append_dropWhile
  have ha : p a = false := by
    have := List.head?_dropWhile_not p l
    rw [h] at this
    simpa using this
  have hrun := @takeWhile_run _ p (l.takeWhile p) (a :: (rest ++ tail))
    (List.all_eq_true.1 List.all_takeWhile) fun b hb => by cases hb; exact ha
  rwa [← List.cons_append, ← List.append_assoc, hl] at hrun

/-- Separated texts begin as they do without the last of them. -/
theorem prefix_intercalate {α : Type} (sep : List α) (texts more : List (List α)) :
    sep.intercalate texts <+: sep.intercalate (texts ++ more) := by
  induction texts with
  | nil => exact List.nil_prefix
  | cons text texts ih =>
      cases texts with
      | nil =>
          cases more with
          | nil => exact List.prefix_rfl
          | cons t more =>
              rw [List.intercalate_singleton, List.singleton_append, List.intercalate_cons_cons,
                List.append_assoc]
              exact List.prefix_append _ _
      | cons text' texts =>
          rw [List.cons_append, List.cons_append, List.intercalate_cons_cons,
            List.intercalate_cons_cons]
          exact (List.prefix_append_right_inj _).2 ih

end SmallSql
