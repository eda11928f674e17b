/-
  SmallSql.Parsing
  ────────────────────────────────
  Readers over a list of tokens.  A `Parser τ ε α` takes an `α` off the front of a list of `τ`, or
  fails with an `ε`.  It carries the proof that what it leaves is no longer than what it was given,
  so that a list of items separated by commas can be read by recursion on the length of the input.

  Both grammars of this project, SQL statements and JSON texts, are written with it.
-/

namespace SmallSql

/-- A reader that takes an `α` off the front of the input and never lengthens it. -/
structure Parser (τ ε α : Type) where
  run : List τ → Except ε (α × List τ)
  shrinks : ∀ {input : List τ} {a : α} {rest : List τ},
    run input = .ok (a, rest) → rest.length ≤ input.length

namespace Parser

variable {τ ε α β σ : Type}

/-! ## §1. Sequencing. -/

/-- Takes nothing. -/
protected def pure (a : α) : Parser τ ε α where
  run input := .ok (a, input)
  shrinks h := by cases h; exact Nat.le_refl _

/-- Reads an `α`, then what it calls for. -/
protected def bind (p : Parser τ ε α) (f : α → Parser τ ε β) : Parser τ ε β where
  run input := match p.run input with
    | .error e => .error e
    | .ok (a, rest) => (f a).run rest
  shrinks h := by
    split at h
    · cases h
    · next hp => exact Nat.le_trans ((f _).shrinks h) (p.shrinks hp)

instance : Monad (Parser τ ε) where
  pure := Parser.pure
  bind := Parser.bind

@[simp] theorem run_pure (a : α) (input : List τ) :
    (pure a : Parser τ ε α).run input = .ok (a, input) := rfl

@[simp] theorem run_bind (p : Parser τ ε α) (f : α → Parser τ ε β) (input : List τ) :
    (p >>= f).run input = match p.run input with
      | .error e => .error e
      | .ok (a, rest) => (f a).run rest := rfl

/-! ## §2. Single tokens. -/

/-- Fails, with an error that may depend on the input that is left. -/
def fail (fault : List τ → ε) : Parser τ ε α where
  run input := .error (fault input)
  shrinks h := by cases h

/-- Takes one token that `view` accepts; fails at any other and at the end. -/
def token (view : τ → Option α) (fault : List τ → ε) : Parser τ ε α where
  run
    | [] => .error (fault [])
    | t :: rest => match view t with
      | some a => .ok (a, rest)
      | none => .error (fault (t :: rest))
  shrinks {input a rest} h := by
    cases input with
    | nil => cases h
    | cons t ts =>
      simp only at h
      split at h
      · cases h; exact Nat.le_succ _
      · cases h

/-- Takes one token if it is wanted, and says whether it did. -/
def optional (wanted : τ → Bool) : Parser τ ε Bool where
  run
    | [] => .ok (false, [])
    | t :: rest => if wanted t then .ok (true, rest) else .ok (false, t :: rest)
  shrinks {input a rest} h := by
    cases input with
    | nil => cases h; exact Nat.le_refl _
    | cons t ts =>
      simp only at h
      split at h
      · cases h; exact Nat.le_succ _
      · cases h; exact Nat.le_refl _

/-- Whether a token of this sort comes next; takes nothing. -/
def ahead (wanted : τ → Bool) : Parser τ ε Bool where
  run input := .ok (input.head?.any wanted, input)
  shrinks h := by cases h; exact Nat.le_refl _

/-- Takes the tokens in front of the first one that stops. -/
def takeUntil (stops : τ → Bool) : Parser τ ε (List τ) where
  run input := .ok (input.takeWhile (fun t => !stops t), input.dropWhile (fun t => !stops t))
  shrinks {input a rest} h := by
    cases h
    exact (List.dropWhile_suffix _).length_le

/-- Succeeds at the end of the input only. -/
def finished (fault : List τ → ε) : Parser τ ε Unit where
  run
    | [] => .ok ((), [])
    | t :: rest => .error (fault (t :: rest))
  shrinks {input a rest} h := by
    cases input with
    | nil => cases h; exact Nat.le_refl _
    | cons t ts => cases h

/-! ## §3. Separated items. -/

/-- One item, then as many more as separators announce. -/
def separatedRun (separates : τ → Bool) (item : Parser τ ε α) (input : List τ) :
    Except ε (List α × List τ) :=
  match _h : item.run input with
  | .error e => .error e
  | .ok (a, []) => .ok ([a], [])
  | .ok (a, t :: rest) =>
    if separates t then
      match separatedRun separates item rest with
      | .error e => .error e
      | .ok (as, left) => .ok (a :: as, left)
    else .ok ([a], t :: rest)
termination_by input.length
decreasing_by
  have := item.shrinks _h
  simp only [List.length_cons] at this
  omega

theorem separatedRun_shrinks (separates : τ → Bool) (item : Parser τ ε α) {input : List τ}
    {as : List α} {rest : List τ} (h : separatedRun separates item input = .ok (as, rest)) :
    rest.length ≤ input.length := by
  fun_induction separatedRun separates item input generalizing as rest with
  | case1 => cases h
  | case2 _ _ hi => cases h; exact item.shrinks hi
  | case3 => cases h
  | case4 input a t left hi hs bs left' hr ih =>
    cases h
    have h₁ := item.shrinks hi
    have h₂ := ih hr
    simp only [List.length_cons] at h₁
    omega
  | case5 _ _ _ _ hi => cases h; exact item.shrinks hi

/-- A non-empty list of items with separators between them. -/
def separated (separates : τ → Bool) (item : Parser τ ε α) : Parser τ ε (List α) where
  run := separatedRun separates item
  shrinks := separatedRun_shrinks separates item

/-- One step, then as many more as separators announce, each from the value the last one gave. -/
def separatedFromRun (separates : τ → Bool) (step : σ → Parser τ ε σ) (s : σ) (input : List τ) :
    Except ε (σ × List τ) :=
  match _h : (step s).run input with
  | .error e => .error e
  | .ok (s', []) => .ok (s', [])
  | .ok (s', t :: rest) =>
    if separates t then separatedFromRun separates step s' rest else .ok (s', t :: rest)
termination_by input.length
decreasing_by
  have := (step s).shrinks _h
  simp only [List.length_cons] at this
  omega

theorem separatedFromRun_shrinks (separates : τ → Bool) (step : σ → Parser τ ε σ) {s s' : σ}
    {input rest : List τ} (h : separatedFromRun separates step s input = .ok (s', rest)) :
    rest.length ≤ input.length := by
  fun_induction separatedFromRun separates step s input with
  | case1 => cases h
  | case2 s _ _ hi => cases h; exact (step s).shrinks hi
  | case3 s input s₁ t left hi hs ih =>
    have h₁ := (step s).shrinks hi
    have h₂ := ih h
    simp only [List.length_cons] at h₁
    omega
  | case4 s _ _ _ _ hi => cases h; exact (step s).shrinks hi

/-- Separated items of which each is read in the light of those before it. -/
def separatedFrom (separates : τ → Bool) (step : σ → Parser τ ε σ) (s : σ) : Parser τ ε σ where
  run := separatedFromRun separates step s
  shrinks := separatedFromRun_shrinks separates step

end Parser

end SmallSql
