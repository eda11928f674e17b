/-
  SmallSql.Proofs.Checked.Cursor
  ────────────────────────────────
  The operations that can stop a program, with the stop made visible: an index, a slice, a
  difference, a negation.  A step of a checked program gives a value, is refused with an error that
  is an answer, or crashes:

      Checked ε α  =  α  |  refused ε  |  crash

  On these stands a reader that keeps a position in a list of tokens and goes back to the text by
  the spans of the tokens.
-/
import SmallSql.Statement.Reading
import SmallSql.Text.Bytes

namespace SmallSql

/-! ## §1. Steps that can crash. -/

/-- What stops a program. -/
inductive Crash where
  /-- A position outside its list. -/
  | index
  /-- A part of a text that ends before it begins, reaches past the end or cuts a character. -/
  | slice
  /-- A count below zero. -/
  | negative
  /-- An integer that 64 bits do not hold. -/
  | overflow
  /-- A row in a table of another width. -/
  | width
deriving DecidableEq, Repr

/-- Why a step gives no value. -/
inductive Halt (ε : Type) where
  | refused (fault : ε)
  | crash (c : Crash)

/-- A step that can be refused and can crash. -/
abbrev Checked (ε α : Type) := Except (Halt ε) α

/-- Another error in the place of the one that a step is refused with. -/
def Halt.map {ε ε' : Type} (f : ε → ε') : Halt ε → Halt ε'
  | refused fault => refused (f fault)
  | crash c => crash c

namespace Checked

/-- A step that cannot crash. -/
def safe {ε α : Type} (x : Except ε α) : Checked ε α := x.mapError .refused

/-- Behind a safe step, a program is safe if it is so on every value that the step can give. -/
theorem safe_bind {ε α β : Type} {x : Except ε α} {f : α → Checked ε β} {g : α → Except ε β}
    (h : ∀ a, x = .ok a → f a = safe (g a)) : (safe x >>= f) = safe (x >>= g) := by
  cases x with
  | error fault => rfl
  | ok a => exact h a rfl

theorem safe_mapError {ε ε' α : Type} (f : ε → ε') (x : Except ε α) :
    (safe x).mapError (Halt.map f) = safe (x.mapError f) := by
  cases x <;> rfl

section Operations

variable {ε α : Type}

/-- The element at a position. -/
def elementAt (xs : List α) (i : Nat) : Checked ε α :=
  match xs[i]? with
  | some a => .ok a
  | none => .error (.crash .index)

/-- Another element at a position. -/
def setAt (xs : List α) (i : Nat) (a : α) : Checked ε (List α) :=
  if i < xs.length then .ok (xs.set i a) else .error (.crash .index)

/-- The list without the element at a position. -/
def removeAt (xs : List α) (i : Nat) : Checked ε (List α) :=
  if i < xs.length then .ok (xs.eraseIdx i) else .error (.crash .index)

/-- The elements `start, …, stop - 1`. -/
def slice (xs : List α) (start stop : Nat) : Checked ε (List α) :=
  if start ≤ stop ∧ stop ≤ xs.length then .ok ((xs.take stop).drop start)
  else .error (.crash .slice)

/-- What a count is above another. -/
def difference (a b : Nat) : Checked ε Nat :=
  if b ≤ a then .ok (a - b) else .error (.crash .negative)

theorem elementAt_eq_ok {xs : List α} {i : Nat} {a : α} (h : xs[i]? = some a) :
    (elementAt xs i : Checked ε α) = .ok a := by
  unfold elementAt
  rw [h]

theorem setAt_of_lt {xs : List α} {i : Nat} (h : i < xs.length) (a : α) :
    (setAt xs i a : Checked ε (List α)) = .ok (xs.set i a) := if_pos h

theorem difference_of_le {a b : Nat} (h : b ≤ a) :
    (difference a b : Checked ε Nat) = .ok (a - b) := if_pos h

/-- A part of a list lies between what is in front of it and what is behind it. -/
theorem slice_append (before part after : List α) :
    (slice (before ++ (part ++ after)) before.length (before.length + part.length)
      : Checked ε (List α)) = .ok part := by
  have hinside : before.length ≤ before.length + part.length
      ∧ before.length + part.length ≤ (before ++ (part ++ after)).length := by
    simp only [List.length_append]
    omega
  unfold slice
  rw [if_pos hinside, ← List.append_assoc, ← List.length_append, List.take_left, List.drop_left]

end Operations

/-! ## §2. Cursors. -/

/-- What a reader looks at: tokens, where their texts stand, and the text. -/
structure Scan where
  tokens : List Token
  spans : List Span
  source : List Char

/-- The token at a position; none at the end. -/
def Scan.current (s : Scan) (position : Nat) : Option Token := s.tokens[position]?

theorem Scan.lt_of_current {s : Scan} {position : Nat} {t : Token}
    (h : s.current position = some t) : position < s.tokens.length :=
  (List.getElem?_eq_some_iff.1 h).1

/-- A reader that goes from a position to a later one. -/
structure Cursor (α : Type) where
  run : Scan → Nat → Checked ReadFault (α × Nat)
  advances : ∀ {s : Scan} {p q : Nat} {a : α}, run s p = .ok (a, q) → p ≤ q

namespace Cursor

variable {α β : Type}

/-- Stays where it is. -/
protected def pure (a : α) : Cursor α where
  run _ p := .ok (a, p)
  advances h := by cases h; exact Nat.le_refl _

/-- Reads an `α`, then what it calls for from where the first ended. -/
protected def bind (m : Cursor α) (f : α → Cursor β) : Cursor β where
  run s p := match m.run s p with
    | .error halt => .error halt
    | .ok (a, q) => (f a).run s q
  advances h := by
    split at h
    · cases h
    · next hm => exact Nat.le_trans (m.advances hm) ((f _).advances h)

instance : Monad Cursor where
  pure := Cursor.pure
  bind := Cursor.bind

theorem run_bind (m : Cursor α) (f : α → Cursor β) (s : Scan) (p : Nat) :
    (m >>= f).run s p = match m.run s p with
      | .error halt => .error halt
      | .ok (a, q) => (f a).run s q := rfl

/-- Something other than what is called for stands at the position. -/
def refusal (what : String) (s : Scan) (p : Nat) : Halt ReadFault :=
  .refused (.malformed (.expected what (s.current p)))

/-- Is refused. -/
def fail (fault : ReadFault) : Cursor α where
  run _ _ := .error (.refused fault)
  advances h := by cases h

/-- Takes the token at the position if `view` accepts it. -/
def take (view : Token → Option α) (what : String) : Cursor α where
  run s p := match (s.current p).bind view with
    | some a => .ok (a, p + 1)
    | none => .error (refusal what s p)
  advances h := by
    split at h
    · cases h; exact Nat.le_succ _
    · cases h

/-- Takes this token if it stands at the position, and says whether it did. -/
def takeIf (t : Token) : Cursor Bool where
  run s p := if s.current p = some t then .ok (true, p + 1) else .ok (false, p)
  advances h := by
    split at h
    · cases h; exact Nat.le_succ _
    · cases h; exact Nat.le_refl _

/-- Succeeds at the end only. -/
def finished : Cursor Unit where
  run s p := match s.current p with
    | none => .ok ((), p)
    | some t => .error (.refused (.malformed (.trailing t)))
  advances h := by
    split at h
    · cases h; exact Nat.le_refl _
    · cases h

/-- One item, then as many more as commas announce. -/
def commaLoop (item : Cursor α) (s : Scan) (p : Nat) : Checked ReadFault (List α × Nat) :=
  match _h : item.run s p with
  | .error halt => .error halt
  | .ok (a, q) =>
    if _hq : s.current q = some .comma then
      match commaLoop item s (q + 1) with
      | .error halt => .error halt
      | .ok (as, q') => .ok (a :: as, q')
    else .ok ([a], q)
termination_by s.tokens.length - p
decreasing_by
  have h₁ := item.advances _h
  have h₂ := Scan.lt_of_current _hq
  omega

theorem commaLoop_advances (item : Cursor α) {s : Scan} {p q : Nat} {as : List α}
    (h : commaLoop item s p = .ok (as, q)) : p ≤ q := by
  fun_induction commaLoop item s p generalizing as q with
  | case1 => cases h
  | case2 => cases h
  | case3 p a q₁ ha hq as' q' hmore ih =>
      cases h
      have h₁ := item.advances ha
      have h₂ := ih hmore
      omega
  | case4 p a q₁ ha hq =>
      cases h
      exact item.advances ha

/-- A list whose items stand between commas. -/
def commaList (item : Cursor α) : Cursor (List α) where
  run := commaLoop item
  advances := commaLoop_advances item

end Cursor

end Checked

end SmallSql
