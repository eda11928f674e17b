/-
  SmallSql.Proofs.Workbench.Trimming
  ────────────────────────────────
  White space around a text never matters, to the interpreter, which is given the text as it is, and
  to a workbench, which trims it first.

  The command is announced by the trimmed text.  A reader does not look at the gap in front of the
  first lexeme, and that gap is all that trimming changes of the lexemes.  Texts that end inside a
  string or a quoted name have no lexemes, trimmed or not; the error shows the text from the opening
  quote on, and this is the one place where white space at the end of a text is seen.
-/
import SmallSql.Proofs.Token.Margin
import SmallSql.Proofs.Workbench.Step

namespace SmallSql

/-! ## §1. Results that are alike. -/

/-- Both succeed with the same value, or both fail with errors of one kind; if the wording counts,
with the same error. -/
inductive SameOutcome {α : Type} (worded : Prop) : Except SqlError α → Except SqlError α → Prop
  | done (a : α) : SameOutcome worded (.ok a) (.ok a)
  | failed {e f : SqlError} (hkind : e.kind = f.kind) (hsame : worded → e = f) :
      SameOutcome worded (.error e) (.error f)

namespace SameOutcome

variable {α β : Type} {worded : Prop}

theorem refl (x : Except SqlError α) : SameOutcome worded x x := by
  cases x with
  | error e => exact .failed rfl fun _ => rfl
  | ok a => exact .done a

/-- What comes after results that are alike has results alike. -/
theorem bind {x y : Except SqlError α} (h : SameOutcome worded x y) (f : α → Except SqlError β) :
    SameOutcome worded (x >>= f) (y >>= f) := by
  cases h with
  | done a => exact refl _
  | failed hkind hsame => exact .failed hkind hsame

theorem eq_of_ok {x : Except SqlError α} {a : α} (h : SameOutcome worded x (.ok a)) :
    x = .ok a := by
  cases h with
  | done => rfl

theorem exists_of_error {x : Except SqlError α} {f : SqlError}
    (h : SameOutcome worded x (.error f)) :
    ∃ e, x = .error e ∧ e.kind = f.kind ∧ (worded → e = f) := by
  cases h with
  | failed hkind hsame => exact ⟨_, rfl, hkind, hsame⟩

end SameOutcome

/-! ## §2. Readers do not look at the first gap. -/

namespace Statement

/-- Every statement begins with a keyword. -/
theorem exists_reader_eq_word_bind (k : Command) :
    ∃ keyword rest, reader k = word keyword >>= rest := by
  cases k <;> exact ⟨_, _, rfl⟩

/-- A keyword is taken with any gap in front of it. -/
theorem word_indent (keyword : Keyword) (before : List Char) (ls : List Lexeme) :
    (word keyword).run (indent before ls) = (word keyword).run ls := by
  cases ls with
  | nil => rfl
  | cons l rest => rfl

theorem reader_indent (k : Command) (before : List Char) (ls : List Lexeme) :
    (reader k).run (indent before ls) = (reader k).run ls := by
  obtain ⟨keyword, rest, hreader⟩ := exists_reader_eq_word_bind k
  rw [hreader, Parser.run_bind, Parser.run_bind, word_indent]

/-! ## §3. Statements and effects. -/

/-- What is read is the same with white space around the text, and so is a fault, unless the text
ends inside a string or a quoted name. -/
theorem ofText_margin (k : Command) {before after : List Char} (cs : List Char)
    (hbefore : Text.allBlank before = true) (hafter : Text.allBlank after = true) :
    SameOutcome (¬ EndsOpen cs) (ofText k (before ++ (cs ++ after))) (ofText k cs) := by
  rcases hlex : lexemes cs with fault | ⟨ls, gap⟩
  · -- both texts end open, so both are syntax errors
    have hopen : EndsOpen cs := lexemes_error_iff.1 ⟨fault, hlex⟩
    obtain ⟨fault', hlex'⟩ := lexemes_error_iff.2 ((endsOpen_margin hbefore hafter cs).2 hopen)
    unfold ofText read
    rw [hlex, hlex']
    exact .failed rfl fun hclosed => absurd hopen hclosed
  · obtain ⟨gap', hlex'⟩ := lexemes_margin hbefore hafter hlex
    have hread : read k (before ++ (cs ++ after)) = read k cs := by
      unfold read
      rw [hlex, hlex']
      dsimp only
      rw [reader_indent]
    unfold ofText
    rw [hread]
    exact .refl _

end Statement

/-- The effect of a text is the effect of its trimmed text. -/
theorem Effect.sameOutcome_trimmed (sql : String) (c : Catalog) (s : Selection) :
    SameOutcome (¬ EndsOpen sql.toList) (Effect.ofText sql c s)
      (Effect.ofText (trimmed sql) c s) := by
  obtain ⟨before, after, hbefore, hafter, -, hsql⟩ := Text.exists_trim sql.toList
  unfold Effect.ofText trimmed
  rw [String.toList_ofList, Command.ofText_trim]
  cases Command.ofText sql.toList with
  | error e => exact .refl _
  | ok k =>
      rw [ok_bind, ok_bind]
      refine SameOutcome.bind ?_ _
      have hsame := Statement.ofText_margin k (Text.trim sql.toList) hbefore hafter
      rwa [← hsql, ← endsOpen_margin hbefore hafter, ← hsql] at hsame

/-! ## §4. The workbench and the interpreter. -/

/-- A run ends as the execution of the untrimmed text does, unless the store refuses to save. -/
theorem Workbench.Ran.agrees {σ : Type} [KeyValueStore σ] {w : Workbench σ} {sql : String}
    {ran : Except SqlError Reply × Workbench σ} (hran : w.Ran sql ran) :
    (SameOutcome (¬ EndsOpen sql.toList) (w.state.execute sql).1 ran.1
        ∧ (w.state.execute sql).2 = ran.2.state)
      ∨ ∃ e fault, w.state.prepare sql = .ok e ∧ w.Refuses e fault
        ∧ ran.1 = .error fault ∧ ran.2.state = w.state := by
  -- the run prepares the trimmed text, the execution the text itself
  have hsame : SameOutcome (¬ EndsOpen sql.toList) (w.state.prepare sql)
      (w.state.prepare (trimmed sql)) :=
    Effect.sameOutcome_trimmed sql w.state.catalog w.state.selection
  unfold State.execute
  cases hran with
  | refused hprepare =>
      rw [hprepare] at hsame
      obtain ⟨e, he, hkind, hworded⟩ := hsame.exists_of_error
      rw [he]
      exact .inl ⟨.failed hkind hworded, rfl⟩
  | unsaved store hprepare hrefuses =>
      rw [hprepare] at hsame
      exact .inr ⟨_, _, hsame.eq_of_ok, hrefuses, rfl, rfl⟩
  | done store hprepare =>
      rw [hprepare] at hsame
      rw [hsame.eq_of_ok]
      exact .inl ⟨.done _, rfl⟩

/-- **White space around a text never matters.**  The effect of a text is that of its trimmed text:
the same reply and the same replacements, or errors of one kind, and the same error unless the text
ends inside a string or a quoted name.  So a workbench, which trims, and a state, which does not,
end with the same outcome in the same state, unless the store refuses to save what the text
changes. -/
theorem outerBlank_never_matters (sql : String) :
    (∀ (c : Catalog) (s : Selection), SameOutcome (¬ EndsOpen sql.toList) (Effect.ofText sql c s)
      (Effect.ofText (trimmed sql) c s))
    ∧ ∀ (σ : Type) [KeyValueStore σ] (w : Workbench σ),
      (SameOutcome (¬ EndsOpen sql.toList) (w.state.execute sql).1 (w.run sql).1
        ∧ (w.state.execute sql).2 = (w.run sql).2.state)
      ∨ ∃ e fault, w.state.prepare sql = .ok e ∧ w.Refuses e fault
        ∧ (w.run sql).1 = .error fault ∧ (w.run sql).2.state = w.state := by
  constructor
  · intro c s
    exact Effect.sameOutcome_trimmed sql c s
  · intro σ _ w
    exact (w.ran_run sql).agrees

/-- Behind an open quote, white space is part of the text that the error shows. -/
example : Effect.ofText "USE 'a " {} {} ≠ Effect.ofText (trimmed "USE 'a ") {} {} := by
  decide +kernel

end SmallSql
