/-
  SmallSql.Proofs.Workbench.Step
  ────────────────────────────────
  The three ways in which running a text on a workbench ends, whatever the store is:

      the text is refused                  error    the state stays
      the store refuses to save            error    the state stays
      the effect is saved, or need not be  reply    the state takes the effect on

  In every case the trimmed text and its outcome are logged.
-/
import SmallSql.Proofs.Text.Trim
import SmallSql.Workbench

namespace SmallSql.Workbench

variable {σ : Type} [KeyValueStore σ]

/-- The workbench with a run logged. -/
def logged (w : Workbench σ) (sql : String) (result : Except SqlError Reply) : Workbench σ :=
  { w with log := w.log ++ [{ statement := trimmed sql, outcome := .ofResult result }] }

/-- The store refuses to take what an effect changes. -/
def Refuses (w : Workbench σ) (e : Effect) (fault : SqlError) : Prop :=
  e.isMutation = true
    ∧ (Snapshot.save w.store (w.state.apply e).catalog (w.state.apply e).selection).1 = .error fault

/-- How a run can end. -/
inductive Ran (w : Workbench σ) (sql : String) : Except SqlError Reply × Workbench σ → Prop
  | refused {fault : SqlError} : w.state.prepare (trimmed sql) = .error fault →
      Ran w sql (.error fault, w.logged sql (.error fault))
  | unsaved {e : Effect} {fault : SqlError} (store : σ) :
      w.state.prepare (trimmed sql) = .ok e → w.Refuses e fault →
      Ran w sql (.error fault, { w with store }.logged sql (.error fault))
  | done {e : Effect} (store : σ) : w.state.prepare (trimmed sql) = .ok e →
      (∀ fault, ¬ w.Refuses e fault) →
      Ran w sql (.ok e.reply,
        { w with state := w.state.apply e, store }.logged sql (.ok e.reply))

/-- Running a text is attempting the trimmed text, and logging it. -/
theorem run_eq_attempt (w : Workbench σ) (sql : String) :
    w.run sql = ((w.attempt (trimmed sql)).1, { (w.attempt (trimmed sql)).2 with
      log := w.log ++ [LogEntry.mk (trimmed sql) (.ofResult (w.attempt (trimmed sql)).1)] }) := by
  unfold run trimmed
  dsimp only

/-- Every run ends in one of these ways. -/
theorem ran_run (w : Workbench σ) (sql : String) : w.Ran sql (w.run sql) := by
  rw [run_eq_attempt]
  unfold attempt
  cases hprepare : w.state.prepare (trimmed sql) with
  | error fault => exact .refused hprepare
  | ok e =>
      dsimp only
      unfold commit
      by_cases hmutation : e.isMutation = true
      · dsimp only
        rw [if_pos hmutation]
        rcases hsave : Snapshot.save w.store (w.state.apply e).catalog (w.state.apply e).selection
          with ⟨fault | ⟨⟩, store⟩
        · exact .unsaved store hprepare ⟨hmutation, by rw [hsave]⟩
        · refine .done store hprepare fun fault hrefuses => ?_
          rw [Refuses, hsave] at hrefuses
          cases hrefuses.2
      · dsimp only
        rw [if_neg hmutation]
        exact .done w.store hprepare fun fault hrefuses => hmutation hrefuses.1

namespace Ran

variable {w after : Workbench σ} {sql : String} {result : Except SqlError Reply}

/-- The trimmed text is logged with the outcome that the caller is told. -/
theorem log (h : w.Ran sql (result, after)) :
    after.log = w.log ++ [{ statement := trimmed sql, outcome := .ofResult result }] := by
  cases h with
  | refused => rfl
  | unsaved => rfl
  | done => rfl

/-- A run that succeeds is an execution of the trimmed text. -/
theorem execute_of_ok {reply : Reply} (h : w.Ran sql (.ok reply, after)) :
    w.state.execute (trimmed sql) = (.ok reply, after.state) := by
  cases h with
  | done store hprepare =>
      unfold State.execute
      rw [hprepare]
      rfl

/-- A run that fails leaves the state. -/
theorem state_of_error {fault : SqlError} (h : w.Ran sql (.error fault, after)) :
    after.state = w.state := by
  cases h with
  | refused => rfl
  | unsaved => rfl

end Ran

end SmallSql.Workbench
