/-
  SmallSql.Proofs.Workbench.Wrapped
  ────────────────────────────────
  Workbenches over wrapped stores.  A store whose writes can be refused, or can break down, is a
  store with something around it.  Where neither happens it answers and applies as the store does
  that is inside:

      store    ── apply batch ──▶  store'
        │ wrap                        │ wrap
      wrapped  ── apply batch ──▶  wrapped'

  A workbench asks nothing else of its store, so over the wrapped store it is opened, runs and resets
  as over the store inside.
-/
import SmallSql.Proofs.Snapshot
import SmallSql.Proofs.Workbench.Step

namespace SmallSql

variable {σ τ : Type} [KeyValueStore σ] [KeyValueStore τ] {wrap : σ → τ}

/-- A wrapped store answers and applies as the store inside. -/
structure IsWrapping (wrap : σ → τ) : Prop where
  get?_eq : ∀ store key, KeyValueStore.get? (wrap store) key = KeyValueStore.get? store key
  apply_eq : ∀ store batch, KeyValueStore.apply (wrap store) batch
    = ((KeyValueStore.apply store batch).1, wrap (KeyValueStore.apply store batch).2)

namespace Workbench

/-- The workbench over the wrapped store. -/
def wrapped (w : Workbench σ) (wrap : σ → τ) : Workbench τ where
  state := w.state
  store := wrap w.store
  log := w.log

/-- Over a wrapped store, a workbench is opened, runs and resets as over the store inside. -/
structure ActsAlike (wrap : σ → τ) : Prop where
  opens : ∀ store, openStore (wrap store) = (openStore store).map (·.wrapped wrap)
  runs : ∀ (w : Workbench σ) (sql : String),
    (w.wrapped wrap).run sql = ((w.run sql).1, (w.run sql).2.wrapped wrap)
  resets : ∀ w : Workbench σ, (w.wrapped wrap).reset = (w.reset.1, w.reset.2.wrapped wrap)

theorem openStore_wrapped (h : IsWrapping wrap) (store : σ) :
    openStore (wrap store) = (openStore store).map (·.wrapped wrap) := by
  have hload : Snapshot.load (wrap store) = Snapshot.load store :=
    Snapshot.load_congr (h.get?_eq store)
  unfold openStore
  rw [hload]
  cases Snapshot.load store <;> rfl

theorem commit_wrapped (h : IsWrapping wrap) (w : Workbench σ) (e : Effect) :
    (w.wrapped wrap).commit e = ((w.commit e).1, (w.commit e).2.wrapped wrap) := by
  unfold commit Snapshot.save wrapped
  dsimp only
  rw [h.apply_eq]
  -- what is not saved is taken on at once; else the store inside decides
  by_cases hm : e.isMutation = true
  · rw [if_pos hm, if_pos hm]
    rcases KeyValueStore.apply w.store
      (Snapshot.batch (w.state.apply e).catalog (w.state.apply e).selection) with ⟨_ | _, _⟩ <;> rfl
  · rw [if_neg hm, if_neg hm]

theorem attempt_wrapped (h : IsWrapping wrap) (w : Workbench σ) (statement : String) :
    (w.wrapped wrap).attempt statement
      = ((w.attempt statement).1, (w.attempt statement).2.wrapped wrap) := by
  have hstate : (w.wrapped wrap).state = w.state := rfl
  unfold attempt
  rw [hstate]
  cases w.state.prepare statement with
  | error fault => rfl
  | ok e => exact commit_wrapped h w e

theorem run_wrapped (h : IsWrapping wrap) (w : Workbench σ) (sql : String) :
    (w.wrapped wrap).run sql = ((w.run sql).1, (w.run sql).2.wrapped wrap) := by
  rw [run_eq_attempt, run_eq_attempt, attempt_wrapped h]
  simp only [wrapped]

theorem reset_wrapped (h : IsWrapping wrap) (w : Workbench σ) :
    (w.wrapped wrap).reset = (w.reset.1, w.reset.2.wrapped wrap) := by
  unfold reset Snapshot.save wrapped
  dsimp only
  rw [h.apply_eq]
  rcases KeyValueStore.apply w.store (Snapshot.batch {} .empty) with ⟨_ | _, _⟩ <;> rfl

/-- **A workbench over a wrapped store acts as one over the store inside.** -/
theorem actsAlike_of_isWrapping (h : IsWrapping wrap) : ActsAlike wrap where
  opens := openStore_wrapped h
  runs := run_wrapped h
  resets := reset_wrapped h

end Workbench

end SmallSql
