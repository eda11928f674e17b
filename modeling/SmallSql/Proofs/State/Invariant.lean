/-
  SmallSql.Proofs.State.Invariant
  ────────────────────────────────
  What is true of the state of the interpreter after any run.  A run executes texts, prepares texts
  and keeps their effects for later, takes on effects that were prepared at any time before, as
  often as it likes, and resets:

      act  ::=  execute sql  |  prepare sql  |  apply n  |  reset

  An effect holds a whole catalog, so one that is taken on late brings back an old catalog.  It was
  well-formed when it was worked out, and nothing of the selection enters into that; therefore the
  invariant speaks of the catalog in the state and of those in the drafts alike.
-/
import SmallSql.Proofs.Catalog.WellFormed

namespace SmallSql

/-! ## §1. Runs. -/

/-- What can be done with an interpreter. -/
inductive Act where
  | execute (sql : String)
  /-- Works out an effect and keeps it. -/
  | prepare (sql : String)
  /-- Takes on the effect that was kept as number `n`, if there are so many. -/
  | apply (n : Nat)
  | reset
deriving DecidableEq, Repr

/-- Whether an act takes effect where it stands. -/
def Act.isDirect : Act → Bool
  | execute _ | reset => true
  | prepare _ | apply _ => false

/-- A state and the effects that were prepared so far, the first one first. -/
structure Desk where
  state : State := .empty
  drafts : List Effect := []
deriving DecidableEq, Repr

namespace Desk

def perform (d : Desk) : Act → Desk
  | .execute sql => { d with state := (d.state.execute sql).2 }
  | .prepare sql => match d.state.prepare sql with
    | .ok e => { d with drafts := d.drafts ++ [e] }
    | .error _ => d
  | .apply n => match d.drafts[n]? with
    | some e => { d with state := d.state.apply e }
    | none => d
  | .reset => { d with state := .empty }

def performAll (d : Desk) (acts : List Act) : Desk := acts.foldl perform d

end Desk

/-! ## §2. What an effect brings. -/

/-- The effect of a text is that of a statement of good form. -/
theorem Effect.yields_of_ofText {sql : String} {c : Catalog} {s : Selection} {e : Effect}
    (h : Effect.ofText sql c s = .ok e) :
    ∃ statement : Statement, statement.Formed ∧ statement.Yields c s e.catalog? e.selection? := by
  rw [Statement.ofText_eq_run] at h
  obtain ⟨statement, hwritten, h⟩ := bind_eq_ok.1 h
  obtain ⟨k, -, hread⟩ := bind_eq_ok.1 hwritten
  exact ⟨statement, Statement.formed_of_ofText hread, Statement.run_yields h⟩

/-- An effect with a well-formed catalog, if it has one. -/
def Effect.WellFormed (e : Effect) : Prop := ∀ c, e.catalog? = some c → c.WellFormed

theorem Effect.wellFormed_of_ofText {sql : String} {c : Catalog} {s : Selection} {e : Effect}
    (hc : c.WellFormed) (h : Effect.ofText sql c s = .ok e) : e.WellFormed := by
  intro c' hc'
  obtain ⟨statement, hform, hy⟩ := yields_of_ofText h
  rw [hc'] at hy
  exact hy.wellFormed hform hc

namespace State

theorem wellFormed_apply {s : State} {e : Effect} (hs : s.catalog.WellFormed) (he : e.WellFormed) :
    (s.apply e).catalog.WellFormed := by
  show (e.catalog?.getD s.catalog).WellFormed
  cases hc : e.catalog? with
  | none => exact hs
  | some c => exact he c hc

/-- The effect of a text keeps every table rectangular, whatever else is true of the catalog. -/
theorem rectangular_apply {s : State} {sql : String} {e : Effect} (h : s.prepare sql = .ok e)
    (hc : s.catalog.Rectangular) : (s.apply e).catalog.Rectangular := by
  obtain ⟨statement, -, hyields⟩ := Effect.yields_of_ofText h
  show (e.catalog?.getD s.catalog).Rectangular
  cases he : e.catalog? with
  | none => exact hc
  | some c =>
      rw [he] at hyields
      exact hyields.rectangular hc

/-- Executing a text is taking on its effect; where there is none, nothing happens. -/
theorem execute_eq (s : State) (sql : String) :
    (∃ e, s.prepare sql = .ok e ∧ s.execute sql = (.ok e.reply, s.apply e))
      ∨ ∃ fault, s.prepare sql = .error fault ∧ s.execute sql = (.error fault, s) := by
  unfold execute
  cases s.prepare sql with
  | ok e => exact .inl ⟨e, rfl, rfl⟩
  | error fault => exact .inr ⟨fault, rfl, rfl⟩

/-- One executed text keeps the selection a stored name. -/
theorem isStoredIn_execute {s : State} (h : s.selection.IsStoredIn s.catalog) (sql : String) :
    (s.execute sql).2.selection.IsStoredIn (s.execute sql).2.catalog := by
  rcases s.execute_eq sql with ⟨e, he, hx⟩ | ⟨fault, -, hx⟩
  · obtain ⟨statement, -, hy⟩ := Effect.yields_of_ofText he
    rw [hx]
    exact hy.isStoredIn h
  · rw [hx]
    exact h

end State

/-! ## §3. One act, and a whole run. -/

namespace Desk

/-- The catalog in the state and those in the drafts are well-formed. -/
structure WellFormed (d : Desk) : Prop where
  state : d.state.catalog.WellFormed
  drafts : ∀ e ∈ d.drafts, e.WellFormed

/-- Step lemma: every act keeps all catalogs well-formed. -/
theorem WellFormed.perform {d : Desk} (h : d.WellFormed) (a : Act) : (d.perform a).WellFormed := by
  cases a with
  | execute sql =>
      refine ⟨?_, h.drafts⟩
      show (d.state.execute sql).2.catalog.WellFormed
      rcases d.state.execute_eq sql with ⟨e, he, hx⟩ | ⟨fault, -, hx⟩
      · rw [hx]
        exact State.wellFormed_apply h.state (Effect.wellFormed_of_ofText h.state he)
      · rw [hx]
        exact h.state
  | prepare sql =>
      unfold Desk.perform
      dsimp only
      split
      · next e he =>
        -- the new draft was worked out on the catalog of now
        refine ⟨h.state, ?_⟩
        intro e' he'
        rcases List.mem_append.1 he' with he' | he'
        · exact h.drafts e' he'
        · rw [List.mem_singleton] at he'
          exact he' ▸ Effect.wellFormed_of_ofText h.state he
      · exact h
  | apply n =>
      unfold Desk.perform
      dsimp only
      split
      · next e he =>
        -- however old the draft is, its catalog was well-formed when it was kept
        exact ⟨State.wellFormed_apply h.state (h.drafts e (List.mem_of_getElem? he)), h.drafts⟩
      · exact h
  | reset => exact ⟨Catalog.wellFormed_empty, h.drafts⟩

/-- Run lemma: every run keeps all catalogs well-formed. -/
theorem WellFormed.performAll {d : Desk} (h : d.WellFormed) (acts : List Act) :
    (d.performAll acts).WellFormed := by
  induction acts generalizing d with
  | nil => exact h
  | cons a rest ih => exact ih (h.perform a)

/-- Step lemma: a direct act keeps the selection a stored name. -/
theorem isStoredIn_perform {d : Desk} (h : d.state.selection.IsStoredIn d.state.catalog) {a : Act}
    (ha : a.isDirect = true) :
    (d.perform a).state.selection.IsStoredIn (d.perform a).state.catalog := by
  cases a with
  | execute sql => exact State.isStoredIn_execute h sql
  | prepare sql | apply n => cases ha
  | reset =>
      intro name hname
      cases hname

/-- Run lemma: a run of direct acts keeps the selection a stored name. -/
theorem isStoredIn_performAll {d : Desk} (h : d.state.selection.IsStoredIn d.state.catalog)
    {acts : List Act} (hacts : ∀ a ∈ acts, a.isDirect = true) :
    (d.performAll acts).state.selection.IsStoredIn (d.performAll acts).state.catalog := by
  induction acts generalizing d with
  | nil => exact h
  | cons a rest ih =>
      refine ih (isStoredIn_perform h (hacts a List.mem_cons_self)) ?_
      intro b hb
      exact hacts b (List.mem_cons_of_mem _ hb)

/-- **The catalog is well-formed after every run from the empty state**, however stale the effects
that it takes on; and where no effect is taken on late, the selection is empty or the stored name of
a database. -/
theorem wellFormed_performAll (acts : List Act) :
    (({} : Desk).performAll acts).state.catalog.WellFormed
      ∧ ((∀ a ∈ acts, a.isDirect = true) →
        (({} : Desk).performAll acts).state.selection.IsStoredIn
          (({} : Desk).performAll acts).state.catalog) := by
  have hempty : ({} : Desk).WellFormed :=
    ⟨Catalog.wellFormed_empty, by intro e he; cases he⟩
  refine ⟨(hempty.performAll acts).state, fun hacts => isStoredIn_performAll ?_ hacts⟩
  intro name hname
  cases hname

/-- A run whose selection is written in other letters than the stored name: it becomes the stored
name. -/
theorem wellFormed_performAll_use :
    (∀ a ∈ [Act.execute "CREATE DATABASE shop;", .execute "USE SHOP;"], a.isDirect = true)
      ∧ (({} : Desk).performAll [.execute "CREATE DATABASE shop;", .execute "USE SHOP;"]
        ).state.selection = .of "shop"
      ∧ (({} : Desk).performAll [.execute "CREATE DATABASE shop;", .execute "USE SHOP;"]
        ).state.selection.IsStoredIn
          (({} : Desk).performAll [.execute "CREATE DATABASE shop;", .execute "USE SHOP;"]
            ).state.catalog := by
  have hacts : ∀ a ∈ [Act.execute "CREATE DATABASE shop;", .execute "USE SHOP;"],
      a.isDirect = true := by decide
  exact ⟨hacts, by decide +kernel, (wellFormed_performAll _).2 hacts⟩

end Desk

end SmallSql
