/-
  SmallSql.Proofs.Workbench.Session
  ────────────────────────────────
  A workbench and its store never part.  A session is a list of calls, with what happens around the
  store before each, and of reopenings:

      act  ::=  event; run sql  |  event; reset  |  reopen

  After every session what the store holds is the state (`Sound.loads`).  A step lemma for the one
  way in which anything is saved (`Sound.replace`) gives one for each call, and induction one for
  every session.  Opening a workbench again gives the same workbench with an empty log, and no
  answer looks at the log; so reopenings change no answer.

  The stores are wrapped, so that in any call the writes can be refused or break down.  In a call
  where neither happens they are the stores inside (`ActsAlike`).
-/
import SmallSql.Proofs.Catalog.WellFormed
import SmallSql.Proofs.Snapshot
import SmallSql.Proofs.State.Invariant
import SmallSql.Proofs.Workbench.Exposed
import SmallSql.Proofs.Workbench.Step
import SmallSql.Proofs.Workbench.Wrapped

namespace SmallSql

/-! ## §1. Sessions. -/

/-- What a caller asks of a workbench. -/
inductive Call where
  | run (sql : String)
  | reset
deriving DecidableEq, Repr

/-- The answer to a call: an error, or the reply to a text, or nothing for a reset. -/
abbrev CallResult := Except SqlError (Option Reply)

/-- A part of a session. -/
inductive SessionAct (σ : Type) [Exposed σ] where
  /-- Something happens around the store, and then the call is made. -/
  | call (before : Event σ) (c : Call)
  /-- The workbench is dropped, and another one is opened on the same store. -/
  | reopen

namespace SessionAct

variable {σ : Type} [Exposed σ]

def isCall : SessionAct σ → Bool
  | call .. => true
  | reopen => false

/-- Nothing that happens touches what the store keeps. -/
def IsHarmless (store : σ) : SessionAct σ → Prop
  | call before _ => Harmless store before
  | reopen => True

end SessionAct

namespace Workbench

variable {σ : Type} [Exposed σ]

/-- Makes a call. -/
def call (w : Workbench σ) : Call → CallResult × Workbench σ
  | .run sql => ((w.run sql).1.map some, (w.run sql).2)
  | .reset => (w.reset.1.map fun _ => none, w.reset.2)

/-- The workbench after something happened around its store. -/
def exposed (w : Workbench σ) (e : Event σ) : Workbench σ := { w with store := expose w.store e }

/-- Drops the workbench and opens another one on the same store. -/
def reopened (w : Workbench σ) : Except SqlError (Workbench σ) := do openStore (← reopen w.store)

/-- The results of the calls of a session and the workbench after it; an error only if the store
cannot be opened again. -/
def session (w : Workbench σ) :
    List (SessionAct σ) → Except SqlError (List CallResult × Workbench σ)
  | [] => .ok ([], w)
  | .call before c :: rest => do
    let (results, last) ← ((w.exposed before).call c).2.session rest
    return (((w.exposed before).call c).1 :: results, last)
  | .reopen :: rest => do (← w.reopened).session rest

/-- The store holds exactly the state; and a call that ends in an error leaves both as they were,
the state and what the store keeps. -/
structure InStep (w : Workbench σ) : Prop where
  loads : Snapshot.load w.store = .ok (w.state.catalog, w.state.selection)
  failed : ∀ (e : Event σ) (c : Call) (fault : SqlError), Harmless w.store e →
    ((w.exposed e).call c).1 = .error fault →
      ((w.exposed e).call c).2.state = w.state
        ∧ kept ((w.exposed e).call c).2.store = kept w.store

/-- Every session can be had; after it, store and state are in step, and without its reopenings it
has the same results and leads to the same state. -/
def StaysInStep (w : Workbench σ) (acts : List (SessionAct σ)) : Prop :=
  ∃ results last last', w.session acts = .ok (results, last) ∧ last.InStep
    ∧ w.session (acts.filter (·.isCall)) = .ok (results, last') ∧ last'.state = last.state

/-! ## §2. What is true of every workbench. -/

/-- A workbench that was opened and used. -/
structure Sound (w : Workbench σ) : Prop where
  current : reopen w.store = .ok w.store
  loads : Snapshot.load w.store = .ok (w.state.catalog, w.state.selection)

variable {w : Workbench σ}

/-- What the state has, because it is what the store holds. -/
theorem Sound.valid (hw : w.Sound) :
    w.state.catalog.Rectangular ∧ w.state.selection.isValidFor w.state.catalog = true :=
  Snapshot.valid_of_load hw.loads

/-- A workbench is opened with what its store holds. -/
theorem openStore_of_load {store : σ} {c : Catalog} {s : Selection}
    (h : Snapshot.load store = .ok (c, s)) :
    openStore store = .ok { state := ⟨c, s⟩, store } := by
  have hvalid := (Snapshot.valid_of_load h).2
  unfold openStore State.restore
  rw [h, ok_bind]
  dsimp only
  rw [if_pos hvalid]
  rfl

theorem load_of_openStore {store : σ} (h : openStore store = .ok w) :
    w.store = store
      ∧ Snapshot.load store = .ok (w.state.catalog, w.state.selection) := by
  obtain ⟨⟨c, s⟩, hload, -⟩ := bind_eq_ok.1 h
  rw [openStore_of_load hload] at h
  cases h
  exact ⟨rfl, hload⟩

/-- A sound workbench is opened again as it was, with an empty log. -/
theorem Sound.reopened (hw : w.Sound) : w.reopened = .ok { w with log := [] } := by
  unfold Workbench.reopened
  rw [hw.current, ok_bind, openStore_of_load hw.loads]

/-! ## §3. Calls by what they save. -/

/-- Saves a state and then takes it on; `a` is the result if that succeeds. -/
def replace {α : Type} (w : Workbench σ) (next : State) (a : α) : Except SqlError α × Workbench σ :=
  match Snapshot.save w.store next.catalog next.selection with
  | (.ok (), store) => (.ok a, { w with state := next, store })
  | (.error fault, store) => (.error fault, { w with store })

theorem commit_eq (w : Workbench σ) (e : Effect) :
    w.commit e = if e.isMutation then w.replace (w.state.apply e) e.reply
      else (.ok e.reply, { w with state := w.state.apply e }) := rfl

theorem reset_eq (w : Workbench σ) : w.reset = w.replace .empty () := rfl

/-- Running a text is attempting what stands between its white space, and logging it. -/
theorem run_eq (w : Workbench σ) (sql : String) :
    ∃ log, w.run sql = ((w.attempt (String.ofList (Text.trim sql.toList))).1,
      { (w.attempt (String.ofList (Text.trim sql.toList))).2 with log }) := by
  have hrun := w.run_eq_attempt sql
  unfold trimmed at hrun
  exact ⟨_, hrun⟩

/-- An effect that replaces nothing leaves the state. -/
theorem apply_of_not_mutation {s : State} {e : Effect} (h : e.isMutation = false) :
    s.apply e = s := by
  unfold Effect.isMutation at h
  rw [Bool.or_eq_false_iff] at h
  obtain ⟨hc, hs⟩ := h
  have hcatalog : e.catalog? = none := by simpa using hc
  have hselection : e.selection? = none := by simpa using hs
  unfold State.apply
  rw [hcatalog, hselection]
  rfl

/-- The catalog after an effect is rectangular again, and its selection names one of its
databases. -/
theorem valid_apply {s : State} {sql : String} {e : Effect} (h : s.prepare sql = .ok e)
    (hc : s.catalog.Rectangular) (hs : s.selection.isValidFor s.catalog = true) :
    (s.apply e).catalog.Rectangular
      ∧ (s.apply e).selection.isValidFor (s.apply e).catalog = true := by
  obtain ⟨statement, -, hyields⟩ := Effect.yields_of_ofText h
  exact ⟨State.rectangular_apply h hc, hyields.isValidFor hs⟩

/-! ## §4. The log. -/

theorem replace_log {α : Type} (w : Workbench σ) (log : List LogEntry) (next : State) (a : α) :
    ({ w with log } : Workbench σ).replace next a
      = ((w.replace next a).1, { (w.replace next a).2 with log }) := by
  unfold Workbench.replace
  cases Snapshot.save w.store next.catalog next.selection with
  | mk result store => cases result <;> rfl

/-- With another log, a call has the same result and leads to the same state and store. -/
theorem call_log (w : Workbench σ) (log : List LogEntry) (c : Call) :
    ∃ log', ({ w with log } : Workbench σ).call c
      = ((w.call c).1, { (w.call c).2 with log := log' }) := by
  cases c with
  | run sql =>
      have hattempt : ∀ statement, ({ w with log } : Workbench σ).attempt statement
          = ((w.attempt statement).1, { (w.attempt statement).2 with log }) := by
        intro statement
        unfold Workbench.attempt
        dsimp only
        cases w.state.prepare statement with
        | error fault => rfl
        | ok e =>
            dsimp only
            rw [commit_eq, commit_eq]
            by_cases hm : e.isMutation = true
            · rw [if_pos hm, if_pos hm]
              exact replace_log w log _ _
            · rw [if_neg hm, if_neg hm]
      obtain ⟨log₁, h₁⟩ := run_eq ({ w with log } : Workbench σ) sql
      obtain ⟨log₂, h₂⟩ := w.run_eq sql
      refine ⟨log₁, ?_⟩
      unfold Workbench.call
      dsimp only
      rw [h₁, h₂, hattempt]
  | reset =>
      refine ⟨log, ?_⟩
      show ((({ w with log } : Workbench σ).reset).1.map _,
          (({ w with log } : Workbench σ).reset).2)
        = (w.reset.1.map _, { w.reset.2 with log })
      rw [reset_eq, reset_eq, replace_log]

/-- With another log, a session has the same results and leads to the same state and store. -/
theorem session_log {w last : Workbench σ} (log : List LogEntry) {acts : List (SessionAct σ)}
    (hacts : ∀ act ∈ acts, act.isCall = true) {results : List CallResult}
    (h : w.session acts = .ok (results, last)) :
    ∃ log', ({ w with log } : Workbench σ).session acts
      = .ok (results, { last with log := log' }) := by
  induction acts generalizing w log results last with
  | nil =>
      cases h
      exact ⟨log, rfl⟩
  | cons act rest ih =>
      cases act with
      | reopen => cases hacts _ List.mem_cons_self
      | call before c =>
          obtain ⟨⟨results', last'⟩, hrest, h⟩ := bind_eq_ok.1 h
          cases h
          obtain ⟨log', hcall⟩ := call_log (w.exposed before) log c
          obtain ⟨log'', hsession⟩ :=
            ih log' (fun act hact => hacts act (List.mem_cons_of_mem _ hact)) hrest
          refine ⟨log'', ?_⟩
          unfold session
          change (do
            let (results, last) ←
              ((({ w.exposed before with log } : Workbench σ).call c).2.session rest)
            return ((({ w.exposed before with log } : Workbench σ).call c).1 :: results, last)) = _
          rw [hcall, hsession]
          rfl

/-! ## §5. Stores that keep what they are given. -/

/-- What a call leads to: a sound workbench whose store is touched by the same events, and the same
state and store if the call fails. -/
structure LeadsTo {α : Type} (w : Workbench σ) (result : Except SqlError α) (w' : Workbench σ) :
    Prop where
  sound : w'.Sound
  harmless : ∀ e, Harmless w'.store e ↔ Harmless w.store e
  failed : ∀ fault, result = .error fault → w'.state = w.state ∧ kept w'.store = kept w.store

theorem Sound.leadsTo_self {α : Type} (hw : w.Sound) (result : Except SqlError α) :
    w.LeadsTo result w where
  sound := hw
  harmless := fun _ => Iff.rfl
  failed := fun _ _ => ⟨rfl, rfl⟩

/-- The log is nothing that a store or a state depends on. -/
theorem LeadsTo.log {α : Type} {w' : Workbench σ} {result : Except SqlError α}
    (h : w.LeadsTo result w') (log : List LogEntry) : w.LeadsTo result { w' with log } where
  sound := ⟨h.sound.current, h.sound.loads⟩
  harmless := h.harmless
  failed := h.failed

/-- Another shape of the result leaves everything else. -/
theorem LeadsTo.map {α β : Type} {w' : Workbench σ} {result : Except SqlError α}
    (h : w.LeadsTo result w') (f : α → β) : w.LeadsTo (result.map f) w' where
  sound := h.sound
  harmless := h.harmless
  failed := by
    intro fault hfault
    cases result with
    | error e => exact h.failed e rfl
    | ok a => cases hfault

variable [Exposed.Lawful σ]

open Exposed.Lawful

/-- What is loaded is what is kept. -/
theorem load_of_kept {store store' : σ} (h : kept store' = kept store) :
    Snapshot.load store' = Snapshot.load store := by
  apply Snapshot.load_congr
  intro key
  rw [get?_eq, get?_eq, h]

theorem Sound.exposed (hw : w.Sound) {e : Event σ} (he : Harmless w.store e) :
    (w.exposed e).Sound where
  current := reopen_expose hw.current he
  loads := by
    show Snapshot.load (expose w.store e) = _
    rw [load_of_kept (kept_expose he)]
    exact hw.loads

/-- Step lemma: a state is saved and taken on, or neither. -/
theorem Sound.replace {α : Type} (hw : w.Sound) {next : State} (hc : next.catalog.Rectangular)
    (hs : next.selection.isValidFor next.catalog = true) (a : α) :
    w.LeadsTo (w.replace next a).1 (w.replace next a).2 := by
  have hcurrent := reopen_apply (Snapshot.batch next.catalog next.selection) hw.current
  have hharmless : ∀ e, Harmless
      (KeyValueStore.apply w.store (Snapshot.batch next.catalog next.selection)).2 e
        ↔ Harmless w.store e := fun e => harmless_apply
  unfold Workbench.replace Snapshot.save
  -- the store takes the batch as a whole, or is as it was
  cases hsave : KeyValueStore.apply w.store (Snapshot.batch next.catalog next.selection) with
  | mk result store =>
      have hresult := congrArg Prod.fst hsave
      have hstore := congrArg Prod.snd hsave
      dsimp only at hresult hstore
      rw [hstore] at hcurrent hharmless
      cases result with
      | ok _ =>
          have hget := apply_ok hresult
          rw [hstore] at hget
          refine ⟨⟨hcurrent, ?_⟩, hharmless, fun fault h => by cases h⟩
          refine Snapshot.load_of_saved (e := (kept w.store).1) (fun key => ?_) hc hs
          rw [get?_eq]
          exact hget key
      | error fault =>
          have hkept := apply_error hresult
          rw [hstore] at hkept
          refine ⟨⟨hcurrent, ?_⟩, hharmless, fun _ _ => ⟨rfl, hkept⟩⟩
          show Snapshot.load store = _
          rw [load_of_kept hkept]
          exact hw.loads

/-- A text is carried out, saved first if it changes anything. -/
theorem Sound.attempt (hw : w.Sound) (statement : String) :
    w.LeadsTo (w.attempt statement).1 (w.attempt statement).2 := by
  unfold Workbench.attempt
  cases hprepare : w.state.prepare statement with
  | error fault => exact hw.leadsTo_self _
  | ok e =>
      dsimp only
      rw [commit_eq]
      by_cases hm : e.isMutation = true
      · obtain ⟨hc, hs⟩ := valid_apply hprepare hw.valid.1 hw.valid.2
        rw [if_pos hm]
        exact hw.replace hc hs e.reply
      · rw [if_neg hm, apply_of_not_mutation (Bool.not_eq_true _ ▸ hm)]
        exact hw.leadsTo_self _

/-- Step lemma: every call keeps a workbench sound, and one that fails changes nothing. -/
theorem Sound.call (hw : w.Sound) (c : Call) : w.LeadsTo (w.call c).1 (w.call c).2 := by
  cases c with
  | run sql =>
      obtain ⟨log, hrun⟩ := w.run_eq sql
      have hattempt := hw.attempt (String.ofList (Text.trim sql.toList))
      unfold Workbench.call
      dsimp only
      rw [hrun]
      dsimp only
      exact (hattempt.log log).map some
  | reset =>
      show w.LeadsTo (w.reset.1.map fun _ => (none : Option Reply)) w.reset.2
      rw [reset_eq]
      have hempty : State.empty.catalog.Rectangular := by
        intro db hdb
        cases hdb
      exact (hw.replace hempty rfl ()).map _

/-- A sound workbench is in step with its store. -/
theorem Sound.inStep (hw : w.Sound) : w.InStep where
  loads := hw.loads
  failed := by
    intro e c fault he hfault
    obtain ⟨hstate, hkept⟩ := ((hw.exposed he).call c).failed fault hfault
    exact ⟨hstate, hkept.trans (kept_expose he)⟩

/-! ## §6. Runs. -/

/-- Run lemma: every session of a sound workbench can be had, keeps it sound, and has the same
results without its reopenings. -/
theorem Sound.session (hw : w.Sound) {acts : List (SessionAct σ)}
    (hacts : ∀ act ∈ acts, act.IsHarmless w.store) :
    ∃ results last log, w.session acts = .ok (results, last) ∧ last.Sound
      ∧ w.session (acts.filter (·.isCall)) = .ok (results, { last with log }) := by
  -- by induction on the acts; the workbench after each is sound again
  induction acts generalizing w with
  | nil => exact ⟨[], w, w.log, rfl, hw, rfl⟩
  | cons act rest ih =>
      have hrest : ∀ act ∈ rest, act.IsHarmless w.store :=
        fun act hact => hacts act (List.mem_cons_of_mem _ hact)
      cases act with
      | call before c =>
          have hbefore : Harmless w.store before := hacts _ List.mem_cons_self
          have hcall := (hw.exposed hbefore).call c
          have hafter : ∀ act ∈ rest, act.IsHarmless ((w.exposed before).call c).2.store := by
            intro act hact
            have hact := hrest act hact
            cases act with
            | reopen => trivial
            | call e c' => exact (hcall.harmless e).2 (harmless_expose.2 hact)
          obtain ⟨results, last, log, hsession, hsound, hfiltered⟩ := ih hcall.sound hafter
          refine ⟨((w.exposed before).call c).1 :: results, last, log, ?_, hsound, ?_⟩
          · unfold Workbench.session
            rw [hsession]
            rfl
          · show (do
              let (results, last) ←
                ((w.exposed before).call c).2.session (rest.filter (·.isCall))
              return (((w.exposed before).call c).1 :: results, last)) = _
            rw [hfiltered]
            rfl
      | reopen =>
          have hsound : ({ w with log := [] } : Workbench σ).Sound := ⟨hw.current, hw.loads⟩
          obtain ⟨results, last, log, hsession, hsound, hfiltered⟩ := ih hsound hrest
          -- without the reopening, the calls go on with the log of before
          obtain ⟨log', hcalls⟩ := session_log (w := { w with log := [] }) w.log
            (fun act hact => (List.mem_filter.1 hact).2) hfiltered
          refine ⟨results, last, log', ?_, hsound, hcalls⟩
          unfold Workbench.session
          rw [hw.reopened]
          exact hsession

/-- Every session of a workbench that was opened on a current store stays in step. -/
theorem staysInStep_of_openStore {store : σ} (hstore : reopen store = .ok store)
    (h : openStore store = .ok w) {acts : List (SessionAct σ)}
    (hacts : ∀ act ∈ acts, act.IsHarmless w.store) : w.StaysInStep acts := by
  obtain ⟨hw, hload⟩ := load_of_openStore h
  have hsound : w.Sound := ⟨hw ▸ hstore, hw ▸ hload⟩
  obtain ⟨results, last, log, hsession, hlast, hfiltered⟩ := hsound.session hacts
  exact ⟨results, last, _, hsession, hlast.inStep, hfiltered, rfl⟩

/-- As long as no write is refused, a guarded store is the store inside. -/
theorem isWrapping_guarded {σ : Type} [KeyValueStore σ] :
    IsWrapping (fun store : σ => (⟨store, none⟩ : Guarded σ)) where
  get?_eq _ _ := rfl
  apply_eq _ _ := rfl

/-- As long as nothing breaks down, a frail store is the file store inside. -/
theorem isWrapping_frail : IsWrapping (fun store : FileStore => (⟨store, none⟩ : FrailStore)) where
  get?_eq _ _ := rfl
  apply_eq store batch := by
    show ((store.applyUnder none batch).1, (⟨(store.applyUnder none batch).2, none⟩ : FrailStore))
      = ((store.apply batch).1, ⟨(store.apply batch).2, none⟩)
    rw [FileStore.applyUnder_none]

/-- **Memory and store never part**, for a store in memory whose writes are refused at any times and
for a store in a file that nobody else touches and whose writes break down at any times in any step:
after every session the store holds exactly the state, a call that fails has changed neither, and
reopening the store changes no result.  As long as nothing is refused and nothing breaks down, these
are the two stores themselves. -/
theorem staysInStep :
    ActsAlike (fun store : MemoryStore => (⟨store, none⟩ : Guarded MemoryStore))
    ∧ ActsAlike (fun store : FileStore => (⟨store, none⟩ : FrailStore))
    ∧ (∀ (store : MemoryStore) (w : Workbench (Guarded MemoryStore)),
      openStore (⟨store, none⟩ : Guarded MemoryStore) = .ok w →
      ∀ acts : List (SessionAct (Guarded MemoryStore)), w.StaysInStep acts)
    ∧ ∀ (folder : Path) (shown : String) (files : Files) (store : FileStore)
        (w : Workbench FrailStore),
      FileStore.openAt folder shown files = .ok store →
      openStore (⟨store, none⟩ : FrailStore) = .ok w →
      ∀ acts : List (SessionAct FrailStore),
        (∀ act ∈ acts, act.IsHarmless (⟨store, none⟩ : FrailStore)) → w.StaysInStep acts := by
  refine ⟨actsAlike_of_isWrapping isWrapping_guarded, actsAlike_of_isWrapping isWrapping_frail,
    ?_, ?_⟩
  · intro store w h acts
    refine staysInStep_of_openStore rfl h fun act _ => ?_
    cases act with
    | reopen => trivial
    | call before c => trivial
  · intro folder shown files store w hstore h acts hacts
    have hcurrent : reopen (⟨store, none⟩ : FrailStore) = .ok ⟨store, none⟩ :=
      FrailStore.reopen_iff.2 (FileStore.isCurrent_of_openAt hstore)
    obtain ⟨hw, -⟩ := load_of_openStore h
    exact staysInStep_of_openStore hcurrent h (hw ▸ hacts)

/-- A session on a store in memory and one on a new store in a file: a refused write and a write
that breaks down when the file is to be renamed, a reopening, and a reset. -/
theorem staysInStep_shop :
    (openStore (⟨{}, none⟩ : Guarded MemoryStore) = .ok { state := .empty, store := ⟨{}, none⟩ }
      ∧ ({ state := .empty, store := ⟨{}, none⟩ } : Workbench (Guarded MemoryStore)).StaysInStep
        [.call none (.run "CREATE DATABASE shop;"), .reopen,
          .call (some (.storage "full")) (.run "USE shop;"), .call none .reset])
    ∧ FileStore.openAt [] "store.json" {} = .ok ⟨[], "store.json", .empty, {}⟩
      ∧ openStore (⟨⟨[], "store.json", .empty, {}⟩, none⟩ : FrailStore)
        = .ok { state := .empty, store := ⟨⟨[], "store.json", .empty, {}⟩, none⟩ }
      ∧ ({ state := .empty, store := ⟨⟨[], "store.json", .empty, {}⟩, none⟩ }
          : Workbench FrailStore).StaysInStep
        [.call (⟨id, none⟩ : Surroundings) (.run "CREATE DATABASE shop;"), .reopen,
          .call (⟨id, some ⟨.rename, .storage "full", some (.text "lost")⟩⟩ : Surroundings)
            (.run "USE shop;"), .call (⟨id, none⟩ : Surroundings) .reset] := by
  obtain ⟨-, -, hmemory, hfile⟩ := staysInStep
  refine ⟨⟨rfl, hmemory {} _ rfl _⟩, rfl, rfl,
    hfile [] "store.json" {} ⟨[], "store.json", .empty, {}⟩ _ rfl rfl _ ?_⟩
  intro act hact
  simp only [List.mem_cons, List.not_mem_nil, or_false] at hact
  rcases hact with rfl | rfl | rfl | rfl
  · exact fun fs => .refl _ fs
  · trivial
  · exact fun fs => .refl _ fs
  · exact fun fs => .refl _ fs

end Workbench

end SmallSql
