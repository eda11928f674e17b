/-
  SmallSql.Proofs.Workbench.Replay
  ────────────────────────────────
  The log of a workbench is a faithful replay log.  It has one entry for each text that was run; and
  executing the logged texts that succeeded, in their order, from the state the workbench was opened
  with leads to the state it has now, every one succeeding with the logged message:

      opened  ──  run …  run …  run …  ──▶  last        the store may refuse any save
      opened  ──  execute …  execute …  ──▶  last       the texts logged as successes

  `Replays` is the invariant: a run that fails leaves both the state and what is replayed, a run
  that succeeds adds one execution to both.
-/
import SmallSql.Proofs.Workbench.Step

namespace SmallSql

/-! ## §1. Replaying a log. -/

/-- More texts are executed in the state that the texts before them leave. -/
theorem State.executeAll_append (s : State) (sqls more : List String) :
    s.executeAll (sqls ++ more)
      = ((s.executeAll sqls).1 ++ ((s.executeAll sqls).2.executeAll more).1,
        ((s.executeAll sqls).2.executeAll more).2) := by
  induction sqls generalizing s with
  | nil => rfl
  | cons sql rest ih =>
      rw [List.cons_append, executeAll, executeAll, ih]
      rfl

/-- The entries of the statements that succeeded. -/
def successes (log : List LogEntry) : List LogEntry := log.filter (·.outcome.isSuccess)

/-- Executing the logged statements that succeeded, in their order, from one state leads to the
other; each succeeds with the logged message. -/
def Replays (log : List LogEntry) (start last : State) : Prop :=
  ∃ replies : List Reply,
    start.executeAll ((successes log).map (·.statement)) = (replies.map .ok, last)
      ∧ (successes log).map (·.outcome) = replies.map fun reply => .success reply.message

namespace Replays

variable {log : List LogEntry} {start last : State}

/-- Nothing is replayed of an empty log. -/
theorem nil (s : State) : Replays [] s s := ⟨[], rfl, rfl⟩

/-- Statements that failed are not replayed. -/
theorem append_failure (h : Replays log start last) (statement : String) (e : SqlError) :
    Replays (log ++ [{ statement, outcome := .ofResult (.error e) }]) start last := by
  have hsuccesses : successes (log ++ [{ statement, outcome := .ofResult (.error e) }])
      = successes log := by
    unfold successes
    rw [List.filter_append]
    exact List.append_nil _
  unfold Replays
  rwa [hsuccesses]

/-- A statement that succeeded is replayed behind the others. -/
theorem append_success (h : Replays log start last) {statement : String} {reply : Reply}
    {next : State} (hexecute : last.execute statement = (.ok reply, next)) :
    Replays (log ++ [{ statement, outcome := .ofResult (.ok reply) }]) start next := by
  obtain ⟨replies, hrun, houtcomes⟩ := h
  have hsuccesses : successes (log ++ [{ statement, outcome := .ofResult (.ok reply) }])
      = successes log ++ [{ statement, outcome := .success reply.message }] := by
    unfold successes
    rw [List.filter_append]
    rfl
  refine ⟨replies ++ [reply], ?_, ?_⟩
  · rw [hsuccesses, List.map_append, State.executeAll_append, hrun]
    dsimp only [List.map, State.executeAll]
    rw [hexecute, List.map_append]
    rfl
  · rw [hsuccesses, List.map_append, houtcomes, List.map_append]
    rfl

end Replays

namespace Workbench

variable {σ : Type} [KeyValueStore σ] {w after : Workbench σ} {start : State}

/-! ## §2. One run and many. -/

/-- **One run** keeps the log a replay of the state. -/
theorem Ran.replays {sql : String} {result : Except SqlError Reply}
    (hran : w.Ran sql (result, after)) (h : Replays w.log start w.state) :
    Replays after.log start after.state := by
  rw [hran.log]
  cases result with
  | error e =>
      rw [hran.state_of_error]
      exact h.append_failure _ e
  | ok reply => exact h.append_success hran.execute_of_ok

/-- Runs texts one after the other.  Before each, anything may happen to the store. -/
def runEach (w : Workbench σ) :
    List ((σ → σ) × String) → List (Except SqlError Reply) × Workbench σ
  | [] => ([], w)
  | (change, sql) :: rest =>
    let first := ({ w with store := change w.store } : Workbench σ).run sql
    let others := first.2.runEach rest
    (first.1 :: others.1, others.2)

/-- What is logged of a call: the trimmed text, and the outcome that the caller was told. -/
def entryOf (call : (σ → σ) × String) (result : Except SqlError Reply) : LogEntry where
  statement := trimmed call.2
  outcome := .ofResult result

/-- **All runs** keep the log a replay of the state; it grows by one entry for each. -/
theorem replays_runEach (h : Replays w.log start w.state) (calls : List ((σ → σ) × String)) :
    (w.runEach calls).1.length = calls.length
      ∧ (w.runEach calls).2.log = w.log ++ List.zipWith entryOf calls (w.runEach calls).1
      ∧ Replays (w.runEach calls).2.log start (w.runEach calls).2.state := by
  -- by induction on the calls; each begins with the log and the state that the last one left
  induction calls generalizing w with
  | nil => exact ⟨rfl, (List.append_nil _).symm, h⟩
  | cons call rest ih =>
      obtain ⟨change, sql⟩ := call
      have hran := ({ w with store := change w.store } : Workbench σ).ran_run sql
      rw [runEach]
      generalize ({ w with store := change w.store } : Workbench σ).run sql = ran at hran ⊢
      obtain ⟨result, after⟩ := ran
      obtain ⟨hlength, hlog, hreplays⟩ := ih (hran.replays h)
      refine ⟨congrArg (· + 1) hlength, ?_, hreplays⟩
      rw [hlog, hran.log, List.append_assoc]
      rfl

/-! ## §3. From the opening on. -/

/-- **The log is a faithful replay log.**  Whatever texts are run on an opened workbench, and
whichever saves its store refuses, the log has one entry for each, in their order; and executing the
logged texts that succeeded from the state the workbench was opened with makes every one succeed
with the logged message and ends in the state of the workbench. -/
theorem log_replays {store : σ} (h : openStore store = .ok w)
    (calls : List ((σ → σ) × String)) :
    (w.runEach calls).1.length = calls.length
      ∧ (w.runEach calls).2.log = List.zipWith entryOf calls (w.runEach calls).1
      ∧ Replays (w.runEach calls).2.log w.state (w.runEach calls).2.state := by
  have hlog : w.log = [] := by
    obtain ⟨⟨c, s⟩, -, h⟩ := bind_eq_ok.1 h
    cases h
    rfl
  have hstart : Replays w.log w.state w.state := hlog ▸ Replays.nil w.state
  have hruns := replays_runEach hstart calls
  rwa [hlog, List.nil_append] at hruns

/-- A workbench on an empty store in memory. -/
def emptyBench : Workbench (Guarded MemoryStore) := { state := .empty, store := ⟨{}, none⟩ }

/-- A save is refused between two that are not, and a text that cannot be carried out is run. -/
def interrupted : List ((Guarded MemoryStore → Guarded MemoryStore) × String) :=
  [(id, "  CREATE DATABASE shop; "),
    (fun g => { g with refusal := some (.storage "full") }, "USE shop;"),
    (id, "SHOW DATABASES;"),
    (fun g => { g with refusal := none }, "USE Shop;"),
    (id, "SELECT * FROM t;")]

theorem log_replays_interrupted :
    openStore emptyBench.store = .ok emptyBench
      ∧ (emptyBench.runEach interrupted).2.log
        = [⟨"CREATE DATABASE shop;", .success "Database 'shop' created successfully"⟩,
          ⟨"USE shop;", .failure .storage "Storage error: full"⟩,
          ⟨"SHOW DATABASES;", .success "Databases:\nshop"⟩,
          ⟨"USE Shop;", .success "Using database 'shop'"⟩,
          ⟨"SELECT * FROM t;", .failure .tableNotFound "Table 't' not found in database 'shop'"⟩]
      ∧ Replays (emptyBench.runEach interrupted).2.log emptyBench.state
        (emptyBench.runEach interrupted).2.state := by
  have hopen : openStore emptyBench.store = .ok emptyBench := rfl
  exact ⟨hopen, by decide +kernel, (log_replays hopen interrupted).2.2⟩

end Workbench

end SmallSql
