/-
  SmallSql.Proofs.Storage.Interruption
  ────────────────────────────────
  Batches are applied as a whole or not at all.  A batch that changes something is applied in five
  parts,

      create ──▶ fill ──▶ sync ──▶ rename ──▶ take on

  of which the first four are the steps of writing and the last is in memory.  Any step may fail,
  and then the batch is refused; and between any two parts the process may stop, and then the store
  is opened again from its file.  Both leave anything at the spare path.  The parts one after the
  other are the application itself, and every attempt is a beginning of them (`GoesThroughParts`).
  After any such past a store has exactly the batches that returned well, and of each that was cut
  short all or nothing.
-/
import Mathlib.Data.List.Basic
import SmallSql.Proofs.Storage.FileStore

namespace SmallSql.FileStore

open Files (SameAt)

/-! ## §1. The parts of applying a batch. -/

/-- A part of applying a batch. -/
inductive Part where
  /-- A step of writing. -/
  | write (step : Step)
  /-- The entries take on the batch. -/
  | takeOn
deriving DecidableEq

/-- The step of writing that a part is, if it is one. -/
def Part.step? : Part → Option Step
  | write step => some step
  | takeOn => none

/-- The parts in their order. -/
def parts : List Part := steps.map .write ++ [.takeOn]

/-- Performs one part of applying a batch after which the entries are `next`. -/
def performPart (s : FileStore) (next : Entries) : Part → Except SqlError FileStore
  | .write step => do return { s with files := ← s.perform next.render s.files step }
  | .takeOn => .ok { s with entries := next }

/-- Performs parts up to the first that fails. -/
def performParts (s : FileStore) (next : Entries) : List Part → Except SqlError Unit × FileStore
  | [] => (.ok (), s)
  | part :: rest => match s.performPart next part with
    | .error e => (.error e, s)
    | .ok s' => s'.performParts next rest

theorem performParts_cons_write (s : FileStore) (next : Entries) (step : Step) (rest : List Part) :
    s.performParts next (.write step :: rest) = match s.perform next.render s.files step with
      | .error e => (.error e, s)
      | .ok files => performParts { s with files } next rest := by
  rw [performParts, performPart]
  cases s.perform next.render s.files step <;> rfl

/-- The steps of writing depend on the two paths only. -/
theorem performAll_with (s : FileStore) (entries : Entries) (files : Files) {text : String}
    {fs : Files} (l : List Step) :
    ({ s with entries, files } : FileStore).performAll text fs l = s.performAll text fs l := by
  induction l generalizing fs with
  | nil => rfl
  | cons step rest ih =>
      rw [performAll, performAll]
      change (match s.perform text fs step with | .error e => _ | .ok fs' => _) = _
      cases s.perform text fs step with
      | error e => rfl
      | ok mid => exact ih

/-- Writing in parts: the files are those after the steps, and the entries stay. -/
theorem performParts_writes (s : FileStore) (next : Entries) (l : List Step) :
    s.performParts next (l.map Part.write)
      = ((s.performAll next.render s.files l).1,
        { s with files := (s.performAll next.render s.files l).2 }) := by
  induction l generalizing s with
  | nil => rfl
  | cons step rest ih =>
      rw [List.map_cons, performParts_cons_write, performAll]
      cases s.perform next.render s.files step with
      | error e => rfl
      | ok files =>
          dsimp only
          rw [ih, performAll_with s s.entries files]

/-- Parts after parts, unless one of the first fails. -/
theorem performParts_append (s : FileStore) (next : Entries) (l l' : List Part) :
    s.performParts next (l ++ l') = match s.performParts next l with
      | (.error e, s') => (.error e, s')
      | (.ok (), s') => s'.performParts next l' := by
  induction l generalizing s with
  | nil => rfl
  | cons part rest ih =>
      rw [List.cons_append, performParts, performParts]
      cases s.performPart next part with
      | error e => rfl
      | ok s' => exact ih s'

/-- **A batch is applied by its parts**, if it changes something. -/
theorem apply_eq_performParts (s : FileStore) (batch : Batch) :
    s.apply batch = if (s.entries.applyBatch batch).2
      then s.performParts (s.entries.applyBatch batch).1 parts else (.ok (), s) := by
  rw [parts, performParts_append, performParts_writes]
  unfold apply
  cases s.entries.applyBatch batch with
  | mk next changed =>
      dsimp only
      -- with all steps done the entries are taken on, and else they are not
      rcases s.performAll next.render s.files steps with ⟨_ | ⟨⟩, files⟩ <;> rfl

/-- The files after some parts are those after the steps of writing among them. -/
theorem files_performParts (s : FileStore) (next : Entries) (l : List Part) :
    (s.performParts next l).2.files
      = (s.performAll next.render s.files (l.filterMap Part.step?)).2 := by
  induction l generalizing s with
  | nil => rfl
  | cons part rest ih =>
      cases part with
      | takeOn =>
          show (performParts { s with entries := next } next rest).2.files = _
          rw [ih, performAll_with s next s.files]
          rfl
      | write step =>
          show _ = (s.performAll next.render s.files (step :: rest.filterMap Part.step?)).2
          rw [performParts_cons_write, performAll]
          cases s.perform next.render s.files step with
          | error e => rfl
          | ok files =>
              dsimp only
              rw [ih, performAll_with s s.entries files]

/-- The first parts do not rename, or they write in full. -/
theorem steps_take_parts (done : Nat) :
    .rename ∉ (parts.take done).filterMap Part.step?
      ∨ (parts.take done).filterMap Part.step? = steps := by
  match done with
  | 0 => exact .inl (by decide)
  | 1 => exact .inl (by decide)
  | 2 => exact .inl (by decide)
  | 3 => exact .inl (by decide)
  | 4 => exact .inr rfl
  | more + 5 =>
      right
      rw [List.take_of_length_le (Nat.le_add_left 5 more)]
      rfl

/-! ## §2. Stopping in the middle. -/

variable {s : FileStore}

/-- The files when the process stops after some parts of applying a batch, with anything at the
spare path. -/
def filesAtStop (s : FileStore) (batch : Batch) (done : Nat) (left : Option Node) : Files :=
  let (next, changed) := s.entries.applyBatch batch
  s.leave left (if changed then (s.performParts next (parts.take done)).2.files else s.files)

/-- **A batch that is cut short has left the store file alone or has written it in full.** -/
theorem filesAtStop_cases (s : FileStore) (batch : Batch) (done : Nat) (left : Option Node) :
    SameAt s.path s.files (s.filesAtStop batch done left)
      ∨ IsWritten { s with
          entries := (s.entries.applyBatch batch).1, files := s.filesAtStop batch done left } := by
  unfold filesAtStop
  cases hbatch : s.entries.applyBatch batch with
  | mk next changed =>
      cases changed with
      | false => exact .inl (sameAt_leave left s.files)
      | true =>
          dsimp only
          rw [if_pos rfl, files_performParts]
          rcases steps_take_parts done with hrename | hsteps
          -- the process stopped before the renaming
          · exact .inl ((sameAt_performAll hrename).trans (sameAt_leave left _))
          -- all steps were taken, or one of them failed by itself before the process stopped
          · rw [hsteps]
            cases hrun : s.performAll next.render s.files steps with
            | mk result fs =>
                cases result with
                | error e =>
                    have hsame := sameAt_performAll_of_error (by decide) hrun
                    exact .inl (hsame.trans (sameAt_leave left fs))
                | ok _ =>
                    obtain ⟨hread, hholds, hshown⟩ := performAll_steps_eq_ok hrun
                    have hleft : SameAt s.path fs (s.leave left fs) := sameAt_leave left fs
                    exact .inr ⟨isTooLong_shown hshown, hleft.1.trans hholds, hleft.2.trans hread⟩

/-! ## §3. Attempts. -/

/-- What happens while a batch is applied. -/
inductive Fate where
  /-- Applying it returns, after a breakdown if there is one. -/
  | returns (breakdown? : Option Breakdown)
  /-- The process stops after some of the parts, with something at the spare path. -/
  | stops (done : Nat) (left : Option Node)

/-- How applying a batch ends. -/
inductive Ending where
  | returned (result : Except SqlError Unit)
  | stopped
deriving DecidableEq

/-- Attempts to apply a batch.  After a stop nothing is known but the files, and the store is opened
again. -/
def attempt (s : FileStore) (batch : Batch) : Fate → Except SqlError (Ending × FileStore)
  | .returns breakdown? =>
    let (result, s') := s.applyUnder breakdown? batch
    .ok (.returned result, s')
  | .stops done left => do
    return (.stopped, ← openAt s.folder s.shown (s.filesAtStop batch done left))

/-- Attempts batches one after the other: each with its ending, and the store after the last. -/
def attemptAll (s : FileStore) :
    List (Batch × Fate) → Except SqlError (List (Batch × Ending) × FileStore)
  | [] => .ok ([], s)
  | (batch, fate) :: rest => do
    let (ending, s) ← s.attempt batch fate
    let (log, s) ← s.attemptAll rest
    return ((batch, ending) :: log, s)

/-- Goes through parts of applying a batch and then breaks down, if no part has failed before. -/
def breakDownAfter (s : FileStore) (next : Entries) (l : List Part) (b : Breakdown) :
    Except SqlError Unit × FileStore :=
  match s.performParts next l with
  | (.ok (), s') => (.error b.fault, { s' with files := s.leave b.left s'.files })
  | (.error e, s') => (.error e, s')

/-- Applying a batch goes through its parts, and every attempt is cut out of these. -/
structure GoesThroughParts (s : FileStore) (batch : Batch) : Prop where
  /-- A batch that changes something is applied by all the parts. -/
  applies : s.apply batch = if (s.entries.applyBatch batch).2
    then s.performParts (s.entries.applyBatch batch).1 parts else (.ok (), s)
  /-- Where nothing breaks down, the batch is applied. -/
  returns : s.attempt batch (.returns none) = .ok (.returned (s.apply batch).1, (s.apply batch).2)
  /-- A breakdown comes after the parts in front of the step that fails. -/
  breaksDown : ∀ b : Breakdown, ∃ result s',
    s.attempt batch (.returns (some b)) = .ok (.returned result, s')
      ∧ (result, s') = if (s.entries.applyBatch batch).2
        then s.breakDownAfter (s.entries.applyBatch batch).1 (parts.takeWhile (· ≠ .write b.step)) b
        else (.ok (), s)
  /-- A process that stops after all the parts leaves the files that the application leaves. -/
  stops : ∀ left, s.attempt batch (.stops parts.length left) = do
    return (.stopped, ← openAt s.folder s.shown (s.leave left (s.apply batch).2.files))

theorem applyUnder_some (s : FileStore) (b : Breakdown) (batch : Batch) :
    s.applyUnder (some b) batch = if (s.entries.applyBatch batch).2
      then s.breakDownAfter (s.entries.applyBatch batch).1 (parts.takeWhile (· ≠ .write b.step)) b
      else (.ok (), s) := by
  have hcut : parts.takeWhile (· ≠ .write b.step)
      = (steps.takeWhile (· ≠ b.step)).map Part.write := by
    cases b.step <;> decide
  unfold breakDownAfter applyUnder performUnder
  rw [hcut, performParts_writes]
  cases s.entries.applyBatch batch with
  | mk next changed =>
      dsimp only
      rcases s.performAll next.render s.files (steps.takeWhile (· ≠ b.step))
        with ⟨_ | ⟨⟩, files⟩ <;> rfl

theorem filesAtStop_parts (s : FileStore) (batch : Batch) (left : Option Node) :
    s.filesAtStop batch parts.length left = s.leave left (s.apply batch).2.files := by
  rw [apply_eq_performParts]
  unfold filesAtStop
  rw [List.take_length]
  cases s.entries.applyBatch batch with
  | mk next changed => cases changed <;> rfl

theorem goesThroughParts (s : FileStore) (batch : Batch) : s.GoesThroughParts batch where
  applies := s.apply_eq_performParts batch
  returns := by
    rw [← applyUnder_none]
    rfl
  breaksDown b :=
    ⟨(s.applyUnder (some b) batch).1, (s.applyUnder (some b) batch).2, rfl,
      s.applyUnder_some b batch⟩
  stops left := by
    rw [← filesAtStop_parts]
    rfl

/-- The batch took effect as a whole or not at all: as a whole if it returned well, not at all if it
returned an error, and one of the two if the process stopped.  The file stands for the entries in
any case. -/
structure AllOrNothing (before : FileStore) (batch : Batch) (ending : Ending) (after : FileStore) :
    Prop where
  path : after.path = before.path
  decodes : decode after.seenText? = .ok after.entries
  effect : match ending with
    | .returned (.ok ()) => after.entries = (before.entries.applyBatch batch).1
    | .returned (.error _) =>
        after.entries = before.entries ∧ SameAt before.path before.files after.files
    | .stopped =>
        after.entries = before.entries ∨ after.entries = (before.entries.applyBatch batch).1

/-- A store that is opened again after a stop has the batch or does not have it. -/
theorem openAt_filesAtStop (h : s.IsCurrent) (batch : Batch) (done : Nat) (left : Option Node) :
    ∃ after, openAt s.folder s.shown (s.filesAtStop batch done left) = .ok after
      ∧ after.IsCurrent ∧ s.AllOrNothing batch .stopped after := by
  rcases s.filesAtStop_cases batch done left with hsame | hwritten
  -- what is opened is the store as it was, but for its other files
  · have hcurrent := h.of_sameAt hsame
    exact ⟨_, hcurrent.reopen, hcurrent, rfl, hcurrent.decode_eq, .inl rfl⟩
  -- what is opened is the store that would have returned
  · have hcurrent := hwritten.isCurrent
    exact ⟨_, hcurrent.reopen, hcurrent, rfl, hcurrent.decode_eq, .inr rfl⟩

/-- A batch whose application returns took effect as a whole or not at all. -/
theorem allOrNothing_applyUnder (h : s.IsCurrent) (breakdown? : Option Breakdown) (batch : Batch) :
    s.AllOrNothing batch (.returned (s.applyUnder breakdown? batch).1)
      (s.applyUnder breakdown? batch).2 := by
  refine ⟨s.path_applyUnder breakdown? batch, (h.applyUnder breakdown? batch).decode_eq, ?_⟩
  rcases s.applyUnder_cases breakdown? batch with ⟨hsame, he⟩ | ⟨fs, he, -⟩ | ⟨fault, fs, he, hsame⟩
  · rw [he]
    exact (Entries.applyBatch_of_unchanged hsame).symm
  · rw [he]
  · rw [he]
    exact ⟨rfl, hsame⟩

/-- **One attempt**: it leaves a current store, with all of the batch or nothing of it. -/
theorem attempt_spec (h : s.IsCurrent) (batch : Batch) (fate : Fate) :
    ∃ ending after, s.attempt batch fate = .ok (ending, after)
      ∧ after.IsCurrent ∧ s.AllOrNothing batch ending after := by
  cases fate with
  | returns breakdown? =>
      exact ⟨_, _, rfl, h.applyUnder breakdown? batch, allOrNothing_applyUnder h breakdown? batch⟩
  | stops done left =>
      obtain ⟨after, hopen, hcurrent, heffect⟩ := openAt_filesAtStop h batch done left
      refine ⟨.stopped, after, ?_, hcurrent, heffect⟩
      show (openAt s.folder s.shown (s.filesAtStop batch done left) >>= _) = _
      rw [hopen]
      rfl

/-! ## §4. Runs. -/

/-- Which batches of a run count: those that returned well do, those that returned an error do not,
and of those that were cut short any may. -/
inductive Counted : List (Batch × Ending) → List Batch → Prop
  | nil : Counted [] []
  | counts {batch : Batch} {ending : Ending} {log : List (Batch × Ending)} {counted : List Batch}
      (h : ∀ fault, ending ≠ .returned (.error fault)) (rest : Counted log counted) :
      Counted ((batch, ending) :: log) (batch :: counted)
  | doesNot {batch : Batch} {ending : Ending} {log : List (Batch × Ending)} {counted : List Batch}
      (h : ending ≠ .returned (.ok ())) (rest : Counted log counted) :
      Counted ((batch, ending) :: log) counted

/-- A batch that took effect as a whole or not at all either counts or does not. -/
theorem AllOrNothing.counted {after : FileStore} {batch : Batch} {ending : Ending}
    (h : s.AllOrNothing batch ending after) {log : List (Batch × Ending)} {counted : List Batch}
    (hrest : Counted log counted) :
    ∃ counted', Counted ((batch, ending) :: log) counted'
      ∧ (s.entries.applyBatch counted'.flatten).1
        = (after.entries.applyBatch counted.flatten).1 := by
  -- a batch that counts is written first, and the others on top of it
  have hwhole (hafter : after.entries = (s.entries.applyBatch batch).1) :
      (s.entries.applyBatch (batch :: counted).flatten).1
        = (after.entries.applyBatch counted.flatten).1 := by
    rw [List.flatten_cons, Entries.applyBatch_append, hafter]
  have hnothing (hafter : after.entries = s.entries) :
      (s.entries.applyBatch counted.flatten).1 = (after.entries.applyBatch counted.flatten).1 := by
    rw [hafter]
  have heffect := h.effect
  cases ending with
  | returned result =>
      cases result with
      | ok _ => exact ⟨_, .counts nofun hrest, hwhole heffect⟩
      | error fault => exact ⟨_, .doesNot nofun hrest, hnothing heffect.1⟩
  | stopped =>
      rcases heffect with hafter | hafter
      · exact ⟨_, .doesNot nofun hrest, hnothing hafter⟩
      · exact ⟨_, .counts nofun hrest, hwhole hafter⟩

/-- **All attempts**: they leave a current store with the batches that count. -/
theorem attemptAll_spec (h : s.IsCurrent) (attempts : List (Batch × Fate)) :
    ∃ log after, s.attemptAll attempts = .ok (log, after) ∧ after.IsCurrent
      ∧ ∃ counted, Counted log counted
        ∧ after.entries = (s.entries.applyBatch counted.flatten).1 := by
  induction attempts generalizing s with
  | nil => exact ⟨[], s, rfl, h, [], .nil, rfl⟩
  | cons first rest ih =>
      obtain ⟨batch, fate⟩ := first
      obtain ⟨ending, mid, hattempt, hmid, heffect⟩ := attempt_spec h batch fate
      -- the others go on from a current store, whichever way the first attempt ended
      obtain ⟨log, after, hrun, hafter, counted, hcounted, hentries⟩ := ih hmid
      obtain ⟨counted', hcounted', hsum⟩ := heffect.counted hcounted
      refine ⟨(batch, ending) :: log, after, ?_, hafter, counted', hcounted', ?_⟩
      · show (s.attempt batch fate >>= _) = _
        rw [hattempt]
        show (mid.attemptAll rest >>= _) = _
        rw [hrun]
        rfl
      · exact hentries.trans hsum.symm

/-- **Batches are applied as a whole or not at all**, whatever fails and wherever the process stops.
Every attempt goes through the parts of applying its batch.  A run of attempts always goes on, since
the store can be opened again after every stop; the store then has exactly the batches that count,
and any next attempt takes effect as a whole or not at all, too. -/
theorem allOrNothing_of_attemptAll {folder : Path} {shown : String} {files : Files}
    {start : FileStore} (hopen : openAt folder shown files = .ok start)
    (attempts : List (Batch × Fate)) :
    (∀ (s : FileStore) (batch : Batch), s.GoesThroughParts batch)
      ∧ ∃ log s, start.attemptAll attempts = .ok (log, s)
        ∧ s.reopen = .ok s
        ∧ (∃ counted, Counted log counted
          ∧ s.entries = (start.entries.applyBatch counted.flatten).1)
        ∧ ∀ batch fate, ∃ ending after, s.attempt batch fate = .ok (ending, after)
          ∧ s.AllOrNothing batch ending after := by
  obtain ⟨log, s, hrun, hcurrent, hcounted⟩ := attemptAll_spec (isCurrent_of_openAt hopen) attempts
  refine ⟨goesThroughParts, log, s, hrun, hcurrent.reopen, hcounted, fun batch fate => ?_⟩
  obtain ⟨ending, after, hattempt, -, heffect⟩ := attempt_spec hcurrent batch fate
  exact ⟨ending, after, hattempt, heffect⟩

/-- A batch that is applied, one that breaks down in the middle of writing, and two that are cut
short, before and after the renaming. -/
def mishaps : List (Batch × Fate) :=
  [([.set "a" "1"], .returns none),
    ([.set "b" "2", .remove "a"], .returns (some ⟨.sync, .io "disk full", some (.text "half")⟩)),
    ([.set "c" "3"], .stops 2 (some (.text "\x7b"))),
    ([.set "d" "4", .set "e" "5"], .stops 4 (some .folder))]

/-- The first batch and the last one are there. -/
theorem allOrNothing_of_attemptAll_mishaps :
    ∃ log s, fresh.attemptAll mishaps = .ok (log, s)
      ∧ log.map Prod.snd = [.returned (.ok ()), .returned (.error (.io "disk full")), .stopped,
        .stopped]
      ∧ s.entries.pairs = [("a", "1"), ("d", "4"), ("e", "5")] ∧ s.reopen = .ok s := by
  have hopen : openAt [] "store.json" {} = .ok fresh := rfl
  obtain ⟨-, log, s, hrun, hreopen, -⟩ := allOrNothing_of_attemptAll hopen mishaps
  have heval : (fresh.attemptAll mishaps).map (fun r => (r.1.map Prod.snd, r.2.entries.pairs))
      = .ok ([.returned (.ok ()), .returned (.error (.io "disk full")), .stopped, .stopped],
        [("a", "1"), ("d", "4"), ("e", "5")]) := by
    decide +kernel
  rw [hrun] at heval
  obtain ⟨hlog, hentries⟩ := Prod.mk.inj (Except.ok.inj heval)
  exact ⟨log, s, hrun, hlog, hentries, hreopen⟩

end SmallSql.FileStore
