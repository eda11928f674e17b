/-
  SmallSql.Proofs.Storage.Mirror
  ────────────────────────────────
  A file store mirrors a store in memory.  Both are given the same requests,

      set, remove, apply        a batch of writes
      reopen                    no write; the file store is opened again from its file

  and as long as the file can be written, every look-up finds in both what the last write on the key
  has left.  The file stands for the entries all along: at first for those it was opened with, in
  whatever form, and after the first change in the form in which entries are written.
-/
import Mathlib.Data.List.Basic
import SmallSql.Proofs.Storage.FileStore

namespace SmallSql

/-! ## §1. Requests. -/

/-- What a store is asked to do. -/
inductive Request where
  | set (key value : String)
  | remove (key : String)
  | apply (batch : Batch)
  /-- Opens the store again, from what is kept of it. -/
  | reopen
deriving DecidableEq

namespace Request

/-- The writes of a request, in their order. -/
def writes : Request → List Write
  | set key value => [.set key value]
  | remove key => [.remove key]
  | apply batch => batch
  | reopen => []

section

variable {σ : Type} [KeyValueStore σ]

/-- Answers a request; `again` opens a store again. -/
def answer (again : σ → Except SqlError σ) (store : σ) : Request → Except SqlError Unit × σ
  | set key value => KeyValueStore.set store key value
  | remove key => KeyValueStore.remove store key
  | apply batch => KeyValueStore.apply store batch
  | reopen => match again store with
    | .ok store => (.ok (), store)
    | .error e => (.error e, store)

/-- Answers requests one after the other: each with its result, and the store after the last. -/
def answerAll (again : σ → Except SqlError σ) (store : σ) :
    List Request → List (Request × Except SqlError Unit) × σ
  | [] => ([], store)
  | request :: rest =>
    let (result, store) := request.answer again store
    let (log, store) := answerAll again store rest
    ((request, result) :: log, store)

end

/-- A store in memory takes the writes of a request; there is nothing to open it from. -/
theorem answer_memory (m : MemoryStore) (request : Request) :
    request.answer .ok m = (.ok (), ⟨(m.entries.applyBatch request.writes).1⟩) := by
  cases request <;> rfl

/-- A store in memory takes the writes of all requests. -/
theorem answerAll_memory (m : MemoryStore) (requests : List Request) :
    (answerAll .ok m requests).2 = ⟨(m.entries.applyBatch (requests.flatMap writes)).1⟩ := by
  induction requests generalizing m with
  | nil => rfl
  | cons request rest ih =>
      show (answerAll .ok (request.answer .ok m).2 rest).2 = _
      rw [answer_memory, ih, List.flatMap_cons, Entries.applyBatch_append]

end Request

namespace FileStore

variable {s s₁ s₂ : FileStore}

/-! ## §2. What writes do to a file store. -/

/-- The store `s'` is `s` after some writes.  The file is rewritten when they change something. -/
structure TakesOn (s : FileStore) (writes : List Write) (s' : FileStore) : Prop where
  path : s'.path = s.path
  isCurrent : s'.IsCurrent
  entries : s'.entries = (s.entries.applyBatch writes).1
  text : s'.seenText? = if (s.entries.applyBatch writes).2 then some s'.entries.render
    else s.seenText?

/-- Without writes a store stays as it is. -/
theorem TakesOn.nil (h : s.IsCurrent) : s.TakesOn [] s := ⟨rfl, h, rfl, rfl⟩

/-- Writes, and then more writes. -/
theorem TakesOn.append {first second : List Write} (h₁ : s.TakesOn first s₁)
    (h₂ : s₁.TakesOn second s₂) : s.TakesOn (first ++ second) s₂ where
  path := h₂.path.trans h₁.path
  isCurrent := h₂.isCurrent
  entries := by rw [h₂.entries, h₁.entries, Entries.applyBatch_append]
  text := by
    rw [h₂.text, h₁.text, Entries.applyBatch_append, h₁.entries]
    cases hsecond : ((s.entries.applyBatch first).1.applyBatch second).2 with
    | true => simp
    | false =>
        -- the second writes change nothing, so the text of the first is still that of the entries
        have hentries : s₂.entries = (s.entries.applyBatch first).1 := by
          rw [h₂.entries, h₁.entries, Entries.applyBatch_of_unchanged hsecond]
        rw [hentries]
        simp

/-- A batch that took effect was taken on. -/
theorem takesOn_apply (h : s.IsCurrent) {batch : Batch} (hok : (s.apply batch).1 = .ok ()) :
    s.TakesOn batch (s.apply batch).2 := by
  rw [← applyUnder_none] at hok ⊢
  rcases s.applyUnder_cases none batch with ⟨hsame, he⟩ | ⟨fs, he, hchanged, hw⟩ | ⟨fault, fs, he, -⟩
  · rw [he]
    exact ⟨rfl, h, (Entries.applyBatch_of_unchanged hsame).symm, by rw [hsame]; rfl⟩
  · rw [he]
    exact ⟨rfl, hw.isCurrent, rfl, by rw [hchanged]; exact hw.seenText?_eq⟩
  · rw [he] at hok
    cases hok

/-- A request with a write applies it as a batch. -/
theorem answer_eq_apply {request : Request} (h : request ≠ .reopen) :
    request.answer FileStore.reopen s = s.apply request.writes := by
  cases request with
  | set key value => rfl
  | remove key => rfl
  | apply batch => rfl
  | reopen => exact absurd rfl h

/-- A current store stays the same when it is opened again. -/
theorem answer_reopen (h : s.IsCurrent) :
    Request.reopen.answer FileStore.reopen s = (.ok (), s) := by
  unfold Request.answer
  rw [h.reopen]

/-- **One request**: a current store takes on its writes, and can be opened again at any time. -/
theorem takesOn_answer (h : s.IsCurrent) {request : Request}
    (hok : request ≠ .reopen → (request.answer FileStore.reopen s).1 = .ok ()) :
    (request.answer FileStore.reopen s).1 = .ok ()
      ∧ s.TakesOn request.writes (request.answer FileStore.reopen s).2 := by
  by_cases hr : request = .reopen
  · subst hr
    rw [answer_reopen h]
    exact ⟨rfl, .nil h⟩
  · have hresult := hok hr
    rw [answer_eq_apply hr] at hresult ⊢
    exact ⟨hresult, takesOn_apply h hresult⟩

/-- **All requests**: a current store takes on all their writes. -/
theorem takesOn_answerAll (h : s.IsCurrent) {requests : List Request}
    (hok : ∀ entry ∈ (Request.answerAll FileStore.reopen s requests).1,
      entry.1 ≠ .reopen → entry.2 = .ok ()) :
    (∀ entry ∈ (Request.answerAll FileStore.reopen s requests).1, entry.2 = .ok ())
      ∧ s.TakesOn (requests.flatMap Request.writes)
        (Request.answerAll FileStore.reopen s requests).2 := by
  -- every request leaves a current store, from which the others go on
  induction requests generalizing s with
  | nil => exact ⟨nofun, .nil h⟩
  | cons request rest ih =>
      obtain ⟨hfirst, hstep⟩ := takesOn_answer h (hok _ List.mem_cons_self)
      obtain ⟨hothers, hrest⟩ := ih hstep.isCurrent fun entry he =>
        hok entry (List.mem_cons_of_mem _ he)
      refine ⟨fun entry he => ?_, hstep.append hrest⟩
      rcases List.mem_cons.1 he with rfl | he
      · exact hfirst
      · exact hothers entry he

/-! ## §3. The file store and the store in memory. -/

/-- What a file store that was `start` before some writes has in common with a store in memory. -/
structure Mirrors (start : FileStore) (writes : List Write) (s : FileStore) (memory : MemoryStore) :
    Prop where
  path : s.path = start.path
  agrees : ∀ key, KeyValueStore.get? s key = KeyValueStore.get? memory key
  latest : ∀ key,
    KeyValueStore.get? s key = lastWritten writes key (KeyValueStore.get? start key)
  decodes : decode s.seenText? = .ok s.entries
  canonical : s.seenText? = if (start.entries.applyBatch writes).2 then some s.entries.render
    else start.seenText?
  shortcut : ∀ batch, (s.entries.applyBatch batch).2 = false →
    s.apply batch = (.ok (), s) ∧ (s.entries.applyBatch batch).1 = s.entries

/-- A batch that changes nothing is not applied at all. -/
theorem apply_of_unchanged {batch : Batch} (h : (s.entries.applyBatch batch).2 = false) :
    s.apply batch = (.ok (), s) := by
  show (if (s.entries.applyBatch batch).2 then _ else _) = _
  rw [h]
  rfl

/-- **A file store mirrors a store in memory** that started with the same entries, which are none if
there was no file.  Whatever is requested of both, as long as the writes succeed the file store can
be opened again at any time, and all look-ups agree. -/
theorem mirrors_memory {folder : Path} {shown : String} {files : Files} {start s : FileStore}
    (hopen : openAt folder shown files = .ok start) {requests : List Request}
    {log : List (Request × Except SqlError Unit)}
    (hrun : Request.answerAll FileStore.reopen start requests = (log, s))
    (hwrites : ∀ entry ∈ log, entry.1 ≠ .reopen → entry.2 = .ok ()) :
    (start.seenText? = none → start.entries = .empty)
      ∧ (∀ entry ∈ log, entry.2 = .ok ())
      ∧ Mirrors start (requests.flatMap Request.writes) s
        (Request.answerAll .ok { entries := start.entries } requests).2 := by
  have hcurrent := isCurrent_of_openAt hopen
  have hrun' := @takesOn_answerAll start hcurrent requests
  rw [hrun] at hrun'
  obtain ⟨hok, htaken⟩ := hrun' hwrites
  refine ⟨fun hnone => ?_, hok, htaken.path, fun key => ?_, fun key => ?_,
    htaken.isCurrent.decode_eq, htaken.text, fun batch hbatch =>
      ⟨apply_of_unchanged hbatch, Entries.applyBatch_of_unchanged hbatch⟩⟩
  -- a missing file stands for no entries
  · have hdecode := hcurrent.decode_eq
    rw [hnone] at hdecode
    exact (Except.ok.inj hdecode).symm
  -- both stores have taken on the same writes
  · rw [Request.answerAll_memory]
    exact congrArg (Entries.get? · key) htaken.entries
  · show s.entries.get? key = _
    rw [htaken.entries]
    exact Entries.get?_applyBatch _ _ key

/-- A key is put, replaced and taken away, and the store is opened again in between. -/
def takenAway : List Request :=
  [.set "b" "1", .apply [.set "a" "\"2\n\"", .set "b" "3"], .reopen, .remove "b", .remove "c",
    .reopen]

/-- The key that was taken away is in neither store, and the text is that of the other one. -/
theorem mirrors_memory_takenAway :
    (∀ entry ∈ (Request.answerAll FileStore.reopen fresh takenAway).1, entry.2 = .ok ())
      ∧ KeyValueStore.get? (Request.answerAll FileStore.reopen fresh takenAway).2 "b" = none
      ∧ (Request.answerAll FileStore.reopen fresh takenAway).2.seenText?
        = some "\x7b\n  \"a\": \"\\\"2\\n\\\"\"\n\x7d" := by
  have hopen : openAt [] "store.json" {} = .ok fresh := rfl
  have hwrites : ∀ entry ∈ (Request.answerAll FileStore.reopen fresh takenAway).1,
      entry.1 ≠ .reopen → entry.2 = .ok () := by
    decide +kernel
  obtain ⟨-, hok, hmirrors⟩ := mirrors_memory hopen (Prod.eta _).symm hwrites
  refine ⟨hok, (hmirrors.latest "b").trans rfl, hmirrors.canonical.trans ?_⟩
  decide +kernel

end FileStore

end SmallSql
