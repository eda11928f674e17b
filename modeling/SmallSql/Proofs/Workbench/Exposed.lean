/-
  SmallSql.Proofs.Workbench.Exposed
  ────────────────────────────────
  Stores among other things: before each call something may happen around a store that decides
  whether its next write succeeds, and a store can be dropped and opened again.

      store in memory   the next write is refused, or it is not; the store itself is handed on
      store in a file   the files around it change in any way that does not touch its own file; it
                        is opened again from its file
      frail store       a store in a file whose next write may also break down in some step

  `Lawful` is what all that comes after needs to know of either.
-/
import SmallSql.Proofs.Storage.FileStore

namespace SmallSql

/-! ## §1. Stores and what happens around them. -/

/-- A store that can be opened again, and what may happen around it. -/
class Exposed (σ : Type) extends KeyValueStore σ where
  /-- What may happen between two calls. -/
  Event : Type
  /-- The store after an event. -/
  expose : σ → Event → σ
  /-- An event that does not touch what the store keeps. -/
  Harmless : σ → Event → Prop
  /-- Drops the store and opens it again. -/
  reopen : σ → Except SqlError σ
  /-- What the store keeps: its entries, and the text of the file they are in. -/
  kept : σ → Entries × Option String

export Exposed (Event Harmless expose reopen kept)

/-- A store in memory; an event is a reason to refuse the next write, or that there is none. -/
instance : Exposed (Guarded MemoryStore) where
  Event := Option SqlError
  expose g refusal := { g with refusal }
  Harmless _ _ := True
  reopen g := .ok g
  kept g := (g.store.entries, none)

/-- A store in a file; an event is a change of the files. -/
instance : Exposed FileStore where
  get? s key := KeyValueStore.get? s key
  apply := FileStore.apply
  Event := Files → Files
  expose s change := { s with files := change s.files }
  Harmless s change := ∀ fs, Files.SameAt s.path fs (change fs)
  reopen := FileStore.reopen
  kept s := (s.entries, s.fileText?)

/-- A file store whose next write may break down. -/
structure FrailStore where
  store : FileStore
  breakdown? : Option FileStore.Breakdown := none

/-- What happens around a file store. -/
structure Surroundings where
  /-- What becomes of the files. -/
  change : Files → Files := id
  breakdown? : Option FileStore.Breakdown := none

instance : Exposed FrailStore where
  get? s key := KeyValueStore.get? s.store key
  apply s batch :=
    let (result, store) := s.store.applyUnder s.breakdown? batch
    (result, { s with store })
  Event := Surroundings
  expose s e := {
    store := { s.store with files := e.change s.store.files }
    breakdown? := e.breakdown? }
  Harmless s e := ∀ fs, Files.SameAt s.store.path fs (e.change fs)
  reopen s := do return { s with store := ← s.store.reopen }
  kept s := (s.store.entries, s.store.fileText?)

/-! ## §2. Laws. -/

/-- A store is *current* if opening it again gives the same store.  It stays so, and a batch takes
effect as a whole or not at all. -/
class Exposed.Lawful (σ : Type) [Exposed σ] : Prop where
  get?_eq (s : σ) (key : String) : KeyValueStore.get? s key = (kept s).1.get? key
  kept_expose {s : σ} {e : Event σ} : Harmless s e → kept (expose s e) = kept s
  harmless_expose {s : σ} {e e' : Event σ} : Harmless (expose s e) e' ↔ Harmless s e'
  reopen_expose {s : σ} {e : Event σ} :
    reopen s = .ok s → Harmless s e → reopen (expose s e) = .ok (expose s e)
  harmless_apply {s : σ} {batch : Batch} {e : Event σ} :
    Harmless (KeyValueStore.apply s batch).2 e ↔ Harmless s e
  reopen_apply {s : σ} (batch : Batch) : reopen s = .ok s →
    reopen (KeyValueStore.apply s batch).2 = .ok (KeyValueStore.apply s batch).2
  apply_ok {s : σ} {batch : Batch} : (KeyValueStore.apply s batch).1 = .ok () →
    ∀ key, (kept (KeyValueStore.apply s batch).2).1.get? key
      = ((kept s).1.applyBatch batch).1.get? key
  apply_error {s : σ} {batch : Batch} {fault : SqlError} :
    (KeyValueStore.apply s batch).1 = .error fault →
    kept (KeyValueStore.apply s batch).2 = kept s

/-- A guarded batch is refused, or applied as the store in memory applies it. -/
theorem Guarded.apply_eq (g : Guarded MemoryStore) (batch : Batch) :
    KeyValueStore.apply g batch = match g.refusal with
      | some e => (.error e, g)
      | none => (.ok (), { g with store := ⟨(g.store.entries.applyBatch batch).1⟩ }) := by
  cases g with
  | mk store refusal => cases refusal <;> rfl

instance : Exposed.Lawful (Guarded MemoryStore) where
  get?_eq _ _ := rfl
  kept_expose _ := rfl
  harmless_expose := Iff.rfl
  reopen_expose _ _ := rfl
  harmless_apply := Iff.rfl
  reopen_apply _ _ := rfl
  apply_ok {g batch} h key := by
    rw [Guarded.apply_eq] at h ⊢
    cases hr : g.refusal with
    | some e =>
        rw [hr] at h
        cases h
    | none => rfl
  apply_error {g batch fault} h := by
    rw [Guarded.apply_eq] at h ⊢
    cases hr : g.refusal with
    | some e => rfl
    | none =>
        rw [hr] at h
        cases h

/-- A file store is current exactly if its entries are those of its file. -/
theorem FileStore.reopen_iff {s : FileStore} : s.reopen = .ok s ↔ s.IsCurrent :=
  ⟨isCurrent_of_openAt, IsCurrent.reopen⟩

instance : Exposed.Lawful FileStore where
  get?_eq _ _ := rfl
  kept_expose {s change} h := by
    show (s.entries, ((change s.files).readText s.path).toOption) = _
    rw [(h s.files).2]
    rfl
  harmless_expose := Iff.rfl
  reopen_expose {s change} hs h :=
    FileStore.reopen_iff.2 ((FileStore.reopen_iff.1 hs).of_sameAt (h s.files))
  harmless_apply {s batch change} := by
    show (∀ fs, Files.SameAt (s.applyUnder none batch).2.path fs (change fs))
      ↔ ∀ fs, Files.SameAt s.path fs (change fs)
    rw [FileStore.path_applyUnder]
  reopen_apply {s} batch hs :=
    FileStore.reopen_iff.2 ((FileStore.reopen_iff.1 hs).applyUnder none batch)
  apply_ok {s batch} h key := @FileStore.get?_applyUnder s none batch h key
  apply_error {s batch fault} h := by
    obtain ⟨hentries, htext⟩ := @FileStore.kept_applyUnder s none batch fault h
    show ((s.applyUnder none batch).2.entries, (s.applyUnder none batch).2.fileText?)
      = (s.entries, s.fileText?)
    rw [hentries, htext]

/-- A frail store is current exactly if its file store is. -/
theorem FrailStore.reopen_iff {s : FrailStore} : reopen s = .ok s ↔ s.store.IsCurrent := by
  show (s.store.reopen >>= fun store => .ok { s with store }) = .ok s ↔ _
  constructor
  · intro h
    obtain ⟨store, hstore, h⟩ := bind_eq_ok.1 h
    have hs : store = s.store := congrArg FrailStore.store (Except.ok.inj h)
    rw [hs] at hstore
    exact FileStore.isCurrent_of_openAt hstore
  · intro h
    rw [h.reopen]
    rfl

instance : Exposed.Lawful FrailStore where
  get?_eq _ _ := rfl
  kept_expose {s e} h := by
    show (s.store.entries, ((e.change s.store.files).readText s.store.path).toOption) = _
    rw [(h s.store.files).2]
    rfl
  harmless_expose := Iff.rfl
  reopen_expose {s e} hs h := by
    rw [FrailStore.reopen_iff] at hs ⊢
    exact hs.of_sameAt (h s.store.files)
  harmless_apply {s batch e} := by
    show (∀ fs, Files.SameAt (s.store.applyUnder s.breakdown? batch).2.path fs (e.change fs))
      ↔ ∀ fs, Files.SameAt s.store.path fs (e.change fs)
    rw [FileStore.path_applyUnder]
  reopen_apply {s} batch hs := by
    rw [FrailStore.reopen_iff] at hs ⊢
    exact hs.applyUnder s.breakdown? batch
  apply_ok {s batch} h key := by
    change (s.store.applyUnder s.breakdown? batch).1 = .ok () at h
    exact FileStore.get?_applyUnder h key
  apply_error {s batch fault} h := by
    change (s.store.applyUnder s.breakdown? batch).1 = .error fault at h
    obtain ⟨hentries, htext⟩ := FileStore.kept_applyUnder h
    show ((s.store.applyUnder s.breakdown? batch).2.entries,
      (s.store.applyUnder s.breakdown? batch).2.fileText?) = (s.store.entries, s.store.fileText?)
    rw [hentries, htext]

end SmallSql
