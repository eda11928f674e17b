/-
  SmallSql.Proofs.Snapshot.Restoring
  ────────────────────────────────
  Loading undoes saving.  What is saved is any catalog and any selection, whatever the store held
  before, and what is loaded is

      a fault         if a row is not as wide as its table has columns
      the same pair   otherwise, without the selection if it names no database of the catalog

  Of the store only the two keys of the snapshot change, and none of an earlier selection is left.
-/
import SmallSql.Proofs.Snapshot
import SmallSql.Proofs.Storage.FileStore

namespace SmallSql

/-- Some row of the catalog has another number of cells than its table has columns. -/
def Catalog.HasRaggedRow (c : Catalog) : Prop :=
  ∃ db ∈ c.databases, ∃ t ∈ db.tables, ∃ row ∈ t.rows, row.length ≠ t.columns.length

theorem Catalog.hasRaggedRow_iff {c : Catalog} : c.HasRaggedRow ↔ ¬ c.Rectangular := by
  simp [HasRaggedRow, Catalog.Rectangular, Database.Rectangular, Table.Rectangular]

namespace Snapshot

/-- The store `after` holds the catalog and the selection, and else what `before` held. -/
structure Restores {σ : Type} [KeyValueStore σ] (before after : σ) (c : Catalog) (s : Selection) :
    Prop where
  refused : (∃ fault, load after = .error fault) ↔ c.HasRaggedRow
  restored : ¬ c.HasRaggedRow → load after = .ok (c, if s.isValidFor c then s else .empty)
  selection : KeyValueStore.get? after selectionKey = s.name?
  others : ∀ key, key ≠ catalogKey → key ≠ selectionKey →
    KeyValueStore.get? after key = KeyValueStore.get? before key

variable {σ : Type} [KeyValueStore σ] {c : Catalog} {s : Selection}

/-- A snapshot writes under its two keys only. -/
theorem get?_batch_of_ne (e : Entries) {key : String} (hc : key ≠ catalogKey)
    (hs : key ≠ selectionKey) : (e.applyBatch (batch c s)).1.get? key = e.get? key := by
  unfold batch
  cases s.name? with
  | none =>
      show ((e.put catalogKey (render c)).erase selectionKey).get? key = _
      rw [Entries.get?_erase, if_neg hs, Entries.get?_put, if_neg hc]
  | some name =>
      show ((e.put catalogKey (render c)).put selectionKey name).get? key = _
      rw [Entries.get?_put, if_neg hs, Entries.get?_put, if_neg hc]

/-- A store that takes the writes of a snapshot restores it. -/
theorem restores_of_batch {before after : σ} {e : Entries}
    (hbefore : ∀ key, KeyValueStore.get? before key = e.get? key)
    (hafter : ∀ key, KeyValueStore.get? after key = (e.applyBatch (batch c s)).1.get? key) :
    Restores before after c s := by
  have hload := load_of_batch hafter
  have hrestored (hc : c.Rectangular) :
      load after = .ok (c, if s.isValidFor c then s else .empty) := by
    rw [hload, checked_eq_ok.2 ⟨rfl, hc⟩]
    rfl
  refine ⟨⟨?_, ?_⟩, ?_, ?_, ?_⟩
  -- without a ragged row the catalog would have been loaded
  · rintro ⟨fault, hfault⟩
    refine Catalog.hasRaggedRow_iff.2 fun hc => ?_
    rw [hrestored hc] at hfault
    cases hfault
  -- with one it is not what checking gives back
  · intro hc
    cases hchecked : checked c with
    | ok c' => exact absurd (checked_eq_ok.1 hchecked).2 (Catalog.hasRaggedRow_iff.1 hc)
    | error fault =>
        rw [hchecked] at hload
        exact ⟨_, hload⟩
  · intro hc
    exact hrestored (Classical.not_not.1 fun hr => hc (Catalog.hasRaggedRow_iff.2 hr))
  · rw [hafter, (get?_batch e c s).2]
  · intro key hcatalog hselection
    rw [hafter, hbefore, get?_batch_of_ne e hcatalog hselection]

/-- **Loading undoes saving**, for every catalog and selection and whatever the store held before,
in memory and in a file whose write succeeds. -/
theorem restores_of_save (c : Catalog) (s : Selection) :
    (∀ store : MemoryStore, (save store c s).1 = .ok ()
      ∧ Restores store (save store c s).2 c s)
    ∧ ∀ store : FileStore, (save store c s).1 = .ok () →
      Restores store (save store c s).2 c s := by
  refine ⟨fun store => ⟨rfl, ?_⟩, fun store hsave => ?_⟩
  · exact restores_of_batch (e := store.entries) (fun _ => rfl) fun _ => rfl
  · exact restores_of_batch (e := store.entries) (fun _ => rfl)
      (@FileStore.get?_applyUnder store none (batch c s) hsave)

/-- A file store with a selection and another entry. -/
def usedStore : FileStore where
  folder := []
  shown := "store.json"
  entries := (Entries.empty.put "note" "kept").put selectionKey "old"
  files := {}

/-- A snapshot without a selection takes the old one away, and leaves the other entry. -/
theorem restores_of_save_usedStore :
    (save usedStore { databases := [{ name := "old" }] } .empty).1 = .ok ()
      ∧ Restores usedStore (save usedStore { databases := [{ name := "old" }] } .empty).2
        { databases := [{ name := "old" }] } .empty
      ∧ KeyValueStore.get? (save usedStore { databases := [{ name := "old" }] } .empty).2
        selectionKey = none
      ∧ KeyValueStore.get? (save usedStore { databases := [{ name := "old" }] } .empty).2 "note"
        = some "kept" := by
  have hsave : (save usedStore { databases := [{ name := "old" }] } .empty).1 = .ok () := rfl
  have hrestores := (restores_of_save _ _).2 usedStore hsave
  exact ⟨hsave, hrestores, hrestores.selection,
    (hrestores.others "note" (by decide) (by decide)).trans rfl⟩

end Snapshot

end SmallSql
