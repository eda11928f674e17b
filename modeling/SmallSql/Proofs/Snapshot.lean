/-
  SmallSql.Proofs.Snapshot
  ────────────────────────────────
  A snapshot in a store.  What was saved is loaded: the catalog as it is read back, `checked c`, and
  the selection if it names one of its databases.  Whatever is loaded is rectangular, and its
  selection names one of its databases.
-/
import SmallSql.Proofs.Snapshot.Decoding
import SmallSql.Proofs.Storage.Entries

namespace SmallSql.Snapshot

variable {σ τ : Type} [KeyValueStore σ] [KeyValueStore τ]

/-- What is loaded depends on the look-ups only, and not on the kind of store. -/
theorem load_congr {store : σ} {store' : τ}
    (h : ∀ key, KeyValueStore.get? store' key = KeyValueStore.get? store key) :
    load store' = load store := by
  unfold load
  rw [h, h]

/-- What a snapshot puts under the two keys. -/
theorem get?_batch (e : Entries) (c : Catalog) (s : Selection) :
    (e.applyBatch (batch c s)).1.get? catalogKey = some (render c)
      ∧ (e.applyBatch (batch c s)).1.get? selectionKey = s.name? := by
  have hne : catalogKey ≠ selectionKey := by decide
  unfold batch
  cases s.name? with
  | none =>
      show ((e.put catalogKey (render c)).erase selectionKey).get? catalogKey = _
        ∧ ((e.put catalogKey (render c)).erase selectionKey).get? selectionKey = _
      rw [Entries.get?_erase, if_neg hne, Entries.get?_put, if_pos rfl, Entries.get?_erase,
        if_pos rfl]
      exact ⟨rfl, rfl⟩
  | some name =>
      show ((e.put catalogKey (render c)).put selectionKey name).get? catalogKey = _
        ∧ ((e.put catalogKey (render c)).put selectionKey name).get? selectionKey = _
      rw [Entries.get?_put, if_neg hne, Entries.get?_put, if_pos rfl, Entries.get?_put, if_pos rfl]
      exact ⟨rfl, rfl⟩

/-- What was saved is loaded: the catalog as it is read back, and the selection if it names one of
its databases. -/
theorem load_of_batch {store : τ} {e : Entries} {c : Catalog} {s : Selection}
    (h : ∀ key, KeyValueStore.get? store key = (e.applyBatch (batch c s)).1.get? key) :
    load store = (do
      let c' ← (checked c).mapError .json
      return (c', if s.isValidFor c' then s else .empty)) := by
  obtain ⟨hcatalog, hselection⟩ := get?_batch e c s
  unfold load
  rw [h, h, hcatalog, hselection]
  dsimp only
  rw [parse_render_eq]
  cases checked c with
  | error fault => rfl
  | ok c' =>
      obtain ⟨name?⟩ := s
      cases name? <;> rfl

/-- **What was saved is loaded**, if the catalog is rectangular and the selection names one of its
databases. -/
theorem load_of_saved {store : τ} {e : Entries} {c : Catalog} {s : Selection}
    (h : ∀ key, KeyValueStore.get? store key = (e.applyBatch (batch c s)).1.get? key)
    (hc : c.Rectangular) (hs : s.isValidFor c = true) : load store = .ok (c, s) := by
  rw [load_of_batch h, checked_eq_ok.2 ⟨rfl, hc⟩]
  show Except.ok (c, if s.isValidFor c = true then s else .empty) = _
  rw [if_pos hs]

theorem rectangular_of_load {store : τ} {c : Catalog} {s : Selection}
    (h : load store = .ok (c, s)) : c.Rectangular := by
  unfold load at h
  dsimp only at h
  split at h
  · next text _ =>
    obtain ⟨c', hc, h⟩ := bind_eq_ok.1 h
    cases h
    cases hp : parse text with
    | error f =>
        rw [hp] at hc
        cases hc
    | ok c'' =>
        rw [hp] at hc
        cases hc
        exact rectangular_of_parse hp
  · cases h
    intro db hdb
    cases hdb

theorem isValidFor_of_load {store : τ} {c : Catalog} {s : Selection}
    (h : load store = .ok (c, s)) : s.isValidFor c = true := by
  unfold load at h
  cases hname : KeyValueStore.get? store selectionKey with
  | none =>
      rw [hname] at h
      dsimp only at h
      split at h
      · obtain ⟨c', -, h⟩ := bind_eq_ok.1 h
        cases h
        rfl
      · cases h
        rfl
  | some name =>
      have hvalid : ∀ c : Catalog,
          (if c.hasDatabase name = true then Selection.of name else .empty).isValidFor c
            = true := by
        intro c
        by_cases hc : c.hasDatabase name = true
        · rw [if_pos hc]
          exact hc
        · rw [if_neg hc]
          rfl
      rw [hname] at h
      dsimp only at h
      split at h
      · obtain ⟨c', -, h⟩ := bind_eq_ok.1 h
        cases h
        exact hvalid _
      · cases h
        exact hvalid _

/-- What is loaded is rectangular, and its selection names one of its databases. -/
theorem valid_of_load {store : τ} {c : Catalog} {s : Selection} (h : load store = .ok (c, s)) :
    c.Rectangular ∧ s.isValidFor c = true :=
  ⟨rectangular_of_load h, isValidFor_of_load h⟩

end SmallSql.Snapshot
