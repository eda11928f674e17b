/-
  SmallSql.Proofs.Snapshot.Acceptance
  ────────────────────────────────
  The texts that are accepted as a catalog:

      of the shape of c, all rows in width    `c`
      of the shape of c, some row is not      the fault of the first such row
      of no shape                             a fault

  Whatever is accepted is rectangular, so saving and loading gives it back.
-/
import SmallSql.Proofs.Snapshot.Restoring

namespace SmallSql.Snapshot

/-- What was read is rectangular, so saving keeps it. -/
theorem load_of_parse {σ : Type} [KeyValueStore σ] {text : String} {c : Catalog} {s : Selection}
    (h : parse text = .ok c) {before after : σ} (hafter : Restores before after c s) :
    load after = .ok (c, if s.isValidFor c then s else .empty) :=
  hafter.restored fun hragged => Catalog.hasRaggedRow_iff.1 hragged (rectangular_of_parse h)

/-- Which catalogs a text is read as, and for what it is refused. -/
structure Decodes (text : String) : Prop where
  /-- A text of the shape of a catalog is read exactly if the tables of the catalog are
  rectangular. -/
  accepted : ∀ c, IsCatalog c (Json.atoms text.toList) →
    ((∃ c', parse text = .ok c') ↔ c.Rectangular)
  /-- It is then read as this catalog, and no other text is read. -/
  value : ∀ c, parse text = .ok c ↔ IsCatalog c (Json.atoms text.toList) ∧ c.Rectangular
  /-- It is refused for the first row out of width of the first table that has one. -/
  refused : ∀ c, IsCatalog c (Json.atoms text.toList) → ¬ c.Rectangular →
    ∃ fault, parse text = .error fault ∧ TellsTable (c.databases.flatMap (·.tables)) fault
  /-- What is read comes back when it is saved and loaded. -/
  kept : ∀ c s, parse text = .ok c →
    (∀ store : MemoryStore,
      load (save store c s).2 = .ok (c, if s.isValidFor c then s else .empty))
    ∧ ∀ store : FileStore, (save store c s).1 = .ok () →
      load (save store c s).2 = .ok (c, if s.isValidFor c then s else .empty)

/-- **A text of the shape of a catalog is read exactly if every row is in width**, as that catalog,
and is else refused for the first row that is not. -/
theorem decodes (text : String) : Decodes text where
  accepted c hc := by
    rw [parse_eq_checked hc]
    constructor
    · rintro ⟨c', h⟩
      exact (checked_eq_ok.1 h).2
    · intro h
      exact ⟨c, checked_eq_ok.2 ⟨rfl, h⟩⟩
  value c := by
    constructor
    · intro h
      exact ⟨isCatalog_of_parse h, rectangular_of_parse h⟩
    · rintro ⟨hc, hrect⟩
      rw [parse_eq_checked hc]
      exact checked_eq_ok.2 ⟨rfl, hrect⟩
  refused c hc hragged := by
    rw [parse_eq_checked hc]
    cases hchecked : checked c with
    | ok c' => exact absurd (checked_eq_ok.1 hchecked).2 hragged
    | error fault => exact ⟨fault, rfl, tellsTable_of_checked hchecked⟩
  kept c s h := by
    refine ⟨fun store => ?_, fun store hsave => ?_⟩
    · exact load_of_parse h (restores_of_batch (e := store.entries) (fun _ => rfl) fun _ => rfl)
    · exact load_of_parse h (restores_of_batch (e := store.entries) (fun _ => rfl)
        (@FileStore.get?_applyUnder store none (batch c s) hsave))

/-- A table whose rows stand in front of its columns is refused for its second row. -/
example : parse ("[[[\"shop\",[\x7b\"rows\":[[\"x\"],[null,\"y\"]],\"hint\":\x7b\x7d,"
    ++ "\"columns\":[\"a\"],\"name\":\"t\"\x7d]]]]") = .error (.ragged 2 "t" 2 1) := by
  decide +kernel

end SmallSql.Snapshot
