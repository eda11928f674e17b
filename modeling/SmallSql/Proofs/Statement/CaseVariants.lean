/-
  SmallSql.Proofs.Statement.CaseVariants
  ────────────────────────────────
  A created name, looked up under another spelling.  Once `a` names a database or a table, every
  name that is the same finds it,

      CREATE a   ──▶   USE b, DROP b, SELECT … FROM b, …      carried out on what `a` names
                       CREATE b                               refused

  and `Text.lowercase_eq_iff` says which case variants of `a` are the same name: all of them, but
  for a capital sigma at the end of a word in one of the two that is a small one in the other.
-/
import SmallSql.Proofs.Statement.Respelling
import SmallSql.Proofs.Statement.Sufficiency
import SmallSql.Proofs.Catalog.Lookup
import SmallSql.Proofs.Text.Lower

namespace SmallSql

/-! ## §1. What stands last in a list. -/

section Last

variable {α : Type} {wanted : α → Bool} {l : List α} {a : α}

/-- A new element that is wanted is found if none was before. -/
theorem find?_concat (hnone : l.find? wanted = none) (ha : wanted a = true) :
    (l ++ [a]).find? wanted = some a := by
  rw [List.find?_append, hnone, Option.none_or, List.find?_cons_of_pos ha]

/-- A new element that is wanted goes again if none was before. -/
theorem eraseP_concat (hnone : l.find? wanted = none) (ha : wanted a = true) :
    (l ++ [a]).eraseP wanted = l := by
  have hold : ∀ b ∈ l, ¬ wanted b = true := List.find?_eq_none.1 hnone
  rw [List.eraseP_append_right _ hold, List.eraseP_cons_of_pos ha, List.append_nil]

end Last

namespace Statement

variable {a b : String} {c : Catalog} {s : Selection} {e : Effect} {columns : List String}

/-! ## §2. A new database. -/

/-- The database of the name `a` that turned the catalog `c` into `c'` is what statements on the
name `b` are about. -/
structure FindsDatabase (c c' : Catalog) (a b : String) : Prop where
  /-- USE selects it, by its stored name. -/
  use : ∀ s, ∃ e, (use b).run c' s = .ok e ∧ e.selection? = some (.of a)
  /-- DROP DATABASE takes it away again. -/
  drop : ∀ s, ∃ e, (dropDatabase b).run c' s = .ok e ∧ e.catalog? = some c
  /-- CREATE DATABASE is refused. -/
  taken : ∀ s, (createDatabase b).run c' s = .error (.databaseAlreadyExists b)

/-- A new database is found under every name that is the same. -/
theorem findsDatabase_of_run (hn : sameName a b = true) (h : (createDatabase a).run c s = .ok e) :
    ∃ c', e.catalog? = some c' ∧ FindsDatabase c c' a b := by
  rw [run_createDatabase] at h
  split at h
  · cases h
  · next hfree =>
    cases h
    have hnone : c.database? b = none := by
      rw [← Catalog.database?_congr hn]
      exact Option.not_isSome_iff_eq_none.1 hfree
    have hfound : (c.addDatabase { name := a }).database? b = some { name := a } :=
      find?_concat hnone hn
    have hgone : (c.addDatabase { name := a }).removeDatabase b = c :=
      congrArg Catalog.mk (eraseP_concat hnone hn)
    refine ⟨_, rfl, fun s => ?_, fun s => ?_, fun s => ?_⟩
    · rw [run_use]
      unfold executeUse
      rw [hfound]
      exact ⟨_, rfl, rfl⟩
    · rw [run_dropDatabase]
      unfold executeDropDatabase
      rw [hfound, hgone]
      exact ⟨_, rfl, rfl⟩
    · rw [run_createDatabase, if_pos]
      unfold Catalog.hasDatabase
      rw [hfound]
      rfl

/-! ## §3. A new table. -/

/-- The new table of the name `a` with these columns is what statements on the name `b` are
about. -/
structure FindsTable (c' : Catalog) (s : Selection) (a b : String) (columns : List String) :
    Prop where
  /-- SELECT, INSERT, UPDATE, DELETE and DROP TABLE have it as their target and are carried out. -/
  found : ∀ statement : Statement, statement.targetTable? = some b →
    (∀ n ∈ statement.namedColumns, n ∈ columns) → checkTuples statement = .ok () →
      statement.target b c' s = .ok { name := a, columns } ∧ ∃ e, statement.run c' s = .ok e
  /-- CREATE TABLE is refused. -/
  taken : ∀ columns', ∃ database,
    (createTable b columns').run c' s = .error (.tableAlreadyExists b database)

/-- A new table is found under every name that is the same. -/
theorem findsTable_of_run (hn : sameName a b = true) (h : (createTable a columns).run c s = .ok e) :
    ∃ c', e.catalog? = some c' ∧ FindsTable c' s a b columns := by
  rw [run_createTable] at h
  obtain ⟨db, hdb, h⟩ := bind_eq_ok.1 h
  split at h
  · cases h
  · next hfree =>
    cases h
    have hnone : db.table? b = none := by
      rw [← Database.table?_congr hn]
      exact Option.not_isSome_iff_eq_none.1 hfree
    have hfound : (db.addTable { name := a, columns }).table? b = some { name := a, columns } :=
      find?_concat hnone hn
    -- the selected database keeps its name, so it is still the selected one
    have hselected := Catalog.current?_modifySelected (f := (·.addTable { name := a, columns }))
      (selectedDatabase_eq_ok.1 hdb) rfl
    refine ⟨_, rfl, fun statement htarget hcolumns htuples => ?_, fun columns' => ⟨db.name, ?_⟩⟩
    · have ht := target_eq_ok_of hselected hfound hcolumns htuples
      have hrows : Table.Rectangular { name := a, columns } := by
        intro row hrow
        cases hrow
      exact ⟨ht, run_of_rectangular htarget hrows ht⟩
    · rw [run_createTable, selectedDatabase_eq_ok.2 hselected, ok_bind, if_pos]
      · rfl
      · rw [hfound]
        rfl

/-! ## §4. Case variants. -/

/-- What two spellings are to each other that differ in case only. -/
structure CaseVariantLaws (a b : String) : Prop where
  /-- They are the same name, if the capital sigmas that end a word in one of them are capital
  sigmas in the other, and else they are two names. -/
  same_iff : sameName a b = true ↔ ∀ i, Text.endsWord a.toList i = true →
    (a.toList[i]? = some Text.capitalSigma ↔ b.toList[i]? = some Text.capitalSigma)
  /-- If they are the same name, a new database of the one is found under the other. -/
  database : sameName a b = true → ∀ {c s e}, (createDatabase a).run c s = .ok e →
    ∃ c', e.catalog? = some c' ∧ FindsDatabase c c' a b
  /-- If they are the same name, a new table of the one is found under the other. -/
  table : sameName a b = true → ∀ {c s e columns}, (createTable a columns).run c s = .ok e →
    ∃ c', e.catalog? = some c' ∧ FindsTable c' s a b columns

/-- **Case variants are the same name up to capital sigmas at the end of words**, and what is
created under a name is found under all that are the same. -/
theorem caseVariantLaws (h : Text.CaseVariants a.toList b.toList) : CaseVariantLaws a b where
  same_iff := sameName_iff.trans (Text.lowercase_eq_iff h)
  database hn := findsDatabase_of_run hn
  table hn := findsTable_of_run hn

/-- Two spellings with a capital sigma where the word ends, and letters in either case before it. -/
theorem caseVariantLaws_street :
    Text.CaseVariants "ΟΔΟΣ".toList "οδοΣ".toList ∧ sameName "ΟΔΟΣ" "οδοΣ" = true
      ∧ CaseVariantLaws "ΟΔΟΣ" "οδοΣ" := by
  have h : Text.CaseVariants "ΟΔΟΣ".toList "οδοΣ".toList := by
    unfold Text.CaseVariants
    decide +kernel
  exact ⟨h, by decide +kernel, caseVariantLaws h⟩

/-- Two case variants that are two names: a database created under the one is not found under the
other, and the other can be created beside it. -/
theorem capitalSigma_apart :
    Text.CaseVariants "ΑΣ".toList "Ασ".toList ∧ "ΑΣ".length = "Ασ".length
      ∧ sameName "ΑΣ" "Ασ" = false
      ∧ (createDatabase "ΑΣ").run {} .empty = .ok (executeCreateDatabase "ΑΣ" {})
      ∧ (use "Ασ").run ⟨[⟨"ΑΣ", []⟩]⟩ .empty = .error (.databaseNotFound "Ασ")
      ∧ (createDatabase "Ασ").run ⟨[⟨"ΑΣ", []⟩]⟩ .empty
        = .ok (executeCreateDatabase "Ασ" ⟨[⟨"ΑΣ", []⟩]⟩) := by
  have h : Text.CaseVariants "ΑΣ".toList "Ασ".toList := by
    unfold Text.CaseVariants
    decide +kernel
  have hmissing : (⟨[⟨"ΑΣ", []⟩]⟩ : Catalog).database? "Ασ" = none := by decide +kernel
  refine ⟨h, by decide, by decide +kernel, ?_, ?_, ?_⟩
  · rw [run_createDatabase]
    exact if_neg (by decide)
  · rw [run_use]
    unfold executeUse
    rw [hmissing]
  · rw [run_createDatabase]
    unfold Catalog.hasDatabase
    rw [hmissing]
    exact if_neg (by decide)

end Statement

end SmallSql
