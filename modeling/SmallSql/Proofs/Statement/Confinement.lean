/-
  SmallSql.Proofs.Statement.Confinement
  ────────────────────────────────
  A statement that works inside a database sees nothing but the selected one.  Two catalogs may have
  any other databases, and the selected one at any place and selected in any spelling; as long as it
  is equal in both, every such text has the same result in both:

      c₁ , s₁  ──  text  ──▶  result , c₁' , s₁
       ∥                        ∥        ∥          ∥  equal selected databases
      c₂ , s₂  ──  text  ──▶  result , c₂' , s₂

  `agree_run` is the case analysis; since it restores the relation, the same holds of sequences.
-/
import SmallSql.Proofs.Catalog.Lookup
import SmallSql.Proofs.Statement.Derivation

namespace SmallSql

/-! ## §1. Equal selected databases. -/

/-- A text of a command that works inside the selected database. -/
def IsTableScoped (sql : String) : Prop :=
  ∃ k, Command.ofText sql.toList = .ok k ∧ k.isTableScoped = true

/-- The same result beside two selections: the same error, or the same reply; then nothing is
replaced, or catalogs that the selections find equal databases in. -/
inductive Effect.Agree (s₁ s₂ : Selection) : Except SqlError Effect → Except SqlError Effect → Prop
  | refused (fault : SqlError) : Effect.Agree s₁ s₂ (.error fault) (.error fault)
  | answered (reply : Reply) : Effect.Agree s₁ s₂ (.ok { reply }) (.ok { reply })
  | changed (reply : Reply) {c₁ c₂ : Catalog} {db : Database} (h₁ : s₁.current? c₁ = some db)
      (h₂ : s₂.current? c₂ = some db) :
      Effect.Agree s₁ s₂ (.ok { reply, catalog? := some c₁ }) (.ok { reply, catalog? := some c₂ })

namespace State

/-- The same database is selected in both states, or none in either. -/
def Alike (a b : State) : Prop :=
  a.selection.current? a.catalog = b.selection.current? b.catalog

/-- Two runs, from `a` and from `b`, with the same results; both keep their selection and they end
in states alike. -/
structure RunAlike {α : Type} (a b : State) (x y : α × State) : Prop where
  results : x.1 = y.1
  selection : x.2.selection = a.selection ∧ y.2.selection = b.selection
  alike : x.2.Alike y.2

end State

namespace Statement

variable {c₁ c₂ : Catalog} {s₁ s₂ : Selection}

/-! ## §2. One statement. -/

theorem selectedDatabase_congr (h : s₁.current? c₁ = s₂.current? c₂) :
    selectedDatabase c₁ s₁ = selectedDatabase c₂ s₂ := by
  unfold selectedDatabase
  rw [h]

/-- The checks against the target table are those of the selected database. -/
theorem target_congr (h : s₁.current? c₁ = s₂.current? c₂) (statement : Statement)
    (name : String) : statement.target name c₁ s₁ = statement.target name c₂ s₂ := by
  unfold target
  rw [selectedDatabase_congr h]

/-- Statements agree if they do so after the checks against their target. -/
theorem agree_target {statement : Statement} {name : String}
    {f₁ f₂ : Table → Except SqlError Effect} (h : s₁.current? c₁ = s₂.current? c₂)
    (hf : ∀ db t, s₁.current? c₁ = some db → s₂.current? c₂ = some db → db.table? name = some t →
      Effect.Agree s₁ s₂ (f₁ t) (f₂ t)) :
    Effect.Agree s₁ s₂ (statement.target name c₁ s₁ >>= f₁)
      (statement.target name c₂ s₂ >>= f₂) := by
  rw [← target_congr h]
  cases htarget : statement.target name c₁ s₁ with
  | error fault => exact .refused fault
  | ok t =>
      obtain ⟨db, hdb, ht, -⟩ := target_eq_ok htarget
      exact hf db t hdb (h ▸ hdb) ht

/-- Statements agree if they do so in the selected database. -/
theorem agree_selected {f₁ f₂ : Database → Except SqlError Effect}
    (h : s₁.current? c₁ = s₂.current? c₂)
    (hf : ∀ db, s₁.current? c₁ = some db → s₂.current? c₂ = some db →
      Effect.Agree s₁ s₂ (f₁ db) (f₂ db)) :
    Effect.Agree s₁ s₂ (selectedDatabase c₁ s₁ >>= f₁) (selectedDatabase c₂ s₂ >>= f₂) := by
  rw [← selectedDatabase_congr h]
  cases hselected : selectedDatabase c₁ s₁ with
  | error fault => exact .refused fault
  | ok db =>
      have hdb := selectedDatabase_eq_ok.1 hselected
      exact hf db hdb (h ▸ hdb)

/-- One change of the selected databases, which keeps their name. -/
theorem agree_modifySelected {db : Database} {f : Database → Database} (reply : Reply)
    (h₁ : s₁.current? c₁ = some db) (h₂ : s₂.current? c₂ = some db)
    (hname : (f db).name = db.name) :
    Effect.Agree s₁ s₂ (.ok { reply, catalog? := some (c₁.modifySelected s₁ f) })
      (.ok { reply, catalog? := some (c₂.modifySelected s₂ f) }) :=
  .changed reply (Catalog.current?_modifySelected h₁ hname)
    (Catalog.current?_modifySelected h₂ hname)

/-- **One statement** on tables has the same result, and leaves equal selected databases. -/
theorem agree_run (h : s₁.current? c₁ = s₂.current? c₂) {statement : Statement}
    (hscoped : statement.command.isTableScoped = true) :
    Effect.Agree s₁ s₂ (statement.run c₁ s₁) (statement.run c₂ s₂) := by
  cases statement with
  | select table projection =>
      rw [run_select, run_select]
      exact agree_target h fun db t _ _ _ => .answered _
  | insert table columns tuples =>
      rw [run_insert, run_insert]
      exact agree_target h fun db t h₁ h₂ _ => agree_modifySelected _ h₁ h₂ rfl
  | update table assignments condition =>
      rw [run_update, run_update]
      refine agree_target h fun db t h₁ h₂ _ => ?_
      cases t.updateWhere? (assignedCells assignments t) (isUpdated condition t) with
      | none => exact .refused .outsideRow
      | some written => exact agree_modifySelected _ h₁ h₂ rfl
  | delete table condition =>
      rw [run_delete, run_delete]
      exact agree_target h fun db t h₁ h₂ _ => agree_modifySelected _ h₁ h₂ rfl
  | createTable name columns =>
      rw [run_createTable, run_createTable]
      refine agree_selected h fun db h₁ h₂ => ?_
      by_cases hexists : (db.table? name).isSome = true
      · rw [if_pos hexists, if_pos hexists]
        exact .refused _
      · rw [if_neg hexists, if_neg hexists]
        exact agree_modifySelected _ h₁ h₂ rfl
  | showTables =>
      rw [run_showTables, run_showTables]
      exact agree_selected h fun db _ _ => .answered _
  | dropTable name =>
      rw [run_eq_target rfl, run_eq_target rfl]
      refine agree_target h fun db t h₁ h₂ ht => ?_
      -- carrying it out looks database and table up once more, which finds the same
      show Effect.Agree s₁ s₂ (executeDropTable name c₁ s₁) (executeDropTable name c₂ s₂)
      unfold executeDropTable
      rw [selectedDatabase_eq_ok.2 h₁, selectedDatabase_eq_ok.2 h₂, ok_bind, ok_bind,
        tableIn_eq_ok.2 ht]
      exact agree_modifySelected _ h₁ h₂ rfl
  | createDatabase | use | showDatabases | dropDatabase => cases hscoped

/-! ## §3. Texts. -/

/-- A text that announces a command writes no statement of another. -/
theorem isTableScoped_of_written {sql : String} {statement : Statement} (h : IsTableScoped sql)
    (hwritten : written sql = .ok statement) : statement.command.isTableScoped = true := by
  obtain ⟨k, hk, hscoped⟩ := h
  unfold written at hwritten
  rw [hk, ok_bind] at hwritten
  obtain ⟨ls, tail, -, forms, hrule, -⟩ := read_eq_ok.1 (ofText_eq_ok_iff_read.1 hwritten)
  rw [hrule.command_eq, hscoped]

end Statement

/-- **One text** of a command on tables has the same result, and leaves equal selected databases. -/
theorem Effect.agree_ofText {sql : String} {c₁ c₂ : Catalog} {s₁ s₂ : Selection}
    (h : s₁.current? c₁ = s₂.current? c₂) (hsql : IsTableScoped sql) :
    Effect.Agree s₁ s₂ (Effect.ofText sql c₁ s₁) (Effect.ofText sql c₂ s₂) := by
  rw [Statement.ofText_eq_run, Statement.ofText_eq_run]
  cases hwritten : Statement.written sql with
  | error fault => exact .refused fault
  | ok statement => exact Statement.agree_run h (Statement.isTableScoped_of_written hsql hwritten)

namespace State

variable {a b : State}

/-- Step lemma: a text on tables is executed alike. -/
theorem runAlike_execute (h : a.Alike b) {sql : String} (hsql : IsTableScoped sql) :
    a.RunAlike b (a.execute sql) (b.execute sql) := by
  have hagree : Effect.Agree a.selection b.selection (a.prepare sql) (b.prepare sql) :=
    Effect.agree_ofText h hsql
  unfold execute
  generalize a.prepare sql = first at hagree
  generalize b.prepare sql = second at hagree
  cases hagree with
  | refused fault => exact ⟨rfl, ⟨rfl, rfl⟩, h⟩
  | answered reply => exact ⟨rfl, ⟨rfl, rfl⟩, h⟩
  | changed reply h₁ h₂ => exact ⟨rfl, ⟨rfl, rfl⟩, h₁.trans h₂.symm⟩

/-- Run lemma: texts on tables are executed alike, one after the other. -/
theorem runAlike_executeAll (h : a.Alike b) {sqls : List String}
    (hsqls : ∀ sql ∈ sqls, IsTableScoped sql) :
    a.RunAlike b (a.executeAll sqls) (b.executeAll sqls) := by
  induction sqls generalizing a b with
  | nil => exact ⟨rfl, ⟨rfl, rfl⟩, h⟩
  | cons sql rest ih =>
      have hfirst := runAlike_execute h (hsqls sql List.mem_cons_self)
      have hothers := ih hfirst.alike fun text htext => hsqls text (List.mem_cons_of_mem _ htext)
      unfold executeAll
      dsimp only
      exact ⟨by rw [hfirst.results, hothers.results],
        ⟨hothers.selection.1.trans hfirst.selection.1,
          hothers.selection.2.trans hfirst.selection.2⟩, hothers.alike⟩

/-- **A statement on tables sees only the selected database.**  Beside whatever other databases the
same one is selected, at whatever place and in whatever spelling: a text of such a command has the
same result and replaces no selection, the selected databases are equal again afterwards, and so it
is with every sequence of such texts. -/
theorem seesOnlySelected (h : a.Alike b) :
    (∀ sql, IsTableScoped sql →
      Effect.Agree a.selection b.selection (Effect.ofText sql a.catalog a.selection)
        (Effect.ofText sql b.catalog b.selection))
      ∧ ∀ sqls : List String, (∀ sql ∈ sqls, IsTableScoped sql) →
        a.RunAlike b (a.executeAll sqls) (b.executeAll sqls) :=
  ⟨fun _ hsql => Effect.agree_ofText h hsql, fun _ hsqls => runAlike_executeAll h hsqls⟩

/-- A database by itself. -/
def shopAlone : State where
  catalog := ⟨[⟨"shop", [⟨"notes", ["id"], [[.text "1"]]⟩]⟩]⟩
  selection := .of "SHOP"

/-- The same database between two others, of which one has the same name. -/
def shopAmongOthers : State where
  catalog := ⟨[⟨"archive", [⟨"orders", ["id"], []⟩]⟩,
    ⟨"shop", [⟨"notes", ["id"], [[.text "1"]]⟩]⟩, ⟨"Shop", []⟩]⟩
  selection := .of "sHop"

/-- A row is added, and a table is looked for that only another database has. -/
def shopTexts : List String :=
  ["INSERT INTO notes (id) VALUES (2);", "DROP TABLE orders;", "SHOW TABLES;"]

theorem seesOnlySelected_shop :
    shopAlone.Alike shopAmongOthers ∧ (∀ sql ∈ shopTexts, IsTableScoped sql)
      ∧ (shopAlone.executeAll shopTexts).2.catalog
        = ⟨[⟨"shop", [⟨"notes", ["id"], [[.text "1"], [.text "2"]]⟩]⟩]⟩
      ∧ shopAlone.RunAlike shopAmongOthers (shopAlone.executeAll shopTexts)
        (shopAmongOthers.executeAll shopTexts) := by
  have halike : shopAlone.Alike shopAmongOthers := by
    unfold Alike
    decide +kernel
  have hscoped : ∀ sql ∈ shopTexts, IsTableScoped sql := by
    intro sql hsql
    simp only [shopTexts, List.mem_cons, List.not_mem_nil, or_false] at hsql
    rcases hsql with rfl | rfl | rfl
    · exact ⟨.insert, by decide +kernel, rfl⟩
    · exact ⟨.dropTable, by decide +kernel, rfl⟩
    · exact ⟨.showTables, by decide +kernel, rfl⟩
  exact ⟨halike, hscoped, by decide +kernel, (seesOnlySelected halike).2 _ hscoped⟩

end State

end SmallSql
