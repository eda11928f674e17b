/-
  SmallSql.Proofs.State.Scratch
  ────────────────────────────────
  A scratch database: made, selected, worked in and dropped.  While it is there, the state is

      catalog     base ++ [scratch]
      selection   scratch, by its stored name

  and no database of `base` answers to that name, however often `base` repeats its own.  So every
  look-up of the selection passes `base` by, whatever is done inside the selected database is done
  behind `base`, and the removal at the end takes the database that was put there.
-/
import SmallSql.Proofs.Statement.EitherOrder
import SmallSql.Proofs.Statement.Yield

namespace SmallSql

/-! ## §1. Running statements. -/

namespace Statement

/-- A statement that works inside the selected database, or shows the databases. -/
def StaysInside (statement : Statement) : Prop :=
  statement.command.isTableScoped = true ∨ statement = .showDatabases

/-- The statement that a text writes, if it writes one. -/
def written? (sql : String) : Option Statement := (written sql).toOption

theorem written?_of_ok {sql : String} {statement : Statement} (h : written sql = .ok statement) :
    written? sql = some statement := by
  unfold written?
  rw [h]
  rfl

theorem written?_of_error {sql : String} {fault : SqlError} (h : written sql = .error fault) :
    written? sql = none := by
  unfold written?
  rw [h]
  rfl

end Statement

namespace State

/-- The state after statements, one after the other. -/
def performAll (s : State) (statements : List Statement) : State :=
  statements.foldl (fun s statement => (s.perform statement).2) s

theorem performAll_append (s : State) (first second : List Statement) :
    s.performAll (first ++ second) = (s.performAll first).performAll second :=
  List.foldl_append

/-- A statement that is carried out leaves the state that its effect gives. -/
theorem perform_of_run {s : State} {statement : Statement} {e : Effect}
    (h : statement.run s.catalog s.selection = .ok e) : (s.perform statement).2 = s.apply e := by
  unfold perform
  rw [h]

/-- Texts lead where the statements lead that they write; the others lead nowhere. -/
theorem executeAll_eq_performAll (s : State) (sqls : List String) :
    (s.executeAll sqls).2 = s.performAll (sqls.filterMap Statement.written?) := by
  induction sqls generalizing s with
  | nil => rfl
  | cons sql rest ih =>
      show ((s.execute sql).2.executeAll rest).2 = _
      rw [ih]
      cases h : Statement.written sql with
      | ok statement =>
          rw [List.filterMap_cons_some (Statement.written?_of_ok h), Statement.execute_of_written h]
          rfl
      | error fault =>
          rw [List.filterMap_cons_none (Statement.written?_of_error h),
            Statement.execute_of_not_written h]

/-! ## §2. While the scratch database is there. -/

/-- One database more than `base` has, behind the others, of a name that none of them has; it is
selected by that name. -/
structure HasScratch (s : State) (base : List Database) (name : String) : Prop where
  last : ∃ tables, s.catalog.CutAt name base { name, tables } []
  selected : s.selection = .of name

variable {s : State} {base : List Database} {name : String}

/-- Whatever is made of its tables, the scratch database is there. -/
theorem HasScratch.modifySelected (h : s.HasScratch base name) {f : Database → Database}
    (hf : ∀ db, (f db).name = db.name) :
    ({ s with catalog := s.catalog.modifySelected s.selection f } : State).HasScratch base
      name := by
  obtain ⟨tables, hcut⟩ := h.last
  have hselected : s.selection.name? = some name := by rw [h.selected]; rfl
  -- the name is kept, so what is made of it is it again with other tables
  have hmade : f { name, tables } = { name, tables := (f { name, tables }).tables } :=
    congrArg (Database.mk · (f { name, tables }).tables) (hf { name, tables })
  refine ⟨⟨(f { name, tables }).tables, ?_, sameName_refl name, hcut.noneEarlier⟩, h.selected⟩
  show (s.catalog.modifySelected s.selection f).databases = _
  rw [Catalog.modifySelected_of_cutAt hselected hcut]
  exact congrArg (base ++ [·]) hmade

/-- Step lemma: a statement that stays inside leaves the scratch database there, accepted or
refused. -/
theorem HasScratch.perform (h : s.HasScratch base name) {statement : Statement}
    (hstays : statement.StaysInside) : (s.perform statement).2.HasScratch base name := by
  cases hrun : statement.run s.catalog s.selection with
  | error fault =>
      unfold State.perform
      rw [hrun]
      exact h
  | ok e =>
      rw [perform_of_run hrun]
      have hyields := Statement.run_yields hrun
      unfold State.apply
      generalize e.catalog? = catalog? at hyields
      generalize e.selection? = selection? at hyields
      cases hyields with
      | nothing => exact h
      | createTable | dropTable => exact h.modifySelected fun _ => rfl
      | rows _ table _ _ _ _ _ _ _ _ _ =>
          rw [Catalog.setTable_eq]
          exact h.modifySelected fun _ => rfl
      -- a statement on whole databases does not stay inside
      | createDatabase | use | dropDatabase =>
          rcases hstays with hscoped | hshow
          · cases hscoped
          · cases hshow

/-- Run lemma: however many statements stay inside, the scratch database is there. -/
theorem HasScratch.performAll (h : s.HasScratch base name) {script : List Statement}
    (hscript : ∀ statement ∈ script, statement.StaysInside) :
    (s.performAll script).HasScratch base name := by
  induction script generalizing s with
  | nil => exact h
  | cons first rest ih =>
      have hfirst := h.perform (hscript first List.mem_cons_self)
      exact ih hfirst fun statement hmem => hscript statement (List.mem_cons_of_mem _ hmem)

/-! ## §3. Making it and dropping it. -/

/-- CREATE DATABASE is accepted only if no database has the name. -/
theorem free_of_perform_createDatabase {reply : Reply}
    (h : (s.perform (.createDatabase name)).1 = .ok reply) :
    s.catalog.hasDatabase name = false := by
  unfold perform at h
  rw [Statement.run_createDatabase] at h
  cases hexists : s.catalog.hasDatabase name with
  | false => rfl
  | true =>
      rw [hexists] at h
      cases h

/-- A database that is made under a free name and selected is a scratch database. -/
theorem hasScratch_of_free (hfree : s.catalog.hasDatabase name = false) :
    (s.performAll [.createDatabase name, .use name]).HasScratch s.catalog.databases name := by
  have hapart : ∀ db ∈ s.catalog.databases, ¬ sameName db.name name = true := by
    intro db hdb hname
    rw [Catalog.hasDatabase_iff.2 ⟨db, hdb, hname⟩] at hfree
    cases hfree
  have hcut : (s.catalog.addDatabase { name }).CutAt name s.catalog.databases { name } [] :=
    ⟨rfl, sameName_refl name, hapart⟩
  have hfound : (s.catalog.addDatabase { name }).database? name = some { name } := hcut.find?_eq
  -- USE looks the name up behind all others, where it has just been put
  have hcreate : (Statement.createDatabase name).run s.catalog s.selection
      = .ok (Statement.executeCreateDatabase name s.catalog) := by
    rw [Statement.run_createDatabase, hfree]
    rfl
  have huse : (Statement.use name).run (s.catalog.addDatabase { name }) s.selection
      = .ok {
        reply := { command := .use, message := "Using database '" ++ name ++ "'" }
        selection? := some (.of name) } := by
    rw [Statement.run_use]
    unfold Statement.executeUse
    rw [hfound]
  show ((s.perform (.createDatabase name)).2.perform (.use name)).2.HasScratch _ _
  rw [perform_of_run hcreate, perform_of_run (s := s.apply _) huse]
  exact ⟨⟨[], hcut⟩, rfl⟩

/-- Dropping the scratch database, in any spelling of its name, leaves the others, and nothing
selected. -/
theorem HasScratch.perform_dropDatabase (h : s.HasScratch base name) {spelling : String}
    (hspelling : sameName name spelling = true) :
    (s.perform (.dropDatabase spelling)).2 = { catalog := ⟨base⟩, selection := .empty } := by
  obtain ⟨tables, hcut⟩ := h.last
  -- the two spellings find the same databases
  have hcut' : s.catalog.CutAt spelling base { name, tables } [] :=
    ⟨hcut.cut, hspelling, fun db hdb hname =>
      hcut.noneEarlier db hdb (sameName_trans hname (sameName_symm hspelling))⟩
  have hfound : s.catalog.database? spelling = some { name, tables } := hcut'.find?_eq
  have hremoved : s.catalog.removeDatabase spelling = ⟨base⟩ := by
    have herased := hcut'.eraseP_eq
    rw [List.append_nil] at herased
    exact congrArg Catalog.mk herased
  have hselected : s.selection.name?.any (sameName · name) = true := by
    rw [h.selected]
    exact sameName_refl name
  unfold State.perform
  rw [Statement.run_dropDatabase]
  unfold Statement.executeDropDatabase
  rw [hfound]
  dsimp only [apply]
  rw [hremoved, if_pos hselected]
  rfl

/-! ## §4. No trace. -/

/-- A database is made and selected, the script is run, and the database is dropped. -/
def inScratch (name : String) (script : List Statement) (spelling : String) : List Statement :=
  [.createDatabase name, .use name] ++ script ++ [.dropDatabase spelling]

/-- **A scratch database leaves no trace.**  Where CREATE DATABASE is accepted, a run that makes and
selects the database, does anything inside it, accepted or refused, and drops it in any spelling of
its name, ends with the catalog that it started from and with nothing selected; and so does every
run of texts that write these statements, whatever texts stand between them that write none. -/
theorem leaves_no_trace {script : List Statement} {spelling : String} {reply : Reply}
    (hcreate : (s.perform (.createDatabase name)).1 = .ok reply)
    (hscript : ∀ statement ∈ script, statement.StaysInside)
    (hspelling : sameName name spelling = true) :
    s.performAll (inScratch name script spelling) = { s with selection := .empty }
      ∧ ∀ sqls : List String,
        sqls.filterMap Statement.written? = inScratch name script spelling →
        (s.executeAll sqls).2 = { s with selection := .empty } := by
  have hmade := hasScratch_of_free (free_of_perform_createDatabase hcreate)
  have hworked := hmade.performAll hscript
  have hstate : s.performAll (inScratch name script spelling) = { s with selection := .empty } := by
    unfold inScratch
    rw [performAll_append, performAll_append]
    exact hworked.perform_dropDatabase hspelling
  refine ⟨hstate, fun sqls hsqls => ?_⟩
  rw [executeAll_eq_performAll, hsqls]
  exact hstate

/-- Two databases of one name, one of them selected. -/
def twoShops : State where
  catalog := ⟨[⟨"shop", [⟨"notes", ["id"], [[.text "1"]]⟩]⟩, ⟨"Shop", []⟩]⟩
  selection := .of "SHOP"

/-- In the scratch database a table is made, filled and dropped; a table is asked for that only
another database has; and one text writes nothing. -/
def scratchTexts : List String :=
  ["CREATE DATABASE Draft;", "USE Draft;", "CREATE TABLE t (id);",
   "INSERT INTO t (id) VALUES (7);", "DELETE FROM notes WHERE id = 1;", "SHOW DATABASES;",
   "DELETE FROM;", "DROP TABLE T;", "DROP DATABASE dRAFT;"]

/-- The statements between USE and DROP DATABASE. -/
def scratchScript : List Statement :=
  [.createTable "t" ["id"], .insert "t" ["id"] [[.text "7"]],
   .delete "notes" ⟨"id", .eq, .text "1"⟩, .showDatabases, .dropTable "T"]

theorem leaves_no_trace_twoShops :
    (∃ reply, (twoShops.perform (.createDatabase "Draft")).1 = .ok reply)
      ∧ (∀ statement ∈ scratchScript, statement.StaysInside)
      ∧ sameName "Draft" "dRAFT" = true
      ∧ scratchTexts.filterMap Statement.written? = inScratch "Draft" scratchScript "dRAFT"
      ∧ (twoShops.executeAll scratchTexts).2 = { twoShops with selection := .empty } := by
  have hcreate : (twoShops.perform (.createDatabase "Draft")).1
      = .ok ⟨.createDatabase, "Database 'Draft' created successfully", none, none, none⟩ := by
    decide +kernel
  have hscript : ∀ statement ∈ scratchScript, statement.StaysInside := by
    intro statement hmem
    simp only [scratchScript, List.mem_cons, List.not_mem_nil, or_false] at hmem
    rcases hmem with rfl | rfl | rfl | rfl | rfl
    case inr.inr.inr.inl => exact .inr rfl
    all_goals exact .inl rfl
  have hspelling : sameName "Draft" "dRAFT" = true := by decide +kernel
  have hwritten : scratchTexts.filterMap Statement.written?
      = inScratch "Draft" scratchScript "dRAFT" := by decide +kernel
  exact ⟨⟨_, hcreate⟩, hscript, hspelling, hwritten,
    (leaves_no_trace hcreate hscript hspelling).2 _ hwritten⟩

end State

end SmallSql
