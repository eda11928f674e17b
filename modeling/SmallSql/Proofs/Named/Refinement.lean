/-
  SmallSql.Proofs.Named.Refinement
  ────────────────────────────────
  The interpreter, which resolves columns to positions and keeps rows as lists, refines the
  statements over named rows.  Stored in a state, a world refuses and answers as the interpreter
  does, and the state after a statement stores the world after it:

      world ──perform──▶ world'
        │ stored            │ stored
        ▼                   ▼
      state ──execute──▶ state'

  Step lemma `run_agrees`, one case for each statement; run lemma `executeAll_stored`; and for the
  empty start `executeAll_mirrors`, in which a row is the list of the cells of its record.
-/
import Mathlib.Data.List.Forall2
import SmallSql.Proofs.Named.Stored
import SmallSql.Proofs.State.Invariant

namespace SmallSql

/-! ## §1. Checks. -/

/-- A check that passes where `passes` says so, and fails with an error of this kind elsewhere. -/
def ChecksAs (passes : Bool) (kind : ErrorKind) (check : Except SqlError Unit) : Prop :=
  match passes with
  | true => check = .ok ()
  | false => ∃ fault, check = .error fault ∧ fault.kind = kind

theorem Table.require_checksAs (t : Table) (names : List String) :
    ChecksAs (names.all t.columns.contains) .unknownColumn (t.require names) := by
  have hiff : names.all t.columns.contains = true ↔ t.require names = .ok () := by
    rw [require_eq_ok, List.all_eq_true]
    simp
  cases hp : names.all t.columns.contains with
  | true => exact hiff.1 hp
  | false =>
      unfold require
      by_cases he : (t.unknown names).isEmpty = true
      · rw [unknown_isEmpty_iff, ← require_eq_ok, ← hiff, hp] at he
        cases he
      · rw [if_neg he]
        exact ⟨_, rfl, rfl⟩

namespace Statement

theorem checkTuples_checksAs (statement : Statement) :
    ChecksAs (World.tuplesFit statement) .arityMismatch (checkTuples statement) := by
  cases statement with
  | insert table columns tuples =>
      unfold World.tuplesFit checkTuples
      dsimp only
      cases hm : misfit? columns.length 1 tuples with
      | none =>
          rw [misfit?_eq_none.1 hm]
          rfl
      | some p =>
          cases hp : tuples.all fun tuple => tuple.length == columns.length with
          | true =>
              rw [misfit?_eq_none.2 hp] at hm
              cases hm
          | false => exact ⟨_, rfl, rfl⟩
  | select | update | delete | createDatabase | use | createTable | showDatabases | showTables
    | dropDatabase | dropTable => rfl

end Statement

namespace World

variable {w : World} {statement : Statement}

/-- What an outcome of the interpreter has in common with a statement over named rows. -/
def Agrees (w : World) (statement : Statement) (outcome : Except SqlError Effect) : Prop :=
  match outcome with
  | .error fault => w.refusal? statement = some fault.kind
  | .ok e => w.refusal? statement = none
      ∧ w.answer statement = ⟨e.reply.columns, e.reply.rows, e.reply.affected⟩
      ∧ (w.after statement).stored = w.stored.apply e
      ∧ ∀ schema ∈ (w.after statement).schemas, schema.IsCovered

/-- The checks that every statement about a table passes. -/
theorem checks_of_target {name : String} (h : statement.targetTable? = some name) :
    w.checks statement = [
      (w.schema?.isSome, .noDatabaseSelected), (true, .tableAlreadyExists),
      ((w.relation? name).any fun _ => true, .tableNotFound),
      ((w.relation? name).any fun r => statement.namedColumns.all r.columns.contains,
        .unknownColumn),
      (tuplesFit statement, .arityMismatch), (true, .databaseAlreadyExists),
      (true, .databaseNotFound)] := by
  unfold checks targetPasses
  rw [h]
  cases statement <;> cases h <;> rfl

/-- Where the table is there, the columns and then the tuples decide. -/
theorem refusal?_of_relation {name : String} (h : statement.targetTable? = some name)
    {schema : Schema} {r : Relation} (hs : w.schema? = some schema)
    (hr : schema.relation? name = some r) :
    w.refusal? statement
      = if statement.namedColumns.all r.columns.contains = true then
          if tuplesFit statement = true then none else some .arityMismatch
        else some .unknownColumn := by
  unfold refusal?
  rw [checks_of_target h]
  unfold relation?
  rw [hs]
  cases hc : statement.namedColumns.all r.columns.contains <;>
    cases tuplesFit statement <;> simp [hr, hc]

/-- For a statement that is about no table, the names of databases and of new tables decide. -/
theorem refusal?_untargeted (h : statement.targetTable? = none) :
    w.refusal? statement
      = if (!statement.command.isTableScoped || w.schema?.isSome) = false then
          some .noDatabaseSelected
        else if w.tableIsFree statement = false then some .tableAlreadyExists
        else if w.databaseIsFree statement = false then some .databaseAlreadyExists
        else if w.databaseExists statement = false then some .databaseNotFound
        else none := by
  have hfit : tuplesFit statement = true := by
    cases statement <;> first | rfl | cases h
  unfold refusal? checks targetPasses
  rw [h, hfit]
  cases !statement.command.isTableScoped || w.schema?.isSome <;>
    cases w.tableIsFree statement <;> cases w.databaseIsFree statement <;>
    cases w.databaseExists statement <;> rfl

/-- A statement about a table goes through the checks of both sides in the same way. -/
theorem target_agrees {name : String} (h : statement.targetTable? = some name)
    {f : Table → Except SqlError Effect}
    (hf : ∀ schema r, w.schema? = some schema → schema.relation? name = some r →
      (∀ n ∈ statement.namedColumns, n ∈ r.columns) → w.refusal? statement = none →
      w.Agrees statement (f r.stored)) :
    w.Agrees statement (do
      let t ← statement.target name w.catalog w.selection
      f t) := by
  unfold Statement.target selectedDatabase tableIn
  rw [current?_stored]
  -- the checks one after the other; where one fails, both sides stop with its error
  cases hs : w.schema? with
  | none =>
      show w.refusal? statement = some .noDatabaseSelected
      simp [refusal?, checks_of_target h, hs]
  | some schema =>
      simp only [Option.map_some, ok_bind, Schema.table?_stored]
      cases hr : schema.relation? name with
      | none =>
          show w.refusal? statement = some .tableNotFound
          simp [refusal?, checks_of_target h, hs, relation?, hr]
      | some r =>
          simp only [Option.map_some, ok_bind]
          have hrefusal := refusal?_of_relation h hs hr
          have hcolumns := r.stored.require_checksAs statement.namedColumns
          have htuples := statement.checkTuples_checksAs
          change ChecksAs (statement.namedColumns.all r.columns.contains) _ _ at hcolumns
          cases hc : statement.namedColumns.all r.columns.contains with
          | false =>
              rw [hc] at hcolumns
              obtain ⟨fault, hfault, hkind⟩ := hcolumns
              rw [hfault]
              show w.refusal? statement = some fault.kind
              rw [hrefusal, hc, hkind]
              rfl
          | true =>
              rw [hc] at hcolumns
              change r.stored.require statement.namedColumns = .ok () at hcolumns
              rw [hcolumns, ok_bind]
              cases ht : tuplesFit statement with
              | false =>
                  rw [ht] at htuples
                  obtain ⟨fault, hfault, hkind⟩ := htuples
                  rw [hfault]
                  show w.refusal? statement = some fault.kind
                  rw [hrefusal, hc, ht, hkind]
                  rfl
              | true =>
                  rw [ht] at htuples
                  change Statement.checkTuples statement = .ok () at htuples
                  rw [htuples]
                  refine hf schema r hs hr (Table.require_eq_ok.1 hcolumns) ?_
                  rw [hrefusal, hc, ht]
                  rfl

/-! ## §2. Statements on the rows of a table. -/

/-- Putting the stored table in the place of the old one stores the changed world. -/
theorem Sound.modifyRelation (hw : w.Sound) {schema : Schema} {name : String} {r : Relation}
    (hs : w.schema? = some schema) (hr : schema.relation? name = some r)
    {f : Relation → Relation} {t : Table} (ht : (f r).stored = t) (hcovered : (f r).IsCovered) :
    (w.modifyRelation name f).stored
        = ⟨w.catalog.setTable w.selection name t, w.selection⟩
      ∧ ∀ schema ∈ (w.modifyRelation name f).schemas, schema.IsCovered := by
  have hmem := mem_of_schema? hs
  constructor
  · have hcatalog : (w.modifyRelation name f).catalog
        = w.catalog.setTable w.selection name t := by
      rw [Catalog.setTable_eq]
      apply hw.catalog_modifySelected
      intro schema' hs'
      rw [Option.some.inj (hs'.symm.trans hs)]
      apply hw.stored_modifyRelation hmem
      intro r' hr'
      rw [Option.some.inj (hr'.symm.trans hr), ht]
    show State.mk (w.modifyRelation name f).catalog w.selection = _
    rw [hcatalog]
  · apply hw.covered_modifySelected
    intro schema' hs'
    rw [Option.some.inj (hs'.symm.trans hs)]
    refine forall_mem_map_ite (hw.covered schema hmem) fun r' hr' hname => ?_
    have hfound := hw.relation?_of_mem hmem hr' hname
    rw [Option.some.inj (hfound.symm.trans hr)]
    exact hcovered

/-- The records of the table that a statement is about. -/
theorem records_eq {schema : Schema} {name : String} {r : Relation} (hs : w.schema? = some schema)
    (hr : schema.relation? name = some r) : w.records name = r.records := by
  unfold records relation?
  rw [hs, Option.bind_some, hr]
  rfl

theorem Sound.select_agrees (hw : w.Sound) (table : String) (projection : Projection) :
    w.Agrees (.select table projection)
      ((Statement.select table projection).run w.catalog w.selection) := by
  rw [Statement.run_select]
  apply target_agrees rfl
  intro schema r hs hr hnames hrefusal
  -- the columns that are shown are those of the table, or those that are named
  have hshown : w.shownColumns table projection = projection.columnsIn r.stored := by
    cases projection with
    | all =>
        unfold shownColumns relation?
        rw [hs, Option.bind_some, hr]
        rfl
    | columns names => rfl
  have hcolumns : ∀ name ∈ projection.columnsIn r.stored, name ∈ r.stored.columns := by
    cases projection with
    | all => exact fun _ hname => hname
    | columns names => exact hnames
  refine ⟨hrefusal, ?_, rfl, hw.covered⟩
  show (⟨some (w.shownColumns table projection), some ((w.records table).map _), none⟩ : Answer)
    = ⟨some (projection.columnsIn r.stored), some ((r.records.map _).map _), none⟩
  rw [hshown, records_eq hs hr, List.map_map]
  congr 2
  apply List.map_congr_left
  intro record _
  exact (Table.placesIn_row hcolumns).symm

theorem Sound.insert_agrees (hw : w.Sound) (table : String) (columns : List String)
    (tuples : List (List Cell)) :
    w.Agrees (.insert table columns tuples)
      ((Statement.insert table columns tuples).run w.catalog w.selection) := by
  rw [Statement.run_insert]
  apply target_agrees rfl
  intro schema r hs hr hnames hrefusal
  have hr' := List.mem_of_find?_eq_some hr
  have hnodup := hw.columns_nodup (mem_of_schema? hs) hr'
  have hcovered := hw.covered schema (mem_of_schema? hs) r hr'
  obtain ⟨hstored, hcovers⟩ := hw.modifyRelation hs hr (f := (·.insert columns tuples))
    (Relation.stored_insert hnodup hnames tuples) (hcovered.insert columns tuples)
  refine ⟨hrefusal, ?_, hstored, hcovers⟩
  show (⟨none, none, some tuples.length⟩ : Answer)
    = ⟨none, none, some (tuples.map _).length⟩
  rw [List.length_map]

theorem Sound.update_agrees (hw : w.Sound) (table : String)
    (assignments : List (String × Cell)) (condition : Condition) :
    w.Agrees (.update table assignments condition)
      ((Statement.update table assignments condition).run w.catalog w.selection) := by
  rw [Statement.run_update]
  apply target_agrees rfl
  intro schema r hs hr hnames hrefusal
  have hr' := List.mem_of_find?_eq_some hr
  have hnodup := hw.columns_nodup (mem_of_schema? hs) hr'
  have hcovered := hw.covered schema (mem_of_schema? hs) r hr'
  have hassigned : ∀ p ∈ assignments, p.1 ∈ r.columns := fun p hp =>
    hnames p.1 (List.mem_append_left _ (List.mem_map_of_mem hp))
  have hcondition : condition.column ∈ r.columns :=
    hnames condition.column (List.mem_append_right _ List.mem_cons_self)
  rw [Relation.stored_update hnodup hcovered hassigned hcondition]
  obtain ⟨hstored, hcovers⟩ := hw.modifyRelation hs hr (f := (·.update assignments condition)) rfl
    (hcovered.update hassigned condition)
  refine ⟨hrefusal, ?_, hstored, hcovers⟩
  show (⟨none, none, some ((w.records table).countP _)⟩ : Answer) = ⟨none, none, some _⟩
  rw [records_eq hs hr]

theorem Sound.delete_agrees (hw : w.Sound) (table : String) (condition : Condition) :
    w.Agrees (.delete table condition)
      ((Statement.delete table condition).run w.catalog w.selection) := by
  rw [Statement.run_delete]
  apply target_agrees rfl
  intro schema r hs hr hnames hrefusal
  have hcovered := hw.covered schema (mem_of_schema? hs) r (List.mem_of_find?_eq_some hr)
  have hcondition : condition.column ∈ r.columns := hnames condition.column List.mem_cons_self
  rw [Relation.stored_delete hcovered hcondition]
  obtain ⟨hstored, hcovers⟩ := hw.modifyRelation hs hr (f := (·.delete condition)) rfl
    (hcovered.delete condition)
  refine ⟨hrefusal, ?_, hstored, hcovers⟩
  show (⟨none, none, some ((w.records table).countP _)⟩ : Answer) = ⟨none, none, some _⟩
  rw [records_eq hs hr]

/-! ## §3. Statements on tables and databases. -/

/-- A change of the selected database, on both sides. -/
theorem Sound.modifySelected (hw : w.Sound) {schema : Schema} (hs : w.schema? = some schema)
    {f : Schema → Schema} {g : Database → Database} (hfg : (f schema).stored = g schema.stored)
    (hcovered : (f schema).IsCovered) :
    (w.modifySelected f).stored = ⟨w.catalog.modifySelected w.selection g, w.selection⟩
      ∧ ∀ schema ∈ (w.modifySelected f).schemas, schema.IsCovered := by
  constructor
  · show State.mk (w.modifySelected f).catalog w.selection = _
    rw [hw.catalog_modifySelected fun schema' hs' => ?_]
    rw [Option.some.inj (hs'.symm.trans hs), hfg]
  · apply hw.covered_modifySelected
    intro schema' hs'
    rw [Option.some.inj (hs'.symm.trans hs)]
    exact hcovered

theorem Sound.createTable_agrees (hw : w.Sound) (name : String) (columns : List String) :
    w.Agrees (.createTable name columns)
      ((Statement.createTable name columns).run w.catalog w.selection) := by
  rw [Statement.run_createTable]
  unfold selectedDatabase
  rw [current?_stored]
  cases hs : w.schema? with
  | none =>
      show w.refusal? (.createTable name columns) = some .noDatabaseSelected
      rw [refusal?_untargeted rfl, hs]
      rfl
  | some schema =>
      simp only [Option.map_some, ok_bind, Schema.table?_stored, Option.isSome_map]
      have hrefusal : w.refusal? (.createTable name columns)
          = if (schema.relation? name).isSome then some .tableAlreadyExists else none := by
        have hfree : w.tableIsFree (.createTable name columns)
            = (schema.relation? name).isNone := by
          show (w.schema?.bind fun schema => schema.relation? name).isNone = _
          rw [hs]
          rfl
        rw [refusal?_untargeted rfl, hs, hfree]
        cases schema.relation? name <;> rfl
      by_cases hr : (schema.relation? name).isSome = true
      · rw [if_pos hr]
        show w.refusal? (.createTable name columns) = some .tableAlreadyExists
        rw [hrefusal, if_pos hr]
      · rw [if_neg hr]
        obtain ⟨hstored, hcovers⟩ := hw.modifySelected hs
          (f := fun schema => { schema with relations := schema.relations ++ [{ name, columns }] })
          (g := (·.addTable { name, columns }))
          (by
            unfold Schema.stored Database.addTable
            rw [List.map_append]
            rfl)
          (by
            intro r hr
            rcases List.mem_append.1 hr with hr | hr
            · exact hw.covered schema (mem_of_schema? hs) r hr
            · rw [List.mem_singleton] at hr
              subst hr
              intro record hrecord
              cases hrecord)
        refine ⟨?_, rfl, hstored, hcovers⟩
        rw [hrefusal, if_neg hr]

theorem Sound.dropTable_agrees (hw : w.Sound) (name : String) :
    w.Agrees (.dropTable name) ((Statement.dropTable name).run w.catalog w.selection) := by
  rw [Statement.run_eq_target rfl]
  apply target_agrees rfl
  intro schema r hs hr _ hrefusal
  show w.Agrees (.dropTable name) (Statement.executeDropTable name w.catalog w.selection)
  have hmem := mem_of_schema? hs
  have hdb : selectedDatabase w.catalog w.selection = .ok schema.stored := by
    rw [selectedDatabase_eq_ok, current?_stored, hs]
    rfl
  have htable : tableIn schema.stored name = .ok r.stored := by
    rw [tableIn_eq_ok, Schema.table?_stored, hr]
    rfl
  unfold Statement.executeDropTable
  rw [hdb, ok_bind, htable, ok_bind]
  obtain ⟨hstored, hcovers⟩ := hw.modifySelected hs
    (f := fun schema => { schema with
      relations := schema.relations.filter fun r => !sameName r.name name })
    (g := (·.removeTable name))
    (by
      unfold Database.removeTable
      rw [eraseP_eq_filter (single_of_apart (n := Table.name)
        (hw.schema_wellFormed hmem).apart name)]
      unfold Schema.stored
      congr 1
      apply map_filter_stored
      intro r
      rfl)
    (fun r hr => hw.covered schema hmem r (List.mem_filter.1 hr).1)
  exact ⟨hrefusal, rfl, hstored, hcovers⟩

theorem Sound.showTables_agrees (hw : w.Sound) :
    w.Agrees .showTables (Statement.showTables.run w.catalog w.selection) := by
  rw [Statement.run_showTables]
  unfold Statement.executeShowTables selectedDatabase
  rw [current?_stored]
  cases hs : w.schema? with
  | none =>
      show w.refusal? .showTables = some .noDatabaseSelected
      rw [refusal?_untargeted rfl, hs]
      rfl
  | some schema =>
      refine ⟨?_, rfl, rfl, hw.covered⟩
      rw [refusal?_untargeted rfl, hs]
      rfl

theorem Sound.createDatabase_agrees (hw : w.Sound) (name : String) :
    w.Agrees (.createDatabase name)
      ((Statement.createDatabase name).run w.catalog w.selection) := by
  rw [Statement.run_createDatabase, hasDatabase_catalog]
  have hrefusal : w.refusal? (.createDatabase name)
      = if (w.schemaOf? name).isSome then some .databaseAlreadyExists else none := by
    have hfree : w.databaseIsFree (.createDatabase name) = (w.schemaOf? name).isNone := rfl
    rw [refusal?_untargeted rfl, hfree]
    cases w.schemaOf? name <;> rfl
  by_cases hs : (w.schemaOf? name).isSome = true
  · rw [if_pos hs]
    show w.refusal? (.createDatabase name) = some .databaseAlreadyExists
    rw [hrefusal, if_pos hs]
  · rw [if_neg hs]
    refine ⟨by rw [hrefusal, if_neg hs], rfl, ?_, ?_⟩
    · show State.mk ⟨(w.schemas ++ [({ name } : Schema)]).map Schema.stored⟩ w.selection = _
      rw [List.map_append]
      rfl
    · intro schema hschema
      rcases List.mem_append.1 hschema with hschema | hschema
      · exact hw.covered schema hschema
      · rw [List.mem_singleton] at hschema
        subst hschema
        intro r hr
        cases hr

/-- USE and DROP DATABASE need the database. -/
theorem refusal?_of_named {name : String}
    (h : statement = .use name ∨ statement = .dropDatabase name) :
    w.refusal? statement
      = if (w.schemaOf? name).isSome then none else some .databaseNotFound := by
  rcases h with rfl | rfl
  · have hexists : w.databaseExists (.use name) = (w.schemaOf? name).isSome := rfl
    rw [refusal?_untargeted rfl, hexists]
    cases w.schemaOf? name <;> rfl
  · have hexists : w.databaseExists (.dropDatabase name) = (w.schemaOf? name).isSome := rfl
    rw [refusal?_untargeted rfl, hexists]
    cases w.schemaOf? name <;> rfl

theorem Sound.use_agrees (hw : w.Sound) (name : String) :
    w.Agrees (.use name) ((Statement.use name).run w.catalog w.selection) := by
  rw [Statement.run_use]
  unfold Statement.executeUse
  rw [database?_catalog]
  cases hs : w.schemaOf? name with
  | none =>
      show w.refusal? (.use name) = some .databaseNotFound
      rw [refusal?_of_named (.inl rfl), hs]
      rfl
  | some schema =>
      refine ⟨?_, rfl, ?_, hw.covered⟩
      · rw [refusal?_of_named (.inl rfl), hs]
        rfl
      · show State.mk w.catalog ⟨(w.schemaOf? name).map (·.name)⟩ = _
        rw [hs]
        rfl

theorem Sound.dropDatabase_agrees (hw : w.Sound) (name : String) :
    w.Agrees (.dropDatabase name) ((Statement.dropDatabase name).run w.catalog w.selection) := by
  rw [Statement.run_dropDatabase]
  unfold Statement.executeDropDatabase
  rw [database?_catalog]
  cases hs : w.schemaOf? name with
  | none =>
      show w.refusal? (.dropDatabase name) = some .databaseNotFound
      rw [refusal?_of_named (.inr rfl), hs]
      rfl
  | some schema =>
      have hsame : sameName schema.name name = true :=
        List.find?_some (p := fun s : Schema => sameName s.name name) hs
      refine ⟨?_, rfl, ?_, fun schema hschema =>
        hw.covered schema (List.mem_filter.1 hschema).1⟩
      · rw [refusal?_of_named (.inr rfl), hs]
        rfl
      · have hcatalog : (w.after (.dropDatabase name)).catalog = w.catalog.removeDatabase name := by
          unfold Catalog.removeDatabase
          rw [eraseP_eq_filter (single_of_apart (n := Database.name)
            hw.wellFormed.apart name)]
          unfold catalog
          congr 1
          apply map_filter_stored
          intro schema
          rfl
        -- the name in the statement and the stored name are the same to the selection
        have hselection : (w.after (.dropDatabase name)).selection
            = (if w.selected.any (sameName · schema.name) then some Selection.empty
                else none).getD w.selection := by
          show Selection.mk (w.selected.filter fun selected => !sameName selected name) = _
          unfold selection
          cases w.selected with
          | none => rfl
          | some selected =>
              have hcongr := sameName_congr hsame selected
              by_cases hn : sameName selected name = true
              · simp [hn, hcongr, Selection.empty]
              · simp [hn, hcongr]
        show State.mk (w.after (.dropDatabase name)).catalog
          (w.after (.dropDatabase name)).selection = _
        rw [hcatalog, hselection]
        rfl

/-! ## §4. One statement. -/

/-- **Every statement does the same to a world and to the state that stores it**: it is refused for
the same kind of error, or it gives the same answer and the state after it stores the world after
it. -/
theorem Sound.run_agrees (hw : w.Sound) (statement : Statement) :
    w.Agrees statement (statement.run w.catalog w.selection) := by
  cases statement with
  | select table projection => exact hw.select_agrees table projection
  | insert table columns tuples => exact hw.insert_agrees table columns tuples
  | update table assignments condition => exact hw.update_agrees table assignments condition
  | delete table condition => exact hw.delete_agrees table condition
  | createDatabase name => exact hw.createDatabase_agrees name
  | use name => exact hw.use_agrees name
  | createTable name columns => exact hw.createTable_agrees name columns
  | showDatabases => exact ⟨rfl, rfl, rfl, hw.covered⟩
  | showTables => exact hw.showTables_agrees
  | dropDatabase name => exact hw.dropDatabase_agrees name
  | dropTable name => exact hw.dropTable_agrees name

end World

/-- What the reference says of an outcome: the kind of an error, the data of an answer. -/
def outcome : Except SqlError Reply → Except ErrorKind Answer
  | .ok reply => .ok ⟨reply.columns, reply.rows, reply.affected⟩
  | .error fault => .error fault.kind

/-- Step lemma: a text has the same outcome on both sides, and leaves a world that is sound again
and stored in the state that it leaves. -/
theorem World.Sound.execute_agrees {w : World} (hw : w.Sound) (sql : String) :
    outcome (w.stored.execute sql).1 = (w.execute sql).1
      ∧ (w.stored.execute sql).2 = (w.execute sql).2.stored ∧ (w.execute sql).2.Sound := by
  unfold World.execute
  cases hwritten : Statement.written sql with
  | error fault =>
      rw [Statement.execute_of_not_written hwritten]
      exact ⟨rfl, rfl, hw⟩
  | ok statement =>
      have hagrees := hw.run_agrees statement
      rw [Statement.execute_of_written hwritten]
      dsimp only
      unfold World.perform
      change w.Agrees statement (statement.run w.stored.catalog w.stored.selection) at hagrees
      cases hrun : statement.run w.stored.catalog w.stored.selection with
      | error fault =>
          rw [hrun] at hagrees
          change w.refusal? statement = some fault.kind at hagrees
          rw [hagrees]
          exact ⟨rfl, rfl, hw⟩
      | ok e =>
          rw [hrun] at hagrees
          obtain ⟨hrefusal, hanswer, hafter, hcovered⟩ := hagrees
          -- what the reader made sure of is needed for the catalog to stay well-formed
          have hform : statement.Formed := by
            obtain ⟨k, -, hread⟩ := bind_eq_ok.1 hwritten
            exact Statement.formed_of_ofText hread
          have hyields := Statement.run_yields hrun
          have hcatalog : (w.after statement).catalog = e.catalog?.getD w.catalog :=
            congrArg State.catalog hafter
          have hselection : (w.after statement).selection = e.selection?.getD w.selection :=
            congrArg State.selection hafter
          rw [hrefusal]
          refine ⟨congrArg Except.ok hanswer.symm, hafter.symm, ?_, ?_, hcovered⟩
          · show (w.after statement).catalog.WellFormed
            rw [hcatalog]
            cases hc : e.catalog? with
            | none => exact hw.wellFormed
            | some c =>
                rw [hc] at hyields
                exact hyields.wellFormed hform hw.wellFormed
          · show (w.after statement).selection.IsStoredIn (w.after statement).catalog
            rw [hcatalog, hselection]
            exact hyields.isStoredIn hw.selected

/-! ## §5. Runs. -/

/-- Run lemma: a run has the same outcomes on both sides, and ends in a sound world and the state
that stores it. -/
theorem World.Sound.executeAll_agrees {w : World} (hw : w.Sound) (sqls : List String) :
    (w.stored.executeAll sqls).1.map outcome = (w.executeAll sqls).1
      ∧ (w.stored.executeAll sqls).2 = (w.executeAll sqls).2.stored
      ∧ (w.executeAll sqls).2.Sound := by
  -- by induction on the texts; soundness is what carries the step lemma from one to the next
  induction sqls generalizing w with
  | nil => exact ⟨rfl, rfl, hw⟩
  | cons sql rest ih =>
      obtain ⟨hfirst, hnext, hsound⟩ := hw.execute_agrees sql
      obtain ⟨hothers, hlast, hsound'⟩ := ih hsound
      unfold State.executeAll World.executeAll
      dsimp only
      rw [hnext, List.map_cons, hfirst, hothers]
      exact ⟨rfl, hlast, hsound'⟩

/-- A table and a relation of the same name and columns, whose rows are, one by one, the cells of
the records in the order of the columns. -/
structure Table.Mirrors (t : Table) (r : Relation) : Prop where
  name : t.name = r.name
  columns : t.columns = r.columns
  rows : List.Forall₂ (fun (row : Row) (record : Record) =>
    record.Covers t.columns ∧ row.map some = t.columns.map record) t.rows r.records

structure Database.Mirrors (db : Database) (schema : Schema) : Prop where
  name : db.name = schema.name
  tables : List.Forall₂ Table.Mirrors db.tables schema.relations

/-- A state and a world with the same databases, tables and rows and the same selection. -/
structure State.Mirrors (s : State) (w : World) : Prop where
  databases : List.Forall₂ Database.Mirrors s.catalog.databases w.schemas
  selected : s.selection.name? = w.selected

/-- What is stored by a map mirrors what it was made of, one by one. -/
theorem forall₂_map_left_of_forall {α β : Type} {R : β → α → Prop} {f : α → β} {l : List α}
    (h : ∀ a ∈ l, R (f a) a) : List.Forall₂ R (l.map f) l := by
  induction l with
  | nil => exact .nil
  | cons a rest ih =>
      exact .cons (h a List.mem_cons_self) (ih fun b hb => h b (List.mem_cons_of_mem _ hb))

/-- The state that stores a sound world mirrors it. -/
theorem World.Sound.stored_mirrors {w : World} (hw : w.Sound) : w.stored.Mirrors w where
  selected := rfl
  databases := by
    apply forall₂_map_left_of_forall
    intro schema hschema
    refine ⟨rfl, ?_⟩
    apply forall₂_map_left_of_forall
    intro r hr
    refine ⟨rfl, rfl, ?_⟩
    apply forall₂_map_left_of_forall
    intro record hrecord
    have hcovers := hw.covered schema hschema r hr record hrecord
    exact ⟨hcovers, hcovers.map_some_row⟩

theorem World.sound_empty : ({} : World).Sound where
  wellFormed := Catalog.wellFormed_empty
  selected := by
    intro name hname
    cases hname
  covered := by
    intro schema hschema
    cases hschema

/-- **From the empty state, every sequence of texts has the outcomes of the statements over named
rows**, errors by kind and answers with their columns, rows and counts; and the state after it
mirrors the world after it: each row lists the cells of its record in the order of the columns. -/
theorem State.executeAll_mirrors (sqls : List String) :
    (State.empty.executeAll sqls).1.map outcome = (({} : World).executeAll sqls).1
      ∧ (State.empty.executeAll sqls).2.Mirrors (({} : World).executeAll sqls).2 := by
  obtain ⟨houtcomes, hstate, hsound⟩ := World.sound_empty.executeAll_agrees sqls
  refine ⟨houtcomes, ?_⟩
  change (State.empty.executeAll sqls).2 = _ at hstate
  rw [hstate]
  exact hsound.stored_mirrors

end SmallSql
