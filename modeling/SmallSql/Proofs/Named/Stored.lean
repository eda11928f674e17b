/-
  SmallSql.Proofs.Named.Stored
  ────────────────────────────────
  How a world is stored: every record becomes a row, everything else stays.  Looking up and storing
  commute, and so do storing and each change of the world:

      world ──change──▶ world'
        │ stored           │ stored
        ▼                  ▼
      state ───edit──▶  state'

  The world changes every database and every table of a name, an edit of the catalog the first one.
  The two agree because in a sound world there is no second one.
-/
import SmallSql.Proofs.Catalog.WellFormed
import SmallSql.Proofs.Named.Rows

namespace SmallSql

/-! ## §1. Storing. -/

namespace Relation

/-- The table that stores a relation. -/
def stored (r : Relation) : Table where
  name := r.name
  columns := r.columns
  rows := r.records.map (·.row r.columns)

/-- Every record has a cell for each column and for no other name. -/
def IsCovered (r : Relation) : Prop := ∀ record ∈ r.records, record.Covers r.columns

variable {r : Relation}

theorem stored_insert (hnodup : r.columns.Nodup) {columns : List String}
    (hcolumns : ∀ name ∈ columns, name ∈ r.columns) (tuples : List (List Cell)) :
    (r.insert columns tuples).stored
      = r.stored.append (Statement.insertedRows columns tuples r.stored) := by
  have hrows : Statement.insertedRows columns tuples r.stored
      = tuples.map fun tuple => (Record.inserted r.columns (columns.zip tuple)).row r.columns := by
    apply List.map_congr_left
    intro tuple _
    exact Table.rowOf_eq (t := r.stored) hnodup hcolumns tuple
  rw [hrows]
  unfold insert stored Table.append
  rw [List.map_append, List.map_map]
  rfl

theorem IsCovered.insert (h : r.IsCovered) (columns : List String) (tuples : List (List Cell)) :
    (r.insert columns tuples).IsCovered := by
  intro record hrecord
  rcases List.mem_append.1 hrecord with hrecord | hrecord
  · exact h record hrecord
  · obtain ⟨tuple, -, rfl⟩ := List.mem_map.1 hrecord
    exact Record.covers_inserted _ _

/-- Every row is compared as it was before any was written. -/
theorem stored_update (hnodup : r.columns.Nodup) (h : r.IsCovered)
    {assignments : List (String × Cell)} (hassigned : ∀ p ∈ assignments, p.1 ∈ r.columns)
    {condition : Condition} (hcondition : condition.column ∈ r.columns) :
    r.stored.updateWhere? (Statement.assignedCells assignments r.stored)
        (Statement.isUpdated condition r.stored)
      = some ((r.update assignments condition).stored,
          r.records.countP (·.isUpdated condition)) := by
  have hupdated : ∀ record ∈ r.records,
      Statement.isUpdated condition r.stored (record.row r.columns)
        = record.isUpdated condition :=
    fun record hrecord => Table.isUpdated_row (t := r.stored) (h record hrecord) hcondition
  -- writing is decided on the old row, and both sides decide alike there
  have hrows : r.stored.rows.mapM (fun row =>
        if Statement.isUpdated condition r.stored row then
          row.assign? (Statement.assignedCells assignments r.stored) else some row)
      = some (r.update assignments condition).stored.rows := by
    rw [mapM_eq_some]
    show (r.records.map (·.row r.columns)).map _ = ((r.records.map _).map _).map some
    rw [List.map_map, List.map_map, List.map_map]
    apply List.map_congr_left
    intro record hrecord
    show (if Statement.isUpdated condition r.stored (record.row r.columns) then
        Row.assign? (record.row r.columns) _ else some (record.row r.columns))
      = some (Record.row r.columns
          (if record.isUpdated condition then record.written assignments else record))
    rw [hupdated record hrecord]
    by_cases hu : record.isUpdated condition = true
    · rw [if_pos hu, if_pos hu]
      exact Table.assign?_row (t := r.stored) hnodup hassigned
    · rw [if_neg hu, if_neg hu]
  have hcount : r.stored.rows.countP (Statement.isUpdated condition r.stored)
      = r.records.countP (·.isUpdated condition) := by
    show (r.records.map (·.row r.columns)).countP _ = _
    rw [List.countP_map]
    apply List.countP_congr
    intro record hrecord
    show Statement.isUpdated condition r.stored (record.row r.columns) = true ↔ _
    rw [hupdated record hrecord]
  unfold Table.updateWhere?
  rw [hrows, hcount]
  rfl

theorem IsCovered.update (h : r.IsCovered) {assignments : List (String × Cell)}
    (hassigned : ∀ p ∈ assignments, p.1 ∈ r.columns) (condition : Condition) :
    (r.update assignments condition).IsCovered := by
  intro record hrecord
  obtain ⟨old, hold, rfl⟩ := List.mem_map.1 hrecord
  show (if old.isUpdated condition then old.written assignments else old).Covers r.columns
  by_cases hu : old.isUpdated condition = true
  · rw [if_pos hu]
    exact (h old hold).written hassigned
  · rw [if_neg hu]
    exact h old hold

theorem stored_delete (h : r.IsCovered) {condition : Condition}
    (hcondition : condition.column ∈ r.columns) :
    r.stored.retain (Statement.isKept condition r.stored)
      = ((r.delete condition).stored, r.records.countP (·.isDeleted condition)) := by
  have hkept : ∀ record ∈ r.records,
      Statement.isKept condition r.stored (record.row r.columns) = !record.isDeleted condition :=
    fun record hrecord => Table.isKept_row (t := r.stored) (h record hrecord) hcondition
  have hrows : r.stored.rows.filter (Statement.isKept condition r.stored)
      = (r.delete condition).stored.rows := by
    show (r.records.map (·.row r.columns)).filter _ = (r.records.filter _).map _
    rw [List.filter_map]
    congr 1
    exact List.filter_congr hkept
  have hcount : r.stored.rows.countP (fun row => !Statement.isKept condition r.stored row)
      = r.records.countP (·.isDeleted condition) := by
    show (r.records.map (·.row r.columns)).countP _ = _
    rw [List.countP_map]
    apply List.countP_congr
    intro record hrecord
    show (!Statement.isKept condition r.stored (record.row r.columns)) = true ↔ _
    rw [hkept record hrecord, Bool.not_not]
  unfold Table.retain
  rw [hrows, hcount]
  rfl

theorem IsCovered.delete (h : r.IsCovered) (condition : Condition) :
    (r.delete condition).IsCovered :=
  fun record hrecord => h record (List.mem_filter.1 hrecord).1

end Relation

namespace Schema

/-- The database that stores a schema. -/
def stored (schema : Schema) : Database where
  name := schema.name
  tables := schema.relations.map Relation.stored

def IsCovered (schema : Schema) : Prop := ∀ r ∈ schema.relations, r.IsCovered

theorem table?_stored (schema : Schema) (name : String) :
    schema.stored.table? name = (schema.relation? name).map Relation.stored := by
  show (schema.relations.map Relation.stored).find? (fun t => sameName t.name name) = _
  rw [List.find?_map]
  rfl

end Schema

namespace World

/-- The catalog that stores a world. -/
def catalog (w : World) : Catalog where
  databases := w.schemas.map Schema.stored

/-- The selection that stores which database of a world is selected. -/
def selection (w : World) : Selection where
  name? := w.selected

/-- The state that stores a world. -/
def stored (w : World) : State where
  catalog := w.catalog
  selection := w.selection

/-- A world that statements can lead to. -/
structure Sound (w : World) : Prop where
  wellFormed : w.catalog.WellFormed
  selected : w.selection.IsStoredIn w.catalog
  covered : ∀ schema ∈ w.schemas, schema.IsCovered

variable {w : World}

/-! ## §2. Looking up. -/

theorem database?_catalog (w : World) (name : String) :
    w.catalog.database? name = (w.schemaOf? name).map Schema.stored := by
  show (w.schemas.map Schema.stored).find? (fun db => sameName db.name name) = _
  rw [List.find?_map]
  rfl

theorem hasDatabase_catalog (w : World) (name : String) :
    w.catalog.hasDatabase name = (w.schemaOf? name).isSome := by
  unfold Catalog.hasDatabase
  rw [database?_catalog, Option.isSome_map]

theorem current?_stored (w : World) :
    w.selection.current? w.catalog = w.schema?.map Schema.stored := by
  show w.selected.bind w.catalog.database? = (w.selected.bind w.schemaOf?).map Schema.stored
  cases w.selected with
  | none => rfl
  | some name => exact database?_catalog w name

theorem mem_of_schema? {schema : Schema} (h : w.schema? = some schema) : schema ∈ w.schemas := by
  obtain ⟨name, -, hfind⟩ := Option.bind_eq_some_iff.1 h
  exact List.mem_of_find?_eq_some hfind

theorem Sound.schema_wellFormed (hw : w.Sound) {schema : Schema} (h : schema ∈ w.schemas) :
    schema.stored.WellFormed :=
  hw.wellFormed.databases _ (List.mem_map_of_mem h)

/-- No two schemas of a sound world have the same name. -/
theorem Sound.schemas_apart (hw : w.Sound) :
    (w.schemas.map Schema.name).Pairwise fun a b => ¬ sameName a b = true := by
  have h := hw.wellFormed.apart
  change ((w.schemas.map Schema.stored).map Database.name).Pairwise _ at h
  rwa [List.map_map] at h

/-- No two relations of a schema of a sound world have the same name. -/
theorem Sound.relations_apart (hw : w.Sound) {schema : Schema} (h : schema ∈ w.schemas) :
    (schema.relations.map Relation.name).Pairwise fun a b => ¬ sameName a b = true := by
  have h := (hw.schema_wellFormed h).apart
  change ((schema.relations.map Relation.stored).map Table.name).Pairwise _ at h
  rwa [List.map_map] at h

theorem Sound.columns_nodup (hw : w.Sound) {schema : Schema} (h : schema ∈ w.schemas)
    {r : Relation} (hr : r ∈ schema.relations) : r.columns.Nodup :=
  ((hw.schema_wellFormed h).tables _ (List.mem_map_of_mem hr)).columnList.2

/-- The selected schema is the one whose name is selected. -/
theorem Sound.schema?_of_mem (hw : w.Sound) {schema : Schema} (h : schema ∈ w.schemas)
    (hs : w.selected.any (fun name => sameName schema.name name) = true) :
    w.schema? = some schema := by
  obtain ⟨name, hname, hsame⟩ := (Option.any_eq_true _ _).1 hs
  unfold schema?
  rw [hname]
  exact find?_eq_some_of_single (single_of_apart hw.schemas_apart name) h hsame

/-- The relation of a name is the one that has it. -/
theorem Sound.relation?_of_mem (hw : w.Sound) {schema : Schema} (h : schema ∈ w.schemas)
    {r : Relation} (hr : r ∈ schema.relations) {name : String} (hn : sameName r.name name = true) :
    schema.relation? name = some r :=
  find?_eq_some_of_single (single_of_apart (hw.relations_apart h) name) hr hn

/-! ## §3. Changing. -/

/-- Elements that are stored alike are stored alike together. -/
theorem map_ite_map {α β : Type} {store : α → β} {wanted : α → Bool} {f : α → α} {g : β → β}
    {wanted' : β → Bool} {l : List α} (hw : ∀ a, wanted' (store a) = wanted a)
    (h : ∀ a ∈ l, wanted a = true → store (f a) = g (store a)) :
    (l.map fun a => if wanted a then f a else a).map store
      = (l.map store).map fun b => if wanted' b then g b else b := by
  rw [List.map_map, List.map_map]
  apply List.map_congr_left
  intro a ha
  show store (if wanted a then f a else a) = if wanted' (store a) then g (store a) else store a
  rw [hw]
  by_cases hwa : wanted a = true
  · rw [if_pos hwa, if_pos hwa, h a ha hwa]
  · rw [if_neg hwa, if_neg hwa]

/-- What holds of all elements and of what becomes of those that are wanted, holds afterwards. -/
theorem forall_mem_map_ite {α : Type} {P : α → Prop} {wanted : α → Bool} {f : α → α} {l : List α}
    (hl : ∀ a ∈ l, P a) (hf : ∀ a ∈ l, wanted a = true → P (f a)) :
    ∀ b ∈ l.map fun a => if wanted a then f a else a, P b := by
  intro b hb
  obtain ⟨a, ha, rfl⟩ := List.mem_map.1 hb
  by_cases hwa : wanted a = true
  · rw [if_pos hwa]
    exact hf a ha hwa
  · rw [if_neg hwa]
    exact hl a ha

/-- Changing the table of a name and putting a table in its place commute with storing. -/
theorem Sound.stored_modifyRelation (hw : w.Sound) {schema : Schema} (h : schema ∈ w.schemas)
    {name : String} {f : Relation → Relation} {t : Table}
    (ht : ∀ r, schema.relation? name = some r → (f r).stored = t) :
    (schema.modifyRelation name f).stored = schema.stored.modifyTable name fun _ => t := by
  have hsingle : schema.stored.tables.Pairwise fun a b =>
      ¬ (sameName a.name name = true ∧ sameName b.name name = true) :=
    single_of_apart (n := Table.name) (hw.schema_wellFormed h).apart name
  unfold Schema.modifyRelation Database.modifyTable
  rw [modifyFirst_eq_map hsingle]
  unfold Schema.stored
  congr 1
  apply map_ite_map
  · intro r
    rfl
  · intro r hr hname
    exact ht r (hw.relation?_of_mem h hr hname)

/-- A change of the selected database commutes with storing. -/
theorem Sound.catalog_modifySelected (hw : w.Sound) {f : Schema → Schema}
    {g : Database → Database}
    (h : ∀ schema, w.schema? = some schema → (f schema).stored = g schema.stored) :
    (w.modifySelected f).catalog = w.catalog.modifySelected w.selection g := by
  -- with one database of the name at most, changing the first is changing all
  have hmap : w.catalog.modifySelected w.selection g = {
      databases := w.catalog.databases.map fun db =>
        if w.selected.any (fun name => sameName db.name name) then g db else db } := by
    unfold Catalog.modifySelected selection
    cases w.selected with
    | none => simp
    | some name =>
        have hsingle : w.catalog.databases.Pairwise fun a b =>
            ¬ (sameName a.name name = true ∧ sameName b.name name = true) :=
          single_of_apart (n := Database.name) hw.wellFormed.apart name
        dsimp only
        unfold Catalog.modifyDatabase
        rw [modifyFirst_eq_map hsingle]
        rfl
  rw [hmap]
  unfold modifySelected catalog
  congr 1
  apply map_ite_map
  · intro schema
    rfl
  · intro schema hschema hs
    exact h schema (hw.schema?_of_mem hschema hs)

/-- A change of the selected database that keeps its records covering its columns keeps all. -/
theorem Sound.covered_modifySelected (hw : w.Sound) {f : Schema → Schema}
    (h : ∀ schema, w.schema? = some schema → (f schema).IsCovered) :
    ∀ schema ∈ (w.modifySelected f).schemas, schema.IsCovered :=
  forall_mem_map_ite hw.covered fun schema hschema hs => h schema (hw.schema?_of_mem hschema hs)

/-- Removing what has a name commutes with storing. -/
theorem map_filter_stored {α β : Type} {store : α → β} {wanted : α → Bool} {wanted' : β → Bool}
    (l : List α) (hw : ∀ a, wanted' (store a) = wanted a) :
    (l.filter fun a => !wanted a).map store = (l.map store).filter fun b => !wanted' b := by
  rw [List.filter_map]
  congr 2
  funext a
  show (!wanted a) = !wanted' (store a)
  rw [hw]

end World

end SmallSql
