/-
  SmallSql.Proofs.Snapshot.Decoding
  ────────────────────────────────
  Which texts hold a catalog, and what is read of them:

      of the shape of c        `checked c`
      of no shape              a fault

  A written catalog has its shape, so it is read back if its rows are in width.  Whatever is read has
  the shape of what is read, so it is rectangular.
-/
import SmallSql.Proofs.Snapshot.Checking
import SmallSql.Proofs.Snapshot.Shape

namespace SmallSql.Snapshot

open Json (Atom AtomParser Fault Yields Takes ListOf IsString Field Skippable listAtoms recordAtoms
  MembersYield OpensValue)

/-! ## §1. Members one after the other. -/

section Pending

variable {α : Type} {key : String} {shape : α → List Atom → Prop} {old? new? : Option α}
  {m : String × List Atom} {members : List (String × List Atom)}

/-- What becomes of a field with the members that are left: it was found already and is not among
them, or it is found among them or nowhere. -/
def Pending (key : String) (shape : α → List Atom → Prop) (old? : Option α)
    (members : List (String × List Atom)) (new? : Option α) : Prop :=
  match old? with
  | none => Field key shape members new?
  | some a => Json.valuesOf key members = [] ∧ new? = some a

theorem Pending.eq_of_nil (h : Pending key shape old? [] new?) : new? = old? := by
  cases old? with
  | none =>
      cases new? with
      | none => rfl
      | some a => cases h
  | some a => exact h.2

/-- A member with another key leaves the field as it is. -/
theorem Pending.of_ne (h : Pending key shape old? (m :: members) new?) (hm : m.1 ≠ key) :
    Pending key shape old? members new? := by
  cases old? with
  | none =>
      change List.Forall₂ _ _ _ at h
      rwa [Json.valuesOf_cons_of_ne hm] at h
  | some a =>
      obtain ⟨hnone, hnew⟩ := h
      rw [Json.valuesOf_cons_of_ne hm] at hnone
      exact ⟨hnone, hnew⟩

/-- A member with the key is the field, which was not found before. -/
theorem Pending.exists_value {phrase : List Atom}
    (h : Pending key shape old? ((key, phrase) :: members) new?) :
    old? = none ∧ ∃ a, shape a phrase ∧ Pending key shape (some a) members new? := by
  cases old? with
  | none =>
      change List.Forall₂ _ _ _ at h
      rw [Json.valuesOf_cons_self] at h
      obtain ⟨a, as, ha, hothers, hnew⟩ := List.forall₂_cons_right_iff.1 h
      cases new? with
      | none => cases hnew
      | some a' =>
          cases hnew
          exact ⟨rfl, a, ha, List.forall₂_nil_left_iff.1 hothers, rfl⟩
  | some a =>
      obtain ⟨hnone, -⟩ := h
      rw [Json.valuesOf_cons_self] at hnone
      cases hnone

end Pending

theorem Strays.head {known : List String} {m : String × List Atom}
    {members : List (String × List Atom)} (h : Strays known (m :: members)) (hm : m.1 ∉ known) :
    Skippable m.2 :=
  h m List.mem_cons_self hm

theorem Strays.tail {known : List String} {m : String × List Atom}
    {members : List (String × List Atom)} (h : Strays known (m :: members)) :
    Strays known members :=
  fun m' hm' => h m' (List.mem_cons_of_mem _ hm')

/-- What is read of a field with the members that are left, if it may have been found before. -/
def checkedLeft {α : Type} (check : α → Except Fault α) (old? new? : Option α) :
    Except Fault (Option α) :=
  if old?.isSome then .ok new? else checkedField check new?

theorem checkedLeft_self {α : Type} (check : α → Except Fault α) (a? : Option α) :
    checkedLeft check a? a? = .ok a? := by
  cases a? <;> rfl

/-- A field that is found now is checked now. -/
theorem checkedLeft_none_some {α σ : Type} (check : α → Except Fault α) (a : α)
    (finish : Option α → σ) :
    (checkedLeft check none (some a)).map finish = (check a).map fun a => finish (some a) := by
  show ((check a).map some).map finish = _
  cases check a <;> rfl

/-- A member whose value is a list that is checked: the list is found, or the first fault in it ends
the reading. -/
theorem membersYield_list {σ α : Type} {member : σ → String → AtomParser σ} {found : σ}
    {key : String} {phrase : List Atom} {members : List (String × List Atom)}
    {check : α → Except Fault α} {P : α → Prop} (hcheck : ∀ a a', check a = .ok a' ↔ a' = a ∧ P a)
    (put finish : List α → σ) {as : List α}
    (hone : Yields (member found key) (.colon :: phrase) ((as.mapM check).map put))
    (hmore : MembersYield member (put as) members (.ok (finish as))) :
    MembersYield member found ((key, phrase) :: members) ((as.mapM check).map finish) := by
  cases hr : as.mapM check with
  | error fault =>
      rw [hr] at hone
      exact .stop hone
  | ok as' =>
      obtain ⟨rfl, -⟩ := (mapM_eq_ok hcheck).1 hr
      rw [hr] at hone
      exact .more hone hmore

/-! ## §2. Texts of the shape. -/

/-- A field that is read whatever it holds. -/
theorem checkedField_ok {α : Type} (a? : Option α) :
    checkedField (fun a => (.ok a : Except Fault α)) a? = .ok a? := by
  cases a? <;> rfl

/-- The members of a table lead to its fields. -/
theorem membersYield_table {found fields : TableFields} {members : List (String × List Atom)}
    (hname : Pending "name" IsString found.name members fields.name)
    (hcolumns : Pending "columns" (ListOf IsString) found.columns members fields.columns)
    (hrows : Pending "rows" (ListOf (ListOf IsCell)) found.rows members fields.rows)
    (hstrays : Strays ["name", "columns", "rows"] members) :
    MembersYield TableFields.member found members (.ok fields) := by
  -- by induction along the members; what was found grows
  induction members generalizing found with
  | nil =>
      obtain ⟨name, columns, rows⟩ := fields
      obtain rfl := hname.eq_of_nil
      obtain rfl := hcolumns.eq_of_nil
      obtain rfl := hrows.eq_of_nil
      exact .done
  | cons m members ih =>
      obtain ⟨key, phrase⟩ := m
      by_cases hkey : key = "name"
      · subst hkey
        obtain ⟨hnone, name, hvalue, hleft⟩ := hname.exists_value
        have hone : Yields (TableFields.member found "name") (.colon :: phrase)
            (.ok { found with name := some name }) :=
          yields_fieldMember hnone (Json.yields_string hvalue) _
        exact .more hone (ih hleft (hcolumns.of_ne (show "name" ≠ "columns" by decide))
          (hrows.of_ne (show "name" ≠ "rows" by decide)) hstrays.tail)
      by_cases hkey' : key = "columns"
      · subst hkey'
        obtain ⟨hnone, columns, hvalue, hleft⟩ := hcolumns.exists_value
        have hone : Yields (TableFields.member found "columns") (.colon :: phrase)
            (.ok { found with columns := some columns }) :=
          yields_fieldMember hnone (yields_strings hvalue) _
        exact .more hone (ih (hname.of_ne (show "columns" ≠ "name" by decide)) hleft
          (hrows.of_ne (show "columns" ≠ "rows" by decide)) hstrays.tail)
      by_cases hkey'' : key = "rows"
      · subst hkey''
        obtain ⟨hnone, rows, hvalue, hleft⟩ := hrows.exists_value
        have hone : Yields (TableFields.member found "rows") (.colon :: phrase)
            (.ok { found with rows := some rows }) :=
          yields_fieldMember hnone (yields_rows hvalue) _
        exact .more hone (ih (hname.of_ne (show "rows" ≠ "name" by decide))
          (hcolumns.of_ne (show "rows" ≠ "columns" by decide)) hleft hstrays.tail)
      · have hvalue := hstrays.head (show key ∉ ["name", "columns", "rows"] by simp [*])
        have hone : Yields (TableFields.member found key) (.colon :: phrase) (.ok found) := by
          unfold TableFields.member
          rw [if_neg hkey, if_neg hkey', if_neg hkey'']
          exact yields_strayMember hvalue
        exact .more hone (ih (hname.of_ne hkey) (hcolumns.of_ne hkey') (hrows.of_ne hkey'')
          hstrays.tail)

/-- A table is read, if its rows are in width. -/
theorem yields_table {t : Table} {phrase : List Atom} (h : IsTable t phrase) :
    Yields readTable phrase (checkedTable t) := by
  have hfinish : ∀ rows? : Option (List Row), t.rows = rows?.getD [] →
      ((.ok ⟨some t.name, some t.columns, rows?⟩ : Except Fault TableFields)
        >>= TableFields.finish) = checkedTable t := by
    intro rows? hdefault
    unfold checkedTable
    rw [hdefault]
    rfl
  cases h with
  | @object rows? members hname hcolumns hrows hdefault hstrays =>
      rw [← hfinish rows? hdefault]
      exact yields_record_object (membersYield_table hname hcolumns hrows hstrays)
  | @fields rows? name columns rows hname hcolumns hrows hdefault =>
      have hopens := opensValue_string hname
      have hitem : ∀ rows phrase, ListOf (ListOf IsCell) rows phrase →
          Yields (Json.list readRow) phrase (.ok rows) := fun _ _ => yields_rows
      have hlast := yieldsInside_nextItem_next hitem hrows
      rw [checkedField_ok] at hlast
      rw [← hfinish rows? hdefault]
      refine yields_record_fields ?_
      rw [Json.intercalate_comma, List.flatMap_cons]
      exact .bind (yields_dueItem_first (Json.yields_string hname) hopens)
        (.bind (yields_dueItem_next (yields_strings hcolumns))
          (hlast.map (TableFields.mk (some t.name) (some t.columns))))

theorem opensValue_table {t : Table} {phrase : List Atom} (h : IsTable t phrase) :
    OpensValue phrase := by
  cases h with
  | object => exact Json.opensValue_recordAtoms _
  | fields => exact Json.opensValue_listAtoms _

theorem yields_tables (ts : List Table) (phrase : List Atom) (h : ListOf IsTable ts phrase) :
    Yields (Json.list readTable) phrase (ts.mapM checkedTable) := by
  have hitem : ∀ t phrase, IsTable t phrase → Yields readTable phrase (checkedTable t) :=
    fun _ _ => yields_table
  exact Json.yields_list hitem (fun _ _ => opensValue_table) h

/-- The members of a database lead to its fields, if its tables are taken. -/
theorem membersYield_database {found fields : DatabaseFields}
    {members : List (String × List Atom)}
    (hname : Pending "name" IsString found.name members fields.name)
    (htables : Pending "tables" (ListOf IsTable) found.tables members fields.tables)
    (hstrays : Strays ["name", "tables"] members) :
    MembersYield DatabaseFields.member found members
      ((checkedLeft (·.mapM checkedTable) found.tables fields.tables).map
        fun tables => { fields with tables }) := by
  induction members generalizing found with
  | nil =>
      obtain ⟨name, tables⟩ := fields
      obtain rfl := hname.eq_of_nil
      obtain rfl := htables.eq_of_nil
      rw [checkedLeft_self]
      exact .done
  | cons m members ih =>
      obtain ⟨key, phrase⟩ := m
      by_cases hkey : key = "name"
      · subst hkey
        obtain ⟨hnone, name, hvalue, hleft⟩ := hname.exists_value
        have hone : Yields (DatabaseFields.member found "name") (.colon :: phrase)
            (.ok { found with name := some name }) :=
          yields_fieldMember hnone (Json.yields_string hvalue) _
        exact .more hone (ih hleft (htables.of_ne (show "name" ≠ "tables" by decide)) hstrays.tail)
      by_cases hkey' : key = "tables"
      · subst hkey'
        obtain ⟨hnone, tables, hvalue, hleft⟩ := htables.exists_value
        have hone : Yields (DatabaseFields.member found "tables") (.colon :: phrase)
            ((tables.mapM checkedTable).map fun ts => { found with tables := some ts }) :=
          (yields_newField hnone (yields_tables tables phrase hvalue)).bind_last fun _ _ => .pure _
        obtain ⟨name, _⟩ := fields
        obtain rfl := hleft.2
        have hmore : MembersYield DatabaseFields.member { found with tables := some tables } members
            (.ok ⟨name, some tables⟩) :=
          ih (hname.of_ne (show "tables" ≠ "name" by decide)) hleft hstrays.tail
        rw [hnone, checkedLeft_none_some]
        exact membersYield_list (fun _ _ => checkedTable_eq_ok)
          (fun ts => { found with tables := some ts }) (fun ts => ⟨name, some ts⟩) hone hmore
      · have hvalue := hstrays.head (show key ∉ ["name", "tables"] by simp [*])
        have hone : Yields (DatabaseFields.member found key) (.colon :: phrase) (.ok found) := by
          unfold DatabaseFields.member
          rw [if_neg hkey, if_neg hkey']
          exact yields_strayMember hvalue
        exact .more hone (ih (hname.of_ne hkey) (htables.of_ne hkey') hstrays.tail)

/-- A database is read, if the rows of its tables are in width. -/
theorem yields_database {db : Database} {phrase : List Atom} (h : IsDatabase db phrase) :
    Yields readDatabase phrase (checkedDatabase db) := by
  have hfinish : ∀ tables? : Option (List Table), db.tables = tables?.getD [] →
      ((checkedField (·.mapM checkedTable) tables?).map (DatabaseFields.mk (some db.name))
        >>= DatabaseFields.finish) = checkedDatabase db := by
    intro tables? hdefault
    unfold checkedDatabase
    rw [hdefault]
    cases tables? with
    | none => rfl
    | some tables =>
        show ((((tables.mapM checkedTable).map some).map _ : Except Fault DatabaseFields)
          >>= DatabaseFields.finish) = (tables.mapM checkedTable >>= fun ts => _)
        cases tables.mapM checkedTable <;> rfl
  cases h with
  | @object tables? members hname htables hdefault hstrays =>
      have hmembers := @membersYield_database {} ⟨some db.name, tables?⟩ members hname htables
        hstrays
      rw [← hfinish tables? hdefault]
      exact yields_record_object hmembers
  | @fields tables? name tables hname htables hdefault =>
      have hopens := opensValue_string hname
      have hlast := yieldsInside_nextItem_next yields_tables htables
      rw [← hfinish tables? hdefault]
      refine yields_record_fields ?_
      rw [Json.intercalate_comma]
      exact .bind (yields_dueItem_first (Json.yields_string hname) hopens)
        (hlast.map (DatabaseFields.mk (some db.name)))

theorem opensValue_database {db : Database} {phrase : List Atom} (h : IsDatabase db phrase) :
    OpensValue phrase := by
  cases h with
  | object => exact Json.opensValue_recordAtoms _
  | fields => exact Json.opensValue_listAtoms _

theorem yields_databases (dbs : List Database) (phrase : List Atom)
    (h : ListOf IsDatabase dbs phrase) :
    Yields (Json.list readDatabase) phrase (dbs.mapM checkedDatabase) := by
  have hitem : ∀ db phrase, IsDatabase db phrase →
      Yields readDatabase phrase (checkedDatabase db) := fun _ _ => yields_database
  exact Json.yields_list hitem (fun _ _ => opensValue_database) h

/-- The members of a catalog lead to its databases, if these are taken. -/
theorem membersYield_catalog {found databases? : Option (List Database)}
    {members : List (String × List Atom)}
    (hdatabases : Pending "databases" (ListOf IsDatabase) found members databases?)
    (hstrays : Strays ["databases"] members) :
    MembersYield CatalogFields.member found members
      (checkedLeft (·.mapM checkedDatabase) found databases?) := by
  induction members generalizing found with
  | nil =>
      obtain rfl := hdatabases.eq_of_nil
      rw [checkedLeft_self]
      exact .done
  | cons m members ih =>
      obtain ⟨key, phrase⟩ := m
      by_cases hkey : key = "databases"
      · subst hkey
        obtain ⟨rfl, databases, hvalue, hleft⟩ := hdatabases.exists_value
        have hone : Yields (CatalogFields.member none "databases") (.colon :: phrase)
            ((databases.mapM checkedDatabase).map some) :=
          (yields_newField rfl (yields_databases databases phrase hvalue)).bind_last fun _ _ => .pure _
        obtain rfl := hleft.2
        have hmore : MembersYield CatalogFields.member (some databases) members
            (.ok (some databases)) :=
          ih hleft hstrays.tail
        exact membersYield_list (fun _ _ => checkedDatabase_eq_ok) some some hone hmore
      · have hvalue := hstrays.head (show key ∉ ["databases"] by simp [*])
        have hone : Yields (CatalogFields.member found key) (.colon :: phrase) (.ok found) := by
          unfold CatalogFields.member
          rw [if_neg hkey]
          exact yields_strayMember hvalue
        exact .more hone (ih (hdatabases.of_ne hkey) hstrays.tail)

/-- A catalog is read, if the rows of its tables are in width. -/
theorem yields_catalog {c : Catalog} {phrase : List Atom} (h : IsCatalog c phrase) :
    Yields readCatalog phrase (checked c) := by
  have hfinish : ∀ databases? : Option (List Database), c.databases = databases?.getD [] →
      (checkedField (·.mapM checkedDatabase) databases? >>= CatalogFields.finish) = checked c := by
    intro databases? hdefault
    unfold checked
    rw [hdefault]
    cases databases? with
    | none => rfl
    | some databases =>
        show (((databases.mapM checkedDatabase).map some : Except Fault (Option (List Database)))
          >>= CatalogFields.finish) = (databases.mapM checkedDatabase >>= fun dbs => _)
        cases databases.mapM checkedDatabase <;> rfl
  cases h with
  | @object databases? members hdatabases hdefault hstrays =>
      have hmembers : MembersYield CatalogFields.member none members
          (checkedField (·.mapM checkedDatabase) databases?) :=
        membersYield_catalog hdatabases hstrays
      rw [← hfinish databases? hdefault]
      exact yields_record_object hmembers
  | @fields databases? databases hdatabases hdefault =>
      rw [← hfinish databases? hdefault]
      exact yields_record_fields (yieldsInside_nextItem_first yields_databases
        (fun _ _ => opensValue_list) hdatabases)

/-! ## §3. What is read has the shape. -/

theorem due_eq_ok {α : Type} {a? : Option α} {a : α} : due a? = .ok a ↔ a? = some a := by
  cases a? <;> simp [due]

theorem Strays.concat {known : List String} {members : List (String × List Atom)} {key : String}
    {phrase : List Atom} (h : Strays known members) (hkey : key ∈ known ∨ Skippable phrase) :
    Strays known (members ++ [(key, phrase)]) := by
  intro m hm hunknown
  rcases List.mem_append.1 hm with hm | hm
  · exact h m hm hunknown
  · obtain rfl := List.mem_singleton.1 hm
    exact hkey.resolve_left hunknown

/-- The members so far, and what was found in them. -/
structure TableMembers (members : List (String × List Atom)) (found : TableFields) : Prop where
  name : Field "name" IsString members found.name
  columns : Field "columns" (ListOf IsString) members found.columns
  rows : Field "rows" (ListOf (ListOf IsCell)) members found.rows
  strays : Strays ["name", "columns", "rows"] members

/-- One more member of a table was read. -/
theorem TableMembers.step {members : List (String × List Atom)} {found : TableFields} {key : String}
    (h : TableMembers members found) {input rest : List Atom} {found' : TableFields}
    (hrun : (TableFields.member found key).run input = .ok (found', rest)) :
    ∃ phrase, input = .colon :: (phrase ++ rest)
      ∧ TableMembers (members ++ [(key, phrase)]) found' := by
  obtain ⟨hname, hcolumns, hrows, hstrays⟩ := h
  unfold TableFields.member at hrun
  split at hrun
  · next hkey =>
    subst hkey
    obtain ⟨hnone, name, phrase, rfl, hphrase, rfl⟩ := takes_fieldMember Json.takes_string hrun
    rw [hnone] at hname
    exact ⟨phrase, rfl, hname.concat_self hphrase, hcolumns.concat_of_ne (by decide),
      hrows.concat_of_ne (by decide), hstrays.concat (.inl (by decide))⟩
  split at hrun
  · next hkey =>
    subst hkey
    obtain ⟨hnone, columns, phrase, rfl, hphrase, rfl⟩ := takes_fieldMember takes_strings hrun
    rw [hnone] at hcolumns
    exact ⟨phrase, rfl, hname.concat_of_ne (by decide), hcolumns.concat_self hphrase,
      hrows.concat_of_ne (by decide), hstrays.concat (.inl (by decide))⟩
  split at hrun
  · next hkey =>
    subst hkey
    obtain ⟨hnone, rows, phrase, rfl, hphrase, rfl⟩ := takes_fieldMember takes_rows hrun
    rw [hnone] at hrows
    exact ⟨phrase, rfl, hname.concat_of_ne (by decide), hcolumns.concat_of_ne (by decide),
      hrows.concat_self hphrase, hstrays.concat (.inl (by decide))⟩
  · next hnot hnot' hnot'' =>
    obtain ⟨rfl, phrase, rfl, hphrase⟩ := takes_strayMember hrun
    exact ⟨phrase, rfl, hname.concat_of_ne hnot, hcolumns.concat_of_ne hnot',
      hrows.concat_of_ne hnot'', hstrays.concat (.inr hphrase)⟩

/-- What is read as a table has the shape of that table. -/
theorem takes_table : Takes readTable IsTable := by
  intro input rest t h
  obtain ⟨found, hfinish, hfound⟩ := takes_record (I := TableMembers)
    ⟨.none_nil _ _, .none_nil _ _, .none_nil _ _, nofun⟩ (fun _ _ _ _ _ _ h => h.step) h
  obtain ⟨name, hname, hfinish⟩ := bind_eq_ok.1 hfinish
  obtain ⟨columns, hcolumns, hfinish⟩ := bind_eq_ok.1 hfinish
  obtain ⟨rfl, -⟩ := tableOf_eq_ok.1 hfinish
  rcases hfound with ⟨ms, rfl, hms⟩ | ⟨inside, rfl, hinside⟩
  · refine ⟨recordAtoms ms, rfl, .object ?_ ?_ hms.rows rfl hms.strays⟩
    · rw [← due_eq_ok.1 hname]
      exact hms.name
    · rw [← due_eq_ok.1 hcolumns]
      exact hms.columns
  · obtain ⟨name', mid, hone, hinside⟩ := Parser.run_bind_eq_ok.1 hinside
    obtain ⟨columns', mid', htwo, hinside⟩ := Parser.run_bind_eq_ok.1 hinside
    obtain ⟨rows?, mid'', hthree, hinside⟩ := Parser.run_bind_eq_ok.1 hinside
    cases hinside
    cases hname
    cases hcolumns
    obtain ⟨phrase, hphrase, rfl⟩ := takes_dueItem Json.takes_string hone
    obtain ⟨phrase', hphrase', rfl⟩ := takes_dueItem takes_strings htwo
    obtain ⟨phrases, hphrases, rfl⟩ := takes_nextItem_next takes_rows hthree
    refine ⟨listAtoms (phrase :: phrase' :: phrases), ?_, .fields hphrase hphrase' hphrases rfl⟩
    rw [Json.listAtoms_cons_append]
    simp

/-- The members of a database so far, and what was found in them. -/
structure DatabaseMembers (members : List (String × List Atom)) (found : DatabaseFields) :
    Prop where
  name : Field "name" IsString members found.name
  tables : Field "tables" (ListOf IsTable) members found.tables
  strays : Strays ["name", "tables"] members

/-- One more member of a database was read. -/
theorem DatabaseMembers.step {members : List (String × List Atom)} {found : DatabaseFields}
    {key : String} (h : DatabaseMembers members found) {input rest : List Atom}
    {found' : DatabaseFields}
    (hrun : (DatabaseFields.member found key).run input = .ok (found', rest)) :
    ∃ phrase, input = .colon :: (phrase ++ rest)
      ∧ DatabaseMembers (members ++ [(key, phrase)]) found' := by
  obtain ⟨hname, htables, hstrays⟩ := h
  unfold DatabaseFields.member at hrun
  split at hrun
  · next hkey =>
    subst hkey
    obtain ⟨hnone, name, phrase, rfl, hphrase, rfl⟩ := takes_fieldMember Json.takes_string hrun
    rw [hnone] at hname
    exact ⟨phrase, rfl, hname.concat_self hphrase, htables.concat_of_ne (by decide),
      hstrays.concat (.inl (by decide))⟩
  split at hrun
  · next hkey =>
    subst hkey
    obtain ⟨hnone, tables, phrase, rfl, hphrase, rfl⟩ :=
      takes_fieldMember (Json.takes_list takes_table) hrun
    rw [hnone] at htables
    exact ⟨phrase, rfl, hname.concat_of_ne (by decide), htables.concat_self hphrase,
      hstrays.concat (.inl (by decide))⟩
  · next hnot hnot' =>
    obtain ⟨rfl, phrase, rfl, hphrase⟩ := takes_strayMember hrun
    exact ⟨phrase, rfl, hname.concat_of_ne hnot, htables.concat_of_ne hnot',
      hstrays.concat (.inr hphrase)⟩

/-- What is read as a database has the shape of that database. -/
theorem takes_database : Takes readDatabase IsDatabase := by
  intro input rest db h
  obtain ⟨found, hfinish, hfound⟩ := takes_record (I := DatabaseMembers)
    ⟨.none_nil _ _, .none_nil _ _, nofun⟩ (fun _ _ _ _ _ _ h => h.step) h
  obtain ⟨name, hname, hfinish⟩ := bind_eq_ok.1 hfinish
  cases hfinish
  rcases hfound with ⟨ms, rfl, hms⟩ | ⟨inside, rfl, hinside⟩
  · refine ⟨recordAtoms ms, rfl, .object ?_ hms.tables rfl hms.strays⟩
    rw [← due_eq_ok.1 hname]
    exact hms.name
  · obtain ⟨name', mid, hone, hinside⟩ := Parser.run_bind_eq_ok.1 hinside
    obtain ⟨tables?, mid', htwo, hinside⟩ := Parser.run_bind_eq_ok.1 hinside
    cases hinside
    cases hname
    obtain ⟨phrase, hphrase, rfl⟩ := takes_dueItem Json.takes_string hone
    obtain ⟨phrases, hphrases, rfl⟩ := takes_nextItem_next (Json.takes_list takes_table) htwo
    refine ⟨listAtoms (phrase :: phrases), ?_, .fields hphrase hphrases rfl⟩
    rw [Json.listAtoms_cons_append]
    rfl

/-- The members of a catalog so far, and what was found in them. -/
structure CatalogMembers (members : List (String × List Atom)) (found : Option (List Database)) :
    Prop where
  databases : Field "databases" (ListOf IsDatabase) members found
  strays : Strays ["databases"] members

/-- One more member of a catalog was read. -/
theorem CatalogMembers.step {members : List (String × List Atom)} {key : String}
    {found found' : Option (List Database)} (h : CatalogMembers members found)
    {input rest : List Atom}
    (hrun : (CatalogFields.member found key).run input = .ok (found', rest)) :
    ∃ phrase, input = .colon :: (phrase ++ rest)
      ∧ CatalogMembers (members ++ [(key, phrase)]) found' := by
  obtain ⟨hdatabases, hstrays⟩ := h
  unfold CatalogFields.member at hrun
  split at hrun
  · next hkey =>
    subst hkey
    obtain ⟨rfl, databases, phrase, rfl, hphrase, rfl⟩ :=
      takes_fieldMember (Json.takes_list takes_database) hrun
    exact ⟨phrase, rfl, hdatabases.concat_self hphrase, hstrays.concat (.inl (by decide))⟩
  · next hnot =>
    obtain ⟨rfl, phrase, rfl, hphrase⟩ := takes_strayMember hrun
    exact ⟨phrase, rfl, hdatabases.concat_of_ne hnot, hstrays.concat (.inr hphrase)⟩

/-- What is read as a catalog has the shape of that catalog. -/
theorem takes_catalog : Takes readCatalog IsCatalog := by
  intro input rest c h
  obtain ⟨found, hfinish, hfound⟩ := takes_record (I := CatalogMembers)
    ⟨.none_nil _ _, nofun⟩ (fun _ _ _ _ _ _ h => h.step) h
  cases hfinish
  rcases hfound with ⟨ms, rfl, hms⟩ | ⟨inside, rfl, hinside⟩
  · exact ⟨recordAtoms ms, rfl, .object hms.databases rfl hms.strays⟩
  · obtain ⟨phrases, hphrases, rfl⟩ :=
      takes_nextItem_first (Json.takes_list takes_database) hinside
    refine ⟨listAtoms phrases, ?_, .fields hphrases rfl⟩
    unfold listAtoms
    rw [List.cons_append, List.append_assoc]
    rfl

/-! ## §4. Whole texts. -/

/-- A text of the shape of a catalog is read as that catalog or, if a row is out of width, refused
for the first of them. -/
theorem parse_eq_checked {text : String} {c : Catalog}
    (h : IsCatalog c (Json.atoms text.toList)) : parse text = checked c :=
  Json.readText_of_yields rfl (yields_catalog h)

theorem isCatalog_of_parse {text : String} {c : Catalog} (h : parse text = .ok c) :
    IsCatalog c (Json.atoms text.toList) :=
  Json.shape_of_readText takes_catalog h

/-- **A written catalog is read back or, if a row is out of width, refused for the first of
them.** -/
theorem parse_render_eq (c : Catalog) : parse (render c) = checked c :=
  parse_eq_checked (isCatalog_render c)

/-- **Every catalog that is read is rectangular.** -/
theorem rectangular_of_parse {text : String} {c : Catalog} (h : parse text = .ok c) :
    c.Rectangular := by
  have hchecked := parse_eq_checked (isCatalog_of_parse h)
  exact (checked_eq_ok.1 (hchecked.symm.trans h)).2

end SmallSql.Snapshot
