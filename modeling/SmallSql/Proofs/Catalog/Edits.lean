/-
  SmallSql.Proofs.Catalog.Edits
  ────────────────────────────────
  What edits of a catalog leave as it was.  An edit inside a database or a table changes neither the
  names nor the order of what stands around it; everything that a later look-up by name can see
  follows from that.
-/
import SmallSql.Statement.Effect

namespace SmallSql

/-! ## §1. Names. -/

theorem sameName_iff {a b : String} :
    sameName a b = true ↔ Text.lowercase a.toList = Text.lowercase b.toList := by
  unfold sameName
  exact beq_iff_eq

@[simp] theorem sameName_refl (a : String) : sameName a a = true := sameName_iff.2 rfl

theorem sameName_symm {a b : String} (h : sameName a b = true) : sameName b a = true :=
  sameName_iff.2 (sameName_iff.1 h).symm

theorem sameName_trans {a b c : String} (h₁ : sameName a b = true) (h₂ : sameName b c = true) :
    sameName a c = true :=
  sameName_iff.2 ((sameName_iff.1 h₁).trans (sameName_iff.1 h₂))

/-- Names that are the same meet the same names. -/
theorem sameName_congr {a b : String} (h : sameName a b = true) (c : String) :
    sameName c a = sameName c b := by
  rw [Bool.eq_iff_iff]
  exact ⟨fun ha => sameName_trans ha h, fun hb => sameName_trans hb (sameName_symm h)⟩

/-! ## §2. The first element that is wanted. -/

section ModifyFirst

variable {α β : Type} {wanted : α → Bool} {f : α → α}

/-- Every element afterwards was there before or is what became of one that was wanted. -/
theorem mem_modifyFirst {l : List α} {a : α} (h : a ∈ modifyFirst wanted f l) :
    a ∈ l ∨ ∃ b, l.find? wanted = some b ∧ a = f b := by
  induction l with
  | nil => cases h
  | cons b rest ih =>
      unfold modifyFirst at h
      by_cases hb : wanted b = true
      · rw [if_pos hb] at h
        rcases List.mem_cons.1 h with rfl | h
        · exact .inr ⟨b, List.find?_cons_of_pos hb, rfl⟩
        · exact .inl (List.mem_cons_of_mem _ h)
      · rw [if_neg hb] at h
        rcases List.mem_cons.1 h with rfl | h
        · exact .inl List.mem_cons_self
        · rcases ih h with h | ⟨d, hd, rfl⟩
          · exact .inl (List.mem_cons_of_mem _ h)
          · refine .inr ⟨d, ?_, rfl⟩
            rw [List.find?_cons_of_neg hb, hd]

/-- What the change keeps of the element that is wanted, it keeps of the list. -/
theorem map_modifyFirst {g : α → β} {l : List α}
    (hf : ∀ a, l.find? wanted = some a → g (f a) = g a) :
    (modifyFirst wanted f l).map g = l.map g := by
  induction l with
  | nil => rfl
  | cons b rest ih =>
      unfold modifyFirst
      by_cases hb : wanted b = true
      · rw [if_pos hb, List.map_cons, List.map_cons, hf b (List.find?_cons_of_pos hb)]
      · have hrest : ∀ a, rest.find? wanted = some a → g (f a) = g a := by
          intro a ha
          exact hf a (by rw [List.find?_cons_of_neg hb, ha])
        rw [if_neg hb, List.map_cons, List.map_cons, ih hrest]

/-- Only what becomes of the first element that is wanted matters. -/
theorem modifyFirst_congr {g : α → α} {l : List α} (h : ∀ a, l.find? wanted = some a → f a = g a) :
    modifyFirst wanted f l = modifyFirst wanted g l := by
  induction l with
  | nil => rfl
  | cons b rest ih =>
      unfold modifyFirst
      by_cases hb : wanted b = true
      · rw [if_pos hb, if_pos hb, h b (List.find?_cons_of_pos hb)]
      · have hrest : ∀ a, rest.find? wanted = some a → f a = g a := by
          intro a ha
          exact h a (by rw [List.find?_cons_of_neg hb, ha])
        rw [if_neg hb, if_neg hb, ih hrest]

end ModifyFirst

section Single

variable {α : Type} {wanted : α → Bool} {l : List α}

/-- Of elements with names that are told apart, at most one has a given name. -/
theorem single_of_apart {n : α → String}
    (h : (l.map n).Pairwise fun a b => ¬ sameName a b = true) (name : String) :
    l.Pairwise fun a b => ¬ (sameName (n a) name = true ∧ sameName (n b) name = true) := by
  rw [List.pairwise_map] at h
  refine h.imp ?_
  rintro a b hab ⟨ha, hb⟩
  exact hab (sameName_trans ha (sameName_symm hb))

/-- The only element that is wanted is the one that is found. -/
theorem find?_eq_some_of_single (hone : l.Pairwise fun a b => ¬ (wanted a = true ∧ wanted b = true))
    {a : α} (ha : a ∈ l) (hw : wanted a = true) : l.find? wanted = some a := by
  induction l with
  | nil => cases ha
  | cons b rest ih =>
      rw [List.pairwise_cons] at hone
      rcases List.mem_cons.1 ha with rfl | ha
      · exact List.find?_cons_of_pos hw
      · have hb : ¬ wanted b = true := fun hb => hone.1 a ha ⟨hb, hw⟩
        rw [List.find?_cons_of_neg hb, ih hone.2 ha]

/-- Changing the only element that is wanted is changing all that are wanted. -/
theorem modifyFirst_eq_map (hone : l.Pairwise fun a b => ¬ (wanted a = true ∧ wanted b = true))
    (f : α → α) : modifyFirst wanted f l = l.map fun a => if wanted a then f a else a := by
  induction l with
  | nil => rfl
  | cons b rest ih =>
      rw [List.pairwise_cons] at hone
      unfold modifyFirst
      rw [List.map_cons]
      by_cases hb : wanted b = true
      · have hrest : (rest.map fun a => if wanted a then f a else a) = rest := by
          refine (List.map_congr_left fun a ha => ?_).trans (List.map_id' rest)
          exact if_neg fun hw => hone.1 a ha ⟨hb, hw⟩
        rw [if_pos hb, if_pos hb, hrest]
      · rw [if_neg hb, if_neg hb, ih hone.2]

/-- Removing the only element that is wanted is removing all that are wanted. -/
theorem eraseP_eq_filter (hone : l.Pairwise fun a b => ¬ (wanted a = true ∧ wanted b = true)) :
    l.eraseP wanted = l.filter fun a => !wanted a := by
  induction l with
  | nil => rfl
  | cons b rest ih =>
      rw [List.pairwise_cons] at hone
      by_cases hb : wanted b = true
      · have hrest : rest.filter (fun a => !wanted a) = rest := by
          rw [List.filter_eq_self]
          intro a ha
          have hw : ¬ wanted a = true := fun hw => hone.1 a ha ⟨hb, hw⟩
          simp [hw]
        rw [List.eraseP_cons_of_pos hb, List.filter_cons_of_neg (by simp [hb]), hrest]
      · rw [List.eraseP_cons_of_neg hb, List.filter_cons_of_pos (by simp [hb]), ih hone.2]

end Single

/-- A change of every element that may fail, when it does not. -/
theorem mapM_eq_some {α β : Type} {f : α → Option β} {l : List α} {l' : List β} :
    l.mapM f = some l' ↔ l.map f = l'.map some := by
  induction l generalizing l' with
  | nil => cases l' <;> simp
  | cons a rest ih =>
      rw [List.mapM_cons, List.map_cons]
      cases hf : f a with
      | none => cases l' <;> simp
      | some b =>
          show ((rest.mapM f).bind fun bs => some (b :: bs)) = some l' ↔ _
          rw [Option.bind_eq_some_iff]
          cases l' with
          | nil => simp
          | cons b' rest' =>
              rw [List.map_cons, List.cons_eq_cons, ← ih]
              constructor
              · rintro ⟨bs, hbs, he⟩
                cases he
                exact ⟨rfl, hbs⟩
              · rintro ⟨he, hbs⟩
                cases he
                exact ⟨rest', hbs, rfl⟩

/-! ## §3. Databases by name. -/

namespace Catalog

/-- Whether a name stands for a database can be read off the names. -/
theorem hasDatabase_eq (c : Catalog) (name : String) :
    c.hasDatabase name = c.databaseNames.any (fun n => sameName n name) := by
  unfold hasDatabase database? databaseNames
  rw [List.any_map, ← List.isSome_find?]
  rfl

theorem hasDatabase_iff {c : Catalog} {name : String} :
    c.hasDatabase name = true ↔ ∃ db ∈ c.databases, sameName db.name name = true := by
  rw [hasDatabase_eq]
  simp [databaseNames]

theorem mem_of_database? {c : Catalog} {name : String} {db : Database}
    (h : c.database? name = some db) : db ∈ c.databases ∧ sameName db.name name = true :=
  ⟨List.mem_of_find?_eq_some h, List.find?_some (p := fun d : Database => sameName d.name name) h⟩

theorem databaseNames_modifyDatabase (c : Catalog) (name : String) {f : Database → Database}
    (hf : ∀ db, (f db).name = db.name) :
    (c.modifyDatabase name f).databaseNames = c.databaseNames :=
  map_modifyFirst fun db _ => hf db

/-- Changes of the selected database that leave its name alone leave all names alone. -/
theorem databaseNames_modifySelected (c : Catalog) (s : Selection) {f : Database → Database}
    (hf : ∀ db, (f db).name = db.name) :
    (c.modifySelected s f).databaseNames = c.databaseNames := by
  unfold modifySelected
  split
  · exact databaseNames_modifyDatabase c _ hf
  · rfl

/-- Every database afterwards was there before or is what became of the selected one. -/
theorem mem_modifySelected {c : Catalog} {s : Selection} {f : Database → Database} {db : Database}
    (h : db ∈ (c.modifySelected s f).databases) :
    db ∈ c.databases ∨ ∃ old, s.current? c = some old ∧ db = f old := by
  unfold modifySelected at h
  unfold Selection.current?
  split at h
  · next hs =>
    rw [hs]
    exact mem_modifyFirst h
  · exact .inl h

/-- Only what becomes of the selected database matters. -/
theorem modifySelected_congr {c : Catalog} {s : Selection} {f g : Database → Database}
    (h : ∀ db, s.current? c = some db → f db = g db) :
    c.modifySelected s f = c.modifySelected s g := by
  unfold modifySelected
  unfold Selection.current? at h
  split
  · next selected hs =>
    rw [hs] at h
    unfold modifyDatabase
    rw [modifyFirst_congr h]
  · rfl

/-- Putting a table in the place of another is a change of the selected database. -/
theorem setTable_eq (c : Catalog) (s : Selection) (name : String) (t : Table) :
    c.setTable s name t = c.modifySelected s (·.modifyTable name fun _ => t) := rfl

/-- A database whose name is another one is not removed. -/
theorem mem_removeDatabase {c : Catalog} {name : String} {db : Database} (h : db ∈ c.databases)
    (hn : ¬ sameName db.name name = true) : db ∈ (c.removeDatabase name).databases :=
  (List.mem_eraseP_of_neg (p := fun d : Database => sameName d.name name) hn).2 h

end Catalog

theorem Selection.current?_mem {c : Catalog} {s : Selection} {db : Database}
    (h : s.current? c = some db) : db ∈ c.databases := by
  obtain ⟨name, -, hdb⟩ := Option.bind_eq_some_iff.1 h
  exact (Catalog.mem_of_database? hdb).1

/-! ## §4. Tables by name. -/

namespace Database

theorem mem_of_table? {db : Database} {name : String} {t : Table} (h : db.table? name = some t) :
    t ∈ db.tables ∧ sameName t.name name = true :=
  ⟨List.mem_of_find?_eq_some h, List.find?_some (p := fun u : Table => sameName u.name name) h⟩

/-- The tables beside the one that is put in the place of another are those of before. -/
theorem mem_modifyTable {db : Database} {name : String} {t u : Table}
    (h : u ∈ (db.modifyTable name fun _ => t).tables) : u ∈ db.tables ∨ u = t := by
  rcases mem_modifyFirst h with h | ⟨_, _, rfl⟩
  · exact .inl h
  · exact .inr rfl

end Database

/-! ## §5. Rows. -/

/-- Writes that stay inside the row succeed. -/
theorem Row.assign?_eq {row : Row} {cells : List (Nat × Cell)}
    (h : ∀ p ∈ cells, p.1 < row.length) :
    row.assign? cells = some (cells.foldl (fun row p => row.set p.1 p.2) row) := by
  induction cells generalizing row with
  | nil => rfl
  | cons p rest ih =>
      obtain ⟨position, cell⟩ := p
      have hp : position < row.length := h _ List.mem_cons_self
      have hrest : ∀ q ∈ rest, q.1 < (row.set position cell).length := by
        intro q hq
        rw [List.length_set]
        exact h q (List.mem_cons_of_mem _ hq)
      unfold Row.assign?
      rw [if_pos hp, ih hrest, List.foldl_cons]

/-- Writing cells into a row keeps its width. -/
theorem Row.length_foldl_set (cells : List (Nat × Cell)) (row : Row) :
    (cells.foldl (fun row p => row.set p.1 p.2) row).length = row.length := by
  induction cells generalizing row with
  | nil => rfl
  | cons p rest ih => rw [List.foldl_cons, ih, List.length_set]

namespace Table

theorem rowOf_length (t : Table) (cells : List (Nat × Cell)) :
    (t.rowOf cells).length = t.columns.length := by
  unfold rowOf
  rw [Row.length_foldl_set, List.length_replicate]

theorem assign?_length {cells : List (Nat × Cell)} {row row' : Row}
    (h : row.assign? cells = some row') : row'.length = row.length := by
  fun_induction Row.assign? row cells with
  | case1 => cases h; rfl
  | case2 row position cell rest hp ih => rw [ih h, List.length_set]
  | case3 => cases h

/-- Rows that are appended keep the table rectangular if they have its width. -/
theorem Rectangular.append {t : Table} (h : t.Rectangular) {rows : List Row}
    (hrows : ∀ row ∈ rows, row.length = t.columns.length) : (t.append rows).Rectangular := by
  intro row hrow
  rcases List.mem_append.1 hrow with hrow | hrow
  · exact h row hrow
  · exact hrows row hrow

/-- Writing into rows changes neither the name nor the columns nor the width of any row. -/
theorem updateWhere?_eq_some {t t' : Table} {cells : List (Nat × Cell)} {hit : Row → Bool}
    {n : Nat} (h : t.updateWhere? cells hit = some (t', n)) :
    t'.name = t.name ∧ t'.columns = t.columns ∧ (t.Rectangular → t'.Rectangular) := by
  obtain ⟨rows, hrows, he⟩ := Option.bind_eq_some_iff.1 h
  cases he
  refine ⟨rfl, rfl, ?_⟩
  intro hr row' hrow'
  show row'.length = t.columns.length
  -- a written row is what `mapM` made of an old one
  have hmem := List.mem_map_of_mem (f := some) hrow'
  rw [← mapM_eq_some.1 hrows] at hmem
  obtain ⟨row, hrow, hstep⟩ := List.mem_map.1 hmem
  rw [← hr row hrow]
  split at hstep
  · exact assign?_length hstep
  · cases hstep
    rfl

/-- Keeping some of the rows changes neither the name nor the columns nor the width of any row. -/
theorem Rectangular.retain {t : Table} (h : t.Rectangular) (keep : Row → Bool) :
    (t.retain keep).1.Rectangular :=
  fun row hrow => h row (List.mem_filter.1 hrow).1

end Table

end SmallSql
