/-
  SmallSql.Proofs.Catalog.Lookup
  ────────────────────────────────
  Looking up by name what was changed by name.  For the tables of a database and for the selected
  database of a catalog alike,

      changed, then looked up         what it has become is found
      changed, then changed again     one change
      changed under two names apart   in either order, and no look-up of one sees the other

  A change keeps the name of what it changes; so the same look-up finds it again.
-/
import SmallSql.Proofs.Statement.Frame

namespace SmallSql

/-! ## §1. The first element that is wanted. -/

section ModifyFirst

variable {α : Type} {wanted other : α → Bool} {f g : α → α} {l earlier later : List α} {a b : α}

/-- The element that the list is cut at is the one that is found. -/
theorem IsFirst.find?_eq (h : IsFirst wanted l earlier a later) : l.find? wanted = some a := by
  rw [List.find?_eq_some_iff_append]
  exact ⟨h.isWanted, earlier, later, h.cut, fun d hd => by simpa using h.noneEarlier d hd⟩

/-- What became of the element is the first that is wanted, if it still is. -/
theorem IsFirst.modifyFirst (h : IsFirst wanted l earlier a later) (hf : wanted (f a) = true) :
    IsFirst wanted (modifyFirst wanted f l) earlier (f a) later where
  cut := h.modifyFirst_eq
  isWanted := hf
  noneEarlier := h.noneEarlier

/-- What became of the element is found, if it is still wanted. -/
theorem find?_modifyFirst (h : l.find? wanted = some a) (hf : wanted (f a) = true) :
    (modifyFirst wanted f l).find? wanted = some (f a) := by
  obtain ⟨earlier, later, hcut⟩ := exists_isFirst h
  exact (hcut.modifyFirst hf).find?_eq

/-- Two changes of an element are one, if it is still wanted after the first. -/
theorem modifyFirst_modifyFirst (h : l.find? wanted = some a) (hf : wanted (f a) = true) :
    modifyFirst wanted g (modifyFirst wanted f l) = modifyFirst wanted (fun d => g (f d)) l := by
  obtain ⟨earlier, later, hcut⟩ := exists_isFirst h
  rw [(hcut.modifyFirst hf).modifyFirst_eq, hcut.modifyFirst_eq]

/-- Another look-up is not affected, if neither the element nor what became of it is looked up. -/
theorem find?_modifyFirst_of_apart (h : l.find? wanted = some a) (hold : other a = false)
    (hnew : other (f a) = false) : (modifyFirst wanted f l).find? other = l.find? other := by
  obtain ⟨earlier, later, hcut⟩ := exists_isFirst h
  rw [hcut.modifyFirst_eq, hcut.cut, List.find?_append, List.find?_append,
    List.find?_cons_of_neg (Bool.eq_false_iff.1 hnew),
    List.find?_cons_of_neg (Bool.eq_false_iff.1 hold)]

/-- Two elements that different look-ups find can be changed in either order. -/
theorem modifyFirst_comm (ha : l.find? wanted = some a) (hb : l.find? other = some b)
    (hold : other a = false) (hnew : other (f a) = false) (hnew' : wanted (g b) = false) :
    modifyFirst other g (modifyFirst wanted f l)
      = modifyFirst wanted f (modifyFirst other g l) := by
  -- by induction on the list; at the element that stands first the other change passes by
  induction l with
  | nil => rfl
  | cons d rest ih =>
      by_cases hw : wanted d = true
      · rw [List.find?_cons_of_pos hw] at ha
        cases ha
        rw [modifyFirst, if_pos hw, modifyFirst, if_neg (Bool.eq_false_iff.1 hnew), modifyFirst,
          if_neg (Bool.eq_false_iff.1 hold), modifyFirst, if_pos hw]
      · rw [List.find?_cons_of_neg hw] at ha
        by_cases ho : other d = true
        · rw [List.find?_cons_of_pos ho] at hb
          cases hb
          rw [modifyFirst, if_neg hw, modifyFirst, if_pos ho, modifyFirst, if_pos ho, modifyFirst,
            if_neg (Bool.eq_false_iff.1 hnew')]
        · rw [List.find?_cons_of_neg ho] at hb
          rw [modifyFirst, if_neg hw, modifyFirst, if_neg ho, modifyFirst, if_neg ho, modifyFirst,
            if_neg hw, ih ha hb]

end ModifyFirst

/-! ## §2. Tables by name. -/

/-- Of names that are not the same, none is the same as a third. -/
theorem sameName_eq_false {a b name : String} (h : ¬ sameName a b = true)
    (ha : sameName name a = true) : sameName name b = false := by
  rw [← Bool.not_eq_true]
  exact fun hb => h (sameName_trans (sameName_symm ha) hb)

namespace Database

variable {db : Database} {n m : String} {t t' u u' : Table}

/-- A look-up of another name finds what it found before. -/
theorem table?_modifyTable_of_apart (hapart : ¬ sameName n m = true) (h : db.table? n = some t)
    (hname : t'.name = t.name) : (db.modifyTable n fun _ => t').table? m = db.table? m := by
  have hother := sameName_eq_false hapart (mem_of_table? h).2
  exact find?_modifyFirst_of_apart (f := fun _ => t') h hother (by rw [hname]; exact hother)

/-- Tables of two names can be put in their places in either order. -/
theorem modifyTable_comm (hapart : ¬ sameName n m = true) (ht : db.table? n = some t)
    (hu : db.table? m = some u) (ht' : t'.name = t.name) (hu' : u'.name = u.name) :
    (db.modifyTable n fun _ => t').modifyTable m (fun _ => u')
      = (db.modifyTable m fun _ => u').modifyTable n (fun _ => t') := by
  have hotherT := sameName_eq_false hapart (mem_of_table? ht).2
  have hotherU := sameName_eq_false (fun h => hapart (sameName_symm h)) (mem_of_table? hu).2
  exact congrArg (Database.mk db.name)
    (modifyFirst_comm ht hu hotherT (by rw [ht']; exact hotherT) (by rw [hu']; exact hotherU))

end Database

/-! ## §3. The selected database. -/

namespace Catalog

variable {c : Catalog} {s : Selection} {db : Database} {f g : Database → Database}

/-- A selected database that keeps its name stays selected. -/
theorem current?_modifySelected (h : s.current? c = some db) (hname : (f db).name = db.name) :
    s.current? (c.modifySelected s f) = some (f db) := by
  obtain ⟨selected, hselected, hdb⟩ := Option.bind_eq_some_iff.1 h
  unfold Selection.current? modifySelected
  rw [hselected]
  exact find?_modifyFirst hdb (by rw [hname]; exact (mem_of_database? hdb).2)

/-- Two changes of the selected database are one, if the first keeps its name. -/
theorem modifySelected_modifySelected (h : s.current? c = some db)
    (hname : (f db).name = db.name) :
    (c.modifySelected s f).modifySelected s g = c.modifySelected s fun d => g (f d) := by
  obtain ⟨selected, hselected, hdb⟩ := Option.bind_eq_some_iff.1 h
  unfold modifySelected modifyDatabase
  rw [hselected]
  exact congrArg Catalog.mk
    (modifyFirst_modifyFirst hdb (by rw [hname]; exact (mem_of_database? hdb).2))

end Catalog

end SmallSql
