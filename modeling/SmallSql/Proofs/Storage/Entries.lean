/-
  SmallSql.Proofs.Storage.Entries
  ────────────────────────────────
  Entries are looked up as they were put: a write changes what is under its own key and nothing
  else.  Entries with the same look-ups are equal, so a batch that is said to change nothing leaves
  the entries as they are.  Written entries are read back as the same entries, because the members
  of the text come in the order of their keys.
-/
import SmallSql.Proofs.Json.Shape
import SmallSql.Proofs.Json.Written
import SmallSql.Storage.EntriesText

namespace SmallSql

/-! ## §1. Looking up. -/

theorem lookup_putPair (key value : String) (pairs : List (String × String)) (k : String) :
    (putPair key value pairs).lookup k = if k = key then some value else pairs.lookup k := by
  induction pairs with
  | nil =>
      unfold putPair
      by_cases h : k = key
      · simp [h]
      · have hb : (k == key) = false := by simpa using h
        rw [if_neg h, List.lookup_cons, hb]
  | cons head rest ih =>
      obtain ⟨k', v'⟩ := head
      unfold putPair
      by_cases h : k = key
      · subst h
        by_cases h₁ : k < k'
        · simp [h₁]
        · by_cases h₂ : k = k'
          · simp [h₂]
          · have hb : (k == k') = false := by simpa using h₂
            rw [if_neg h₁, if_neg h₂, List.lookup_cons, hb]
            rw [if_pos rfl] at ih ⊢
            exact ih
      · rw [if_neg h] at ih ⊢
        have hb : (k == key) = false := by simpa using h
        by_cases h₁ : key < k'
        · rw [if_pos h₁, List.lookup_cons, hb]
        · rw [if_neg h₁]
          by_cases h₂ : key = k'
          · subst h₂
            rw [if_pos rfl, List.lookup_cons, List.lookup_cons, hb]
          · rw [if_neg h₂, List.lookup_cons, List.lookup_cons, ih]

namespace Entries

@[simp] theorem get?_put (e : Entries) (key value k : String) :
    (e.put key value).get? k = if k = key then some value else e.get? k :=
  lookup_putPair key value e.pairs k

@[simp] theorem get?_erase (e : Entries) (key k : String) :
    (e.erase key).get? k = if k = key then none else e.get? k := by
  show (e.pairs.filter fun p => p.1 != key).lookup k = if k = key then none else e.pairs.lookup k
  induction e.pairs with
  | nil => simp
  | cons head rest ih =>
      obtain ⟨k', v'⟩ := head
      by_cases h : k' = key
      · subst h
        rw [List.filter_cons_of_neg (by simp), ih]
        by_cases hk : k = k'
        · rw [if_pos hk, if_pos hk]
        · have hb : (k == k') = false := by simpa using hk
          rw [if_neg hk, if_neg hk, List.lookup_cons, hb]
      · rw [List.filter_cons_of_pos (by simpa using h), List.lookup_cons, List.lookup_cons, ih]
        by_cases hk : k = k'
        · subst hk
          simp [h]
        · have hb : (k == k') = false := by simpa using hk
          rw [hb]

/-- A write that changes nothing changes no look-up. -/
theorem get?_write_of_unchanged {e : Entries} {w : Write} (h : e.isChangedBy w = false)
    (k : String) : (e.write w).get? k = e.get? k := by
  cases w with
  | set key value =>
      have hget : e.get? key = some value := by simpa [isChangedBy] using h
      show (e.put key value).get? k = _
      rw [get?_put]
      by_cases hk : k = key
      · rw [if_pos hk, hk, hget]
      · rw [if_neg hk]
  | remove key =>
      have hget : e.get? key = none := by simpa [isChangedBy] using h
      show (e.erase key).get? k = _
      rw [get?_erase]
      by_cases hk : k = key
      · rw [if_pos hk, hk, hget]
      · rw [if_neg hk]

/-- A batch that changes nothing changes no look-up. -/
theorem get?_applyBatch_of_unchanged {e : Entries} {batch : Batch}
    (h : (e.applyBatch batch).2 = false) (k : String) :
    (e.applyBatch batch).1.get? k = e.get? k := by
  induction batch generalizing e with
  | nil => rfl
  | cons w rest ih =>
      change (e.isChangedBy w || ((e.write w).applyBatch rest).2) = false at h
      rw [Bool.or_eq_false_iff] at h
      show ((e.write w).applyBatch rest).1.get? k = _
      rw [ih h.2, get?_write_of_unchanged h.1]

/-! ## §2. Equal look-ups. -/

/-- Of sorted pairs exactly those stand there that are looked up. -/
theorem mem_iff_lookup {pairs : List (String × String)} (h : pairs.Pairwise (·.1 < ·.1))
    {key value : String} : (key, value) ∈ pairs ↔ pairs.lookup key = some value := by
  induction pairs with
  | nil => simp
  | cons head rest ih =>
      obtain ⟨k, v⟩ := head
      rw [List.pairwise_cons] at h
      rw [List.mem_cons, List.lookup_cons, ih h.2]
      by_cases hk : key = k
      · subst hk
        -- the keys behind the first are all greater
        have hrest : rest.lookup key ≠ some value := fun hl =>
          String.lt_irrefl key (h.1 _ ((ih h.2).2 hl))
        simp [hrest, eq_comm]
      · have hb : (key == k) = false := by simpa using hk
        simp [hb, hk]

theorem eq_of_pairs {e e' : Entries} (h : e.pairs = e'.pairs) : e = e' := by
  cases e
  cases e'
  cases h
  rfl

theorem nodup_pairs (e : Entries) : e.pairs.Nodup := by
  refine e.sorted.imp fun {p q} hlt he => ?_
  rw [he] at hlt
  exact String.lt_irrefl _ hlt

/-- **Entries with the same look-ups are equal.** -/
theorem eq_of_get? {e e' : Entries} (h : ∀ key, e.get? key = e'.get? key) : e = e' := by
  have hmem : ∀ p, p ∈ e.pairs ↔ p ∈ e'.pairs := by
    rintro ⟨key, value⟩
    rw [mem_iff_lookup e.sorted, mem_iff_lookup e'.sorted]
    show e.get? key = some value ↔ e'.get? key = some value
    rw [h]
  have hperm := (List.perm_ext_iff_of_nodup e.nodup_pairs e'.nodup_pairs).2 hmem
  have hpairs : e.pairs = e'.pairs := hperm.eq_of_pairwise
    (fun p q _ _ hpq hqp => absurd (String.lt_trans hpq hqp) (String.lt_irrefl _))
    e.sorted e'.sorted
  exact eq_of_pairs hpairs

/-- A batch that is said to change nothing leaves the entries as they are. -/
theorem applyBatch_of_unchanged {e : Entries} {batch : Batch}
    (h : (e.applyBatch batch).2 = false) : (e.applyBatch batch).1 = e :=
  eq_of_get? (get?_applyBatch_of_unchanged h)

/-! ## §3. Batches as lists of writes. -/

theorem applyBatch_append (e : Entries) (first second : Batch) :
    e.applyBatch (first ++ second)
      = (((e.applyBatch first).1.applyBatch second).1,
        (e.applyBatch first).2 || ((e.applyBatch first).1.applyBatch second).2) := by
  induction first generalizing e with
  | nil => rfl
  | cons w rest ih =>
      show (((e.write w).applyBatch (rest ++ second)).1,
        e.isChangedBy w || ((e.write w).applyBatch (rest ++ second)).2) = _
      rw [ih, ← Bool.or_assoc]
      rfl

end Entries

/-- The key that a write is about. -/
def Write.key : Write → String
  | set key _ => key
  | remove key => key

/-- What a write leaves under its key. -/
def Write.value? : Write → Option String
  | set _ value => some value
  | remove _ => none

/-- What the last of the writes on a key leaves under it; `old` if no write is on the key. -/
def lastWritten (writes : List Write) (key : String) (old : Option String) : Option String :=
  match writes.reverse.find? (·.key = key) with
  | some w => w.value?
  | none => old

theorem lastWritten_cons (w : Write) (writes : List Write) (key : String) (old : Option String) :
    lastWritten (w :: writes) key old
      = lastWritten writes key (if key = w.key then w.value? else old) := by
  unfold lastWritten
  rw [List.reverse_cons, List.find?_append]
  cases writes.reverse.find? (·.key = key) with
  | some v => rfl
  | none =>
      by_cases h : w.key = key
      · simp [h]
      · simp [h, Ne.symm h]

namespace Entries

theorem get?_write (e : Entries) (w : Write) (key : String) :
    (e.write w).get? key = if key = w.key then w.value? else e.get? key := by
  cases w with
  | set k value => exact get?_put e k value key
  | remove k => exact get?_erase e k key

/-- **After a batch a key has what the last write on it left there.** -/
theorem get?_applyBatch (e : Entries) (batch : Batch) (key : String) :
    (e.applyBatch batch).1.get? key = lastWritten batch key (e.get? key) := by
  induction batch generalizing e with
  | nil => rfl
  | cons w rest ih =>
      show ((e.write w).applyBatch rest).1.get? key = _
      rw [ih, get?_write, lastWritten_cons]

/-! ## §4. Writing and reading back. -/

/-- A pair whose key is behind all keys comes last. -/
theorem putPair_of_lt {key value : String} {pairs : List (String × String)}
    (h : ∀ p ∈ pairs, p.1 < key) : putPair key value pairs = pairs ++ [(key, value)] := by
  induction pairs with
  | nil => rfl
  | cons head rest ih =>
      obtain ⟨k, v⟩ := head
      have hk : k < key := h (k, v) List.mem_cons_self
      have h₁ : ¬ key < k := fun hlt => String.lt_irrefl k (String.lt_trans hk hlt)
      have h₂ : ¬ key = k := by
        rintro rfl
        exact String.lt_irrefl key hk
      unfold putPair
      rw [if_neg h₁, if_neg h₂, ih fun p hp => h p (List.mem_cons_of_mem _ hp)]
      rfl

/-- Putting the first pair that is missing. -/
theorem put_pairs {e e' : Entries} {p : String × String} {rest : List (String × String)}
    (h : e'.pairs = e.pairs ++ p :: rest) : (e.put p.1 p.2).pairs = e.pairs ++ [p] := by
  have hsorted := e'.sorted
  rw [h, List.pairwise_append] at hsorted
  exact putPair_of_lt fun q hq => hsorted.2.2 q hq p List.mem_cons_self

/-- A pair as a member of an object. -/
def member (p : String × String) : String × List Json.Atom := (p.1, [.string p.2])

/-- The pairs that are missing in `e` complete it, one after the other. -/
theorem membersYield_pairs {e e' : Entries} {pairs : List (String × String)}
    (h : e'.pairs = e.pairs ++ pairs) :
    Json.MembersYield readMember e (pairs.map member) (.ok e') := by
  -- the entries read so far are the pairs in front; each member appends the next
  induction pairs generalizing e with
  | nil =>
      rw [List.append_nil] at h
      rw [eq_of_pairs h]
      exact .done
  | cons p pairs ih =>
      have hmore : e'.pairs = (e.put p.1 p.2).pairs ++ pairs := by
        rw [put_pairs h, h, List.append_assoc]
        rfl
      have hvalue : Json.Yields (readMember e p.1) [.colon, .string p.2] (.ok (e.put p.1 p.2)) :=
        .token_bind (if_pos rfl) ((Json.yields_string rfl).bind_last fun _ _ => .pure _)
      exact .more hvalue (ih hmore)

theorem yields_reader (e : Entries) :
    Json.Yields reader (Json.recordAtoms (e.pairs.map member)) (.ok e) := by
  rw [Json.recordAtoms_eq]
  unfold reader
  exact .token_bind (if_pos rfl) (Json.yields_members (membersYield_pairs (e := .empty) rfl))

/-- A line is one member. -/
theorem spells_line (p : String × String) :
    Json.Spells (line p) (Json.memberAtoms (.string p.1, [.string p.2])) := by
  have hcolon : Json.Spells [':', ' '] [.colon] :=
    (Json.spells_mark (c := ':') rfl (by decide)).append_space (c := ' ') (by decide)
  have hmember := ((Json.spells_quoted p.1).append hcolon).append (Json.spells_quoted p.2)
  unfold line
  rw [List.append_assoc [' ', ' ']]
  exact (hmember.space_cons (c := ' ') (by decide)).space_cons (by decide)

/-- Written entries are one object, with a member for each pair. -/
theorem spells_render (e : Entries) :
    Json.Spells e.render.toList (Json.recordAtoms (e.pairs.map member)) := by
  have hopen : Json.Spells ['\x7b'] [.openBrace] := Json.spells_mark rfl (by decide)
  have hclose : Json.Spells ['\x7d'] [.closeBrace] := Json.spells_mark rfl (by decide)
  have hcomma : Json.Spells [',', '\n'] [.comma] :=
    (Json.spells_mark (c := ',') rfl (by decide)).append_space (c := '\n') (by decide)
  have hlines : List.Forall₂ Json.Spells (e.pairs.map line)
      (e.pairs.map fun p => Json.memberAtoms (.string p.1, [.string p.2])) := by
    rw [List.forall₂_map_left_iff, List.forall₂_map_right_iff]
    exact List.forall₂_same.2 fun p _ => spells_line p
  rw [Json.recordAtoms_eq]
  unfold render
  split
  · next h =>
    rw [h]
    exact hopen.append hclose
  · rw [String.toList_ofList]
    have hinside := Json.spells_intercalate hcomma hlines
    have hall := ((hopen.append_space (c := '\n') (by decide)).append hinside).append
      (hclose.space_cons (c := '\n') (by decide))
    unfold Json.membersAtoms
    rw [List.map_map]
    exact hall

/-- **Written entries are read back.** -/
theorem parse_render (e : Entries) : parse e.render = .ok e := by
  have hblank : Text.allBlank e.render.toList = false := by
    unfold render
    split
    · decide
    · rw [String.toList_ofList]
      rfl
  unfold parse
  rw [hblank]
  exact Json.readText_of_yields (spells_render e).atoms_eq (yields_reader e)

end Entries

end SmallSql
