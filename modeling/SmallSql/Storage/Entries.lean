/-
  SmallSql.Storage.Entries
  ────────────────────────────────
  What a store holds: values under distinct keys.  The pairs are kept in the order of their keys, so
  that equal contents are equal values and have one written form.

  A batch is a list of writes that belong together; `applyBatch` says whether it changes anything.
-/

namespace SmallSql

/-- Puts a value under a key into pairs that stand in the order of their keys. -/
def putPair (key value : String) : List (String × String) → List (String × String)
  | [] => [(key, value)]
  | (k, v) :: rest =>
    if key < k then (key, value) :: (k, v) :: rest
    else if key = k then (key, value) :: rest
    else (k, v) :: putPair key value rest

theorem mem_putPair {key value : String} {pairs : List (String × String)} {p : String × String}
    (h : p ∈ putPair key value pairs) : p = (key, value) ∨ p ∈ pairs := by
  induction pairs with
  | nil => simpa [putPair] using h
  | cons head rest ih =>
    obtain ⟨k, v⟩ := head
    simp only [putPair] at h
    split at h
    · simpa using h
    · split at h
      · rcases List.mem_cons.1 h with rfl | h
        · exact .inl rfl
        · exact .inr (List.mem_cons_of_mem _ h)
      · rcases List.mem_cons.1 h with rfl | h
        · exact .inr List.mem_cons_self
        · exact (ih h).imp_right (List.mem_cons_of_mem _)

theorem sorted_putPair {key value : String} {pairs : List (String × String)}
    (h : pairs.Pairwise (·.1 < ·.1)) : (putPair key value pairs).Pairwise (·.1 < ·.1) := by
  induction pairs with
  | nil => simp [putPair]
  | cons head rest ih =>
    obtain ⟨k, v⟩ := head
    obtain ⟨hk, hr⟩ := List.pairwise_cons.1 h
    simp only [putPair]
    split
    · next hlt =>
      refine List.pairwise_cons.2 ⟨fun p hp => ?_, h⟩
      rcases List.mem_cons.1 hp with rfl | hp
      · exact hlt
      · exact String.lt_trans hlt (hk p hp)
    · next hnlt =>
      split
      · next heq => subst heq; exact List.pairwise_cons.2 ⟨hk, hr⟩
      · next hne =>
        refine List.pairwise_cons.2 ⟨fun p hp => ?_, ih hr⟩
        rcases mem_putPair hp with rfl | hp
        · refine String.not_le.1 fun hle => hne ?_
          exact String.le_antisymm hle (String.not_lt.1 hnlt)
        · exact hk p hp

/-- Values under distinct keys, in the order of the keys. -/
structure Entries where
  pairs : List (String × String) := []
  sorted : pairs.Pairwise (·.1 < ·.1) := by exact .nil
deriving DecidableEq

/-- A single change of a store. -/
inductive Write where
  /-- Puts a value under a key, in place of what was there. -/
  | set (key value : String)
  /-- Takes away what is under a key, if anything is. -/
  | remove (key : String)
deriving DecidableEq, Repr

/-- Writes that take effect together, one after the other, or not at all. -/
abbrev Batch := List Write

namespace Entries

/-- Nothing under any key. -/
def empty : Entries := {}

/-- The value under a key. -/
def get? (e : Entries) (key : String) : Option String := e.pairs.lookup key

/-- How many keys have a value. -/
def size (e : Entries) : Nat := e.pairs.length

/-- Puts a value under a key. -/
def put (e : Entries) (key value : String) : Entries where
  pairs := putPair key value e.pairs
  sorted := sorted_putPair e.sorted

/-- Takes away what is under a key. -/
def erase (e : Entries) (key : String) : Entries where
  pairs := e.pairs.filter (fun p => p.1 != key)
  sorted := e.sorted.filter _

/-- The entries after one write. -/
def write (e : Entries) : Write → Entries
  | .set key value => e.put key value
  | .remove key => e.erase key

/-- Whether a write changes the entries. -/
def isChangedBy (e : Entries) : Write → Bool
  | .set key value => e.get? key != some value
  | .remove key => (e.get? key).isSome

/-- The entries after a batch, and whether one of its writes changed them on the way. -/
def applyBatch (e : Entries) : Batch → Entries × Bool
  | [] => (e, false)
  | w :: rest =>
    let (after, changed) := (e.write w).applyBatch rest
    (after, e.isChangedBy w || changed)

end Entries

end SmallSql
