/-
  SmallSql.Proofs.Storage.Files
  ────────────────────────────────
  What a change at one path leaves alone.  The way to a path leads through shorter paths only, so a
  text that is put beside a file, at a path of the same length, is never on the way to it.
-/
import SmallSql.Proofs.Parsing
import SmallSql.Storage.Files

namespace SmallSql.Files

/-! ## §1. Nodes. -/

/-- Taking away what is under one key changes no look-up under another. -/
theorem lookup_filter_ne {path p : Path} (h : p ≠ path) (nodes : List (Path × Node)) :
    (nodes.filter fun q => q.1 != path).lookup p = nodes.lookup p := by
  induction nodes with
  | nil => rfl
  | cons head rest ih =>
      obtain ⟨q, node⟩ := head
      by_cases hq : q = path
      · subst hq
        have hb : (p == q) = false := by simpa using h
        rw [List.filter_cons_of_neg (by simp), List.lookup_cons, hb, ih]
      · rw [List.filter_cons_of_pos (by simpa using hq), List.lookup_cons, List.lookup_cons, ih]

theorem node?_put_ne {fs : Files} {path p : Path} (h : p ≠ path) (node : Node) :
    (fs.put path node).node? p = fs.node? p := by
  have hb : (p == path) = false := by simpa using h
  unfold node? put
  rw [List.lookup_cons, hb, lookup_filter_ne h]

theorem node?_put_self {fs : Files} {path : Path} (h : path.isOrigin = false) (node : Node) :
    (fs.put path node).node? path = some node := by
  unfold node? put
  rw [h]
  simp

theorem node?_remove_ne {fs : Files} {path p : Path} (h : p ≠ path) :
    (fs.remove path).node? p = fs.node? p := by
  unfold node? remove
  rw [lookup_filter_ne h]

/-- Nothing is left where something was taken away. -/
theorem node?_remove_self {fs : Files} {path : Path} (h : path.isOrigin = false) :
    (fs.remove path).node? path = none := by
  unfold node? remove
  rw [h, if_neg Bool.false_ne_true]
  induction fs.nodes with
  | nil => rfl
  | cons head rest ih =>
      by_cases hq : head.1 = path
      · rw [List.filter_cons_of_neg (by simpa using hq), ih]
      · have hb : (path == head.1) = false := by simpa using Ne.symm hq
        rw [List.filter_cons_of_pos (by simpa using hq), List.lookup_cons, hb, ih]

/-! ## §2. Ways. -/

/-- The way to a path depends on shorter paths only. -/
theorem reach_congr {fs fs' : Files} {base path : Path}
    (h : ∀ p : Path, p.length < base.length + path.length → fs'.node? p = fs.node? p) :
    fs'.reach base path = fs.reach base path := by
  -- every folder on the way is at a path shorter than the whole
  induction path generalizing base with
  | nil => rfl
  | cons name rest ih =>
      cases rest with
      | nil => rfl
      | cons name' rest' =>
          have hnode := h (base ++ [name]) (by simp)
          have hrest : fs'.reach (base ++ [name]) (name' :: rest')
              = fs.reach (base ++ [name]) (name' :: rest') := by
            apply ih
            intro p hp
            apply h
            simp only [List.length_append, List.length_cons, List.length_nil] at hp ⊢
            omega
          unfold reach
          rw [hnode, hrest]

/-- What is put at the end of a way or beside it is not on the way. -/
theorem reach_put {path beside : Path} (hlength : path.length ≤ beside.length) (fs : Files)
    (node : Node) : (fs.put beside node).reach [] path = fs.reach [] path := by
  apply reach_congr
  intro p hp
  rw [List.length_nil, Nat.zero_add] at hp
  apply node?_put_ne
  rintro rfl
  omega

theorem reach_remove {path beside : Path} (hlength : path.length ≤ beside.length) (fs : Files) :
    (fs.remove beside).reach [] path = fs.reach [] path := by
  apply reach_congr
  intro p hp
  rw [List.length_nil, Nat.zero_add] at hp
  apply node?_remove_ne
  rintro rfl
  omega

/-- Two trees show the same at a path: whether something is there, and its text. -/
def SameAt (path : Path) (fs fs' : Files) : Prop :=
  fs'.holds path = fs.holds path ∧ fs'.readText path = fs.readText path

theorem SameAt.refl (path : Path) (fs : Files) : SameAt path fs fs := ⟨rfl, rfl⟩

theorem SameAt.trans {path : Path} {fs fs' fs'' : Files} (h : SameAt path fs fs')
    (h' : SameAt path fs' fs'') : SameAt path fs fs'' :=
  ⟨h'.1.trans h.1, h'.2.trans h.2⟩

/-- Trees with the same way to a path and the same node there show the same. -/
theorem sameAt_of_reach {path : Path} {fs fs' : Files}
    (hreach : fs'.reach [] path = fs.reach [] path) (hpath : fs'.node? path = fs.node? path) :
    SameAt path fs fs' := by
  unfold SameAt holds readText
  rw [hreach, hpath]
  exact ⟨rfl, rfl⟩

/-- What is put beside a path does not show there. -/
theorem sameAt_put {path beside : Path} (hlength : path.length ≤ beside.length)
    (hne : path ≠ beside) (fs : Files) (node : Node) : SameAt path fs (fs.put beside node) :=
  sameAt_of_reach (reach_put hlength fs node) (node?_put_ne hne node)

/-- What is taken away beside a path does not show there. -/
theorem sameAt_remove {path beside : Path} (hlength : path.length ≤ beside.length)
    (hne : path ≠ beside) (fs : Files) : SameAt path fs (fs.remove beside) :=
  sameAt_of_reach (reach_remove hlength fs) (node?_remove_ne hne)

/-- A text that is put at the end of a way is there. -/
theorem readText_put {fs : Files} {path : Path} (ho : path.isOrigin = false)
    (hreach : fs.reach [] path = .ok ()) (content : String) :
    (fs.put path (.text content)).readText path = .ok content
      ∧ (fs.put path (.text content)).holds path = true := by
  unfold readText holds
  rw [reach_put (Nat.le_refl _), hreach, node?_put_self ho]
  exact ⟨rfl, rfl⟩

/-- Where a text is read, something is there. -/
theorem holds_of_readText {fs : Files} {path : Path} {content : String}
    (h : fs.readText path = .ok content) : fs.holds path = true := by
  obtain ⟨_, hreach, h⟩ := bind_eq_ok.1 h
  unfold holds
  rw [hreach]
  split at h
  · next hnode =>
    rw [hnode]
    rfl
  · cases h
  · cases h

/-- Making a file puts an empty text at the end of a way, unless a folder is there. -/
theorem create_eq_ok {fs fs' : Files} {path : Path} :
    fs.create path = .ok fs' ↔ fs.reach [] path = .ok () ∧ fs.node? path ≠ some .folder
      ∧ fs' = fs.put path (.text "") := by
  constructor
  · intro h
    obtain ⟨_, hreach, h⟩ := bind_eq_ok.1 h
    split at h
    · cases h
    · next hnode =>
      cases h
      exact ⟨hreach, hnode, rfl⟩
  · rintro ⟨hreach, hnode, rfl⟩
    refine bind_eq_ok.2 ⟨(), hreach, ?_⟩
    split
    · next he => exact absurd he hnode
    · rfl

/-- A move puts the text of the one path at the other, unless a folder is there. -/
theorem rename_eq_ok {fs fs' : Files} {source target : Path} :
    fs.rename source target = .ok fs' ↔ ∃ content, fs.readText source = .ok content
      ∧ fs.reach [] target = .ok () ∧ fs.node? target ≠ some .folder
      ∧ fs' = (fs.remove source).put target (.text content) := by
  constructor
  · intro h
    obtain ⟨content, hcontent, h⟩ := bind_eq_ok.1 h
    obtain ⟨_, hreach, h⟩ := bind_eq_ok.1 h
    split at h
    · cases h
    · next hnode =>
      cases h
      exact ⟨content, hcontent, hreach, hnode, rfl⟩
  · rintro ⟨content, hcontent, hreach, hnode, rfl⟩
    refine bind_eq_ok.2 ⟨content, hcontent, bind_eq_ok.2 ⟨(), hreach, ?_⟩⟩
    split
    · next he => exact absurd he hnode
    · rfl

/-- After a move, the text of the one path is at the other. -/
theorem readText_rename {fs fs' : Files} {source target : Path} {content : String}
    (hlength : target.length ≤ source.length) (ho : target.isOrigin = false)
    (hsource : fs.readText source = .ok content) (h : fs.rename source target = .ok fs') :
    fs'.readText target = .ok content ∧ fs'.holds target = true := by
  obtain ⟨content', hcontent, hreach, -, rfl⟩ := rename_eq_ok.1 h
  rw [hsource] at hcontent
  cases hcontent
  rw [← reach_remove hlength] at hreach
  exact readText_put ho hreach content

end SmallSql.Files
