/-
  SmallSql.Proofs.Storage.FileStore
  ────────────────────────────────
  A file store whose writes may break down.  The store file is replaced in four steps,

      create ──▶ fill ──▶ sync ──▶ rename

  and any of them may fail, with whatever is then left at the spare path.  Only the last step
  touches the store file, so either the file has the new text or it is as it was; and the entries in
  memory are those of the file, before and after.
-/
import SmallSql.Proofs.Storage.Entries
import SmallSql.Proofs.Storage.Files
import SmallSql.Storage.Store

namespace SmallSql.FileStore

open Files (SameAt)

/-! ## §1. Breakdowns. -/

/-- A step that fails, its error, and what is left at the spare path. -/
structure Breakdown where
  step : Step
  fault : SqlError
  left : Option Node

/-- Leaves something at the spare path. -/
def leave (s : FileStore) (left : Option Node) (fs : Files) : Files :=
  match left with
  | some node => fs.put s.sparePath node
  | none => fs.remove s.sparePath

/-- Takes the steps of writing `text`, up to a breakdown if there is one. -/
def performUnder (s : FileStore) (breakdown? : Option Breakdown) (text : String) (fs : Files) :
    Except SqlError Unit × Files :=
  match breakdown? with
  | none => s.performAll text fs steps
  | some b => match s.performAll text fs (steps.takeWhile (· ≠ b.step)) with
    | (.ok (), fs') => (.error b.fault, s.leave b.left fs')
    | (.error e, fs') => (.error e, fs')

/-- Applies a batch, under a breakdown if there is one. -/
def applyUnder (s : FileStore) (breakdown? : Option Breakdown) (batch : Batch) :
    Except SqlError Unit × FileStore :=
  let (next, changed) := s.entries.applyBatch batch
  if changed then
    match s.performUnder breakdown? next.render s.files with
    | (.ok (), files) => (.ok (), { s with entries := next, files })
    | (.error e, files) => (.error e, { s with files })
  else (.ok (), s)

/-- Without a breakdown, a batch is applied as the store applies it. -/
theorem applyUnder_none (s : FileStore) (batch : Batch) : s.applyUnder none batch = s.apply batch :=
  rfl

variable {s : FileStore}

/-! ## §2. The two paths. -/

theorem path_ne_sparePath (s : FileStore) : s.path ≠ s.sparePath := by
  unfold path sparePath
  intro h
  have hnames := List.append_cancel_left h
  simp [storeFileName, spareFileName] at hnames

theorem path_length_le (s : FileStore) : s.path.length ≤ s.sparePath.length := by
  unfold path sparePath
  rw [List.length_append, List.length_append]
  exact Nat.le_refl _

/-- A path whose last name is no step out is no origin. -/
theorem isOrigin_append {folder : Path} {name : String} (h₁ : name ≠ Path.outermost)
    (h₂ : name ≠ Path.out) : Path.isOrigin (folder ++ [name]) = false := by
  unfold Path.isOrigin
  rw [Bool.or_eq_false_iff]
  constructor
  · rw [decide_eq_false_iff_not]
    intro h
    cases folder with
    | nil => exact h₁ (by simpa using h)
    | cons a rest => simp at h
  · simp [h₂]

theorem isOrigin_path (s : FileStore) : s.path.isOrigin = false :=
  isOrigin_append (by decide) (by decide)

theorem isOrigin_sparePath (s : FileStore) : s.sparePath.isOrigin = false :=
  isOrigin_append (by decide) (by decide)

theorem sameAt_put_spare (fs : Files) (node : Node) :
    SameAt s.path fs (fs.put s.sparePath node) :=
  Files.sameAt_put s.path_length_le s.path_ne_sparePath fs node

theorem sameAt_leave (left : Option Node) (fs : Files) :
    SameAt s.path fs (s.leave left fs) := by
  cases left with
  | none => exact Files.sameAt_remove s.path_length_le s.path_ne_sparePath fs
  | some node => exact sameAt_put_spare fs node

/-! ## §3. Steps. -/

/-- Making the spare file puts an empty text, if its written path is not too long. -/
theorem createSpare_eq_ok {fs fs' : Files} :
    s.createSpare fs = .ok fs' ↔ Route.isTooLong s.spareShown = false
      ∧ fs.reach [] s.sparePath = .ok () ∧ fs.node? s.sparePath ≠ some .folder
      ∧ fs' = fs.put s.sparePath (.text "") := by
  unfold createSpare
  by_cases hshown : Route.isTooLong s.spareShown = true
  · rw [if_pos hshown, hshown]
    simp
  · rw [if_neg hshown, Files.create_eq_ok]
    simp [hshown]

theorem mapError_eq_ok {ε ε' α : Type} {f : ε → ε'} {x : Except ε α} {a : α} :
    x.mapError f = .ok a ↔ x = .ok a := by
  cases x with
  | error e => constructor <;> exact nofun
  | ok b =>
      show (Except.ok b : Except ε' α) = .ok a ↔ (Except.ok b : Except ε α) = .ok a
      rw [Except.ok.injEq, Except.ok.injEq]

/-- Every step but the last leaves the store file alone. -/
theorem sameAt_perform {text : String} {fs fs' : Files} {step : Step} (hstep : step ≠ .rename)
    (h : s.perform text fs step = .ok fs') : SameAt s.path fs fs' := by
  cases step with
  | create =>
      obtain ⟨-, -, -, rfl⟩ := createSpare_eq_ok.1 (mapError_eq_ok.1 h)
      exact sameAt_put_spare fs _
  | fill =>
      cases h
      exact sameAt_put_spare fs _
  | sync =>
      cases h
      exact .refl s.path fs
  | rename => exact absurd rfl hstep

/-- All steps succeed when the first does, and the others do from there. -/
theorem performAll_cons_eq_ok {text : String} {fs fs' : Files} {step : Step} {rest : List Step}
    (h : s.performAll text fs (step :: rest) = (.ok (), fs')) :
    ∃ mid, s.perform text fs step = .ok mid ∧ s.performAll text mid rest = (.ok (), fs') := by
  unfold performAll at h
  split at h
  · cases h
  · next mid hmid => exact ⟨mid, hmid, h⟩

/-- Steps without the last leave the store file alone, whether they succeed or not. -/
theorem sameAt_performAll {text : String} {fs : Files} {l : List Step} (h : .rename ∉ l) :
    SameAt s.path fs (s.performAll text fs l).2 := by
  induction l generalizing fs with
  | nil => exact .refl s.path fs
  | cons step rest ih =>
      unfold performAll
      split
      · exact .refl s.path fs
      · next mid hmid =>
        have hstep : step ≠ .rename := fun hs => h (hs ▸ List.mem_cons_self)
        exact (sameAt_perform hstep hmid).trans (ih fun hr => h (List.mem_cons_of_mem _ hr))

/-- Steps that fail leave the store file alone, if renaming comes last among them. -/
theorem sameAt_performAll_of_error {text : String} {fs fs' : Files} {e : SqlError}
    {l : List Step} (hl : .rename ∉ l.dropLast)
    (h : s.performAll text fs l = (.error e, fs')) : SameAt s.path fs fs' := by
  induction l generalizing fs with
  | nil => cases h
  | cons step rest ih =>
      unfold performAll at h
      split at h
      · cases h
        exact .refl s.path _
      · next mid hmid =>
        cases rest with
        | nil => cases h
        | cons second rest =>
            rw [List.dropLast_cons_cons] at hl
            have hstep : step ≠ .rename := fun hs => hl (hs ▸ List.mem_cons_self)
            have hrest := ih (fun hr => hl (List.mem_cons_of_mem _ hr)) h
            exact (sameAt_perform hstep hmid).trans hrest

/-- After all steps the store file has the text, and its written path is not too long. -/
theorem performAll_steps_eq_ok {text : String} {fs fs' : Files}
    (h : s.performAll text fs steps = (.ok (), fs')) :
    fs'.readText s.path = .ok text ∧ fs'.holds s.path = true
      ∧ Route.isTooLong s.spareShown = false := by
  obtain ⟨fs₁, hcreate, h₁⟩ := performAll_cons_eq_ok h
  obtain ⟨fs₂, hfill, h₂⟩ := performAll_cons_eq_ok h₁
  obtain ⟨fs₃, hsync, h₃⟩ := performAll_cons_eq_ok h₂
  obtain ⟨fs₄, hrename, h₄⟩ := performAll_cons_eq_ok h₃
  obtain ⟨hshown, hreach, -, rfl⟩ := createSpare_eq_ok.1 (mapError_eq_ok.1 hcreate)
  obtain rfl := Except.ok.inj hfill
  obtain rfl := Except.ok.inj hsync
  obtain rfl : fs₄ = fs' := congrArg Prod.snd h₄
  have hspare : (fs.put s.sparePath (.text "")).reach [] s.sparePath = .ok () := by
    rw [Files.reach_put (Nat.le_refl _), hreach]
  have htext := (Files.readText_put s.isOrigin_sparePath hspare text).1
  obtain ⟨hread, hholds⟩ := Files.readText_rename s.path_length_le s.isOrigin_path htext
    (mapError_eq_ok.1 hrename)
  exact ⟨hread, hholds, hshown⟩

/-- **Writing either puts the text into the store file or leaves the file alone**, whatever breaks
down. -/
theorem performUnder_spec (s : FileStore) (breakdown? : Option Breakdown) (text : String)
    (fs : Files) :
    match s.performUnder breakdown? text fs with
    | (.ok (), fs') => fs'.readText s.path = .ok text ∧ fs'.holds s.path = true
        ∧ Route.isTooLong s.spareShown = false
    | (.error _, fs') => SameAt s.path fs fs' := by
  unfold performUnder
  cases breakdown? with
  | none =>
      dsimp only
      split
      · next fs' h => exact performAll_steps_eq_ok h
      · next e fs' h => exact sameAt_performAll_of_error (by decide) h
  | some b =>
      have hcut : .rename ∉ steps.takeWhile (· ≠ b.step) := by
        cases hb : b.step <;> decide
      have hsame : SameAt s.path fs
          (s.performAll text fs (steps.takeWhile (· ≠ b.step))).2 := sameAt_performAll hcut
      dsimp only
      cases hrun : s.performAll text fs (steps.takeWhile (· ≠ b.step)) with
      | mk result fs' =>
          rw [hrun] at hsame
          cases result with
          | ok _ => exact hsame.trans (sameAt_leave b.left fs')
          | error e => exact hsame

/-! ## §4. Memory and file. -/

/-- What is read of a store file depends on what the files show there. -/
theorem load_congr {path : Path} {fs fs' : Files} (h : SameAt path fs fs') :
    load fs' path = load fs path := by
  unfold load
  rw [h.1, h.2]

theorem load_of_text {path : Path} {fs : Files} {text : String} (hholds : fs.holds path = true)
    (hread : fs.readText path = .ok text) :
    load fs path = (Entries.parse text).mapError .json := by
  unfold load
  rw [if_pos hholds, hread]

/-- The entries are those of the store file, as far as its written path can be followed. -/
def IsCurrent (s : FileStore) : Prop :=
  if Route.isTooLong s.shown then s.entries = .empty else load s.files s.path = .ok s.entries

/-- A store that was opened is current. -/
theorem isCurrent_of_openAt {folder : Path} {shown : String} {fs : Files}
    (h : openAt folder shown fs = .ok s) : s.IsCurrent := by
  unfold openAt at h
  by_cases hl : Route.isTooLong shown = true
  · rw [if_pos hl] at h
    cases h
    unfold IsCurrent
    rw [if_pos hl]
  · rw [if_neg hl] at h
    obtain ⟨entries, hentries, h⟩ := bind_eq_ok.1 h
    cases h
    unfold IsCurrent
    rw [if_neg hl]
    exact hentries

/-- A store that was opened where nothing is. -/
def fresh : FileStore where
  folder := []
  shown := "store.json"
  entries := .empty
  files := {}

/-- **A current store is the same when it is opened again from its file.** -/
theorem IsCurrent.reopen (h : s.IsCurrent) : s.reopen = .ok s := by
  unfold IsCurrent at h
  unfold FileStore.reopen openAt
  by_cases hl : Route.isTooLong s.shown = true
  · rw [if_pos hl] at h ⊢
    rw [← h]
    rfl
  · rw [if_neg hl] at h ⊢
    change (load s.files s.path >>= _) = _
    rw [h]
    rfl

/-- Whether a store is current depends on what its files show at the store file. -/
theorem IsCurrent.of_sameAt (h : s.IsCurrent) {fs : Files} (hsame : SameAt s.path s.files fs) :
    ({ s with files := fs } : FileStore).IsCurrent := by
  unfold IsCurrent at h ⊢
  rw [← load_congr hsame] at h
  exact h

/-- A written path is no shorter with the ending of the spare file. -/
theorem isTooLong_shown (h : Route.isTooLong s.spareShown = false) :
    Route.isTooLong s.shown = false := by
  unfold Route.isTooLong spareShown at h
  unfold Route.isTooLong
  rw [decide_eq_false_iff_not] at h ⊢
  rw [String.utf8ByteSize_append] at h
  omega

/-- The store file is there and holds the written form of the entries. -/
structure IsWritten (s : FileStore) : Prop where
  reachable : Route.isTooLong s.shown = false
  holds : s.files.holds s.path = true
  text : s.files.readText s.path = .ok s.entries.render

/-- A store that was written is current. -/
theorem IsWritten.isCurrent (h : s.IsWritten) : s.IsCurrent := by
  have hload : load s.files s.path = .ok s.entries := by
    rw [load_of_text h.holds h.text, Entries.parse_render]
    rfl
  unfold IsCurrent
  rw [h.reachable]
  exact hload

/-- The text of the store file, as far as its written path can be followed; none if there is no
file. -/
def seenText? (s : FileStore) : Option String :=
  if Route.isTooLong s.shown then none else s.fileText?

/-- The entries that a store file stands for: a missing one stands for none, as a blank one does. -/
def decode : Option String → Except Json.Fault Entries
  | none => .ok .empty
  | some text => Entries.parse text

/-- The file of a current store stands for its entries. -/
theorem IsCurrent.decode_eq (h : s.IsCurrent) : decode s.seenText? = .ok s.entries := by
  unfold IsCurrent at h
  unfold seenText?
  by_cases hl : Route.isTooLong s.shown = true
  · rw [if_pos hl] at h ⊢
    rw [h]
    rfl
  · rw [if_neg hl] at h ⊢
    unfold load at h
    unfold fileText?
    cases hread : s.files.readText s.path with
    | ok text =>
        have hholds : s.files.holds s.path = true := Files.holds_of_readText hread
        rw [if_pos hholds, hread] at h
        exact mapError_eq_ok.1 h
    | error fault =>
        rw [hread] at h
        split at h
        · cases h
        · exact congrArg Except.ok (Except.ok.inj h)

theorem IsWritten.seenText?_eq (h : s.IsWritten) : s.seenText? = some s.entries.render := by
  unfold seenText? fileText?
  rw [h.reachable, h.text]
  rfl

/-- **A batch takes effect in memory and in the file or in neither**, whatever breaks down: it
changes nothing and nothing is written, or the store is written with the new entries, or it fails
and the entries and the store file are as before. -/
theorem applyUnder_cases (s : FileStore) (breakdown? : Option Breakdown) (batch : Batch) :
    ((s.entries.applyBatch batch).2 = false ∧ s.applyUnder breakdown? batch = (.ok (), s))
      ∨ (∃ fs, s.applyUnder breakdown? batch
          = (.ok (), { s with entries := (s.entries.applyBatch batch).1, files := fs })
        ∧ (s.entries.applyBatch batch).2 = true
        ∧ IsWritten { s with entries := (s.entries.applyBatch batch).1, files := fs })
      ∨ ∃ fault fs, s.applyUnder breakdown? batch = (.error fault, { s with files := fs })
        ∧ SameAt s.path s.files fs := by
  unfold applyUnder
  cases hbatch : s.entries.applyBatch batch with
  | mk next changed =>
      cases changed with
      | false => exact .inl ⟨rfl, rfl⟩
      | true =>
          have hspec := s.performUnder_spec breakdown? next.render s.files
          dsimp only
          rw [if_pos rfl]
          cases hrun : s.performUnder breakdown? next.render s.files with
          | mk result fs =>
              rw [hrun] at hspec
              cases result with
              | ok _ =>
                  obtain ⟨hread, hholds, hshown⟩ := hspec
                  exact .inr (.inl ⟨fs, rfl, rfl, isTooLong_shown hshown, hholds, hread⟩)
              | error fault => exact .inr (.inr ⟨fault, fs, rfl, hspec⟩)

theorem path_applyUnder (s : FileStore) (breakdown? : Option Breakdown) (batch : Batch) :
    (s.applyUnder breakdown? batch).2.path = s.path := by
  rcases s.applyUnder_cases breakdown? batch with ⟨-, h⟩ | ⟨fs, h, -⟩ | ⟨fault, fs, h, -⟩
  · rw [h]
  · rw [h]
    rfl
  · rw [h]
    rfl

/-- A store stays current. -/
theorem IsCurrent.applyUnder (h : s.IsCurrent) (breakdown? : Option Breakdown) (batch : Batch) :
    (s.applyUnder breakdown? batch).2.IsCurrent := by
  rcases s.applyUnder_cases breakdown? batch with ⟨-, he⟩ | ⟨fs, he, -, hw⟩ | ⟨fault, fs, he, hsame⟩
  · rw [he]
    exact h
  · rw [he]
    exact hw.isCurrent
  · rw [he]
    exact h.of_sameAt hsame

/-- A batch that took effect has left its entries. -/
theorem entries_applyUnder {breakdown? : Option Breakdown} {batch : Batch}
    (hok : (s.applyUnder breakdown? batch).1 = .ok ()) :
    (s.applyUnder breakdown? batch).2.entries = (s.entries.applyBatch batch).1 := by
  rcases s.applyUnder_cases breakdown? batch with ⟨hsame, h⟩ | ⟨fs, h, -⟩ | ⟨fault, fs, h, -⟩
  · rw [h, Entries.applyBatch_of_unchanged hsame]
  · rw [h]
  · rw [h] at hok
    cases hok

/-- After a batch that took effect, look-ups find what it wrote. -/
theorem get?_applyUnder {breakdown? : Option Breakdown} {batch : Batch}
    (hok : (s.applyUnder breakdown? batch).1 = .ok ()) (key : String) :
    (s.applyUnder breakdown? batch).2.entries.get? key
      = (s.entries.applyBatch batch).1.get? key := by
  rw [entries_applyUnder hok]

/-- A batch that failed has changed neither the entries nor the text of the store file. -/
theorem kept_applyUnder {breakdown? : Option Breakdown} {batch : Batch} {fault : SqlError}
    (herror : (s.applyUnder breakdown? batch).1 = .error fault) :
    (s.applyUnder breakdown? batch).2.entries = s.entries
      ∧ (s.applyUnder breakdown? batch).2.fileText? = s.fileText? := by
  rcases s.applyUnder_cases breakdown? batch with ⟨-, h⟩ | ⟨fs, h, -⟩ | ⟨fault', fs, h, hsame⟩
  · rw [h] at herror
    cases herror
  · rw [h] at herror
    cases herror
  · rw [h]
    refine ⟨rfl, ?_⟩
    show (fs.readText s.path).toOption = _
    rw [hsame.2]
    rfl

/-! ## §5. Writes that succeed. -/

/-- Any text can be written. -/
def IsWritable (s : FileStore) : Prop :=
  ∀ text, (s.performAll text s.files steps).1 = .ok ()

/-- What it takes to write a text: a way to both paths, no folder at either, and a written path that
is not too long. -/
structure IsOpen (s : FileStore) (fs : Files) : Prop where
  shown : Route.isTooLong s.spareShown = false
  spareWay : fs.reach [] s.sparePath = .ok ()
  spareNode : fs.node? s.sparePath ≠ some .folder
  way : fs.reach [] s.path = .ok ()
  node : fs.node? s.path ≠ some .folder

theorem sparePath_length_le (s : FileStore) : s.sparePath.length ≤ s.path.length := by
  unfold path sparePath
  rw [List.length_append, List.length_append]
  exact Nat.le_refl _

/-- The files after a text was written. -/
def writtenFiles (s : FileStore) (text : String) (fs : Files) : Files :=
  (((fs.put s.sparePath (.text "")).put s.sparePath (.text text)).remove s.sparePath).put s.path
    (.text text)

theorem performAll_cons {text : String} {fs mid : Files} {step : Step}
    (h : s.perform text fs step = .ok mid) (rest : List Step) :
    s.performAll text fs (step :: rest) = s.performAll text mid rest := by
  rw [performAll, h]

/-- Where writing is open, every text is written. -/
theorem IsOpen.performAll_eq {fs : Files} (h : s.IsOpen fs) (text : String) :
    s.performAll text fs steps = (.ok (), s.writtenFiles text fs) := by
  have hcreate : s.perform text fs .create = .ok (fs.put s.sparePath (.text "")) :=
    mapError_eq_ok.2 (createSpare_eq_ok.2 ⟨h.shown, h.spareWay, h.spareNode, rfl⟩)
  have hspare : (fs.put s.sparePath (.text "")).reach [] s.sparePath = .ok () := by
    rw [Files.reach_put (Nat.le_refl _), h.spareWay]
  -- the rename moves what the spare file holds, which is the text
  have hread := (Files.readText_put s.isOrigin_sparePath hspare text).1
  have hway : ((fs.put s.sparePath (.text "")).put s.sparePath (.text text)).reach [] s.path
      = .ok () := by
    rw [Files.reach_put s.path_length_le, Files.reach_put s.path_length_le, h.way]
  have hnode : ((fs.put s.sparePath (.text "")).put s.sparePath (.text text)).node? s.path
      ≠ some .folder := by
    rw [Files.node?_put_ne s.path_ne_sparePath, Files.node?_put_ne s.path_ne_sparePath]
    exact h.node
  have hrename : s.perform text ((fs.put s.sparePath (.text "")).put s.sparePath (.text text))
      .rename = .ok (s.writtenFiles text fs) :=
    mapError_eq_ok.2 (Files.rename_eq_ok.2 ⟨text, hread, hway, hnode, rfl⟩)
  unfold steps
  rw [performAll_cons hcreate, performAll_cons rfl, performAll_cons rfl, performAll_cons hrename]
  rfl

/-- Writing stays open: the spare file is gone, and a text is at the other path. -/
theorem IsOpen.written {fs : Files} (h : s.IsOpen fs) (text : String) :
    s.IsOpen (s.writtenFiles text fs) where
  shown := h.shown
  spareWay := by
    unfold writtenFiles
    rw [Files.reach_put s.sparePath_length_le, Files.reach_remove (Nat.le_refl _),
      Files.reach_put (Nat.le_refl _), Files.reach_put (Nat.le_refl _), h.spareWay]
  spareNode := by
    unfold writtenFiles
    rw [Files.node?_put_ne s.path_ne_sparePath.symm, Files.node?_remove_self s.isOrigin_sparePath]
    exact nofun
  way := by
    unfold writtenFiles
    rw [Files.reach_put (Nat.le_refl _), Files.reach_remove s.path_length_le,
      Files.reach_put s.path_length_le, Files.reach_put s.path_length_le, h.way]
  node := by
    unfold writtenFiles
    rw [Files.node?_put_self s.isOrigin_path]
    exact nofun

/-- Where a text was written, writing is open. -/
theorem isOpen_of_performAll {text : String} {fs fs' : Files}
    (h : s.performAll text fs steps = (.ok (), fs')) : s.IsOpen fs := by
  obtain ⟨fs₁, hcreate, h₁⟩ := performAll_cons_eq_ok h
  obtain ⟨fs₂, hfill, h₂⟩ := performAll_cons_eq_ok h₁
  obtain ⟨fs₃, hsync, h₃⟩ := performAll_cons_eq_ok h₂
  obtain ⟨fs₄, hrename, -⟩ := performAll_cons_eq_ok h₃
  obtain ⟨hshown, hspare, hnode, rfl⟩ := createSpare_eq_ok.1 (mapError_eq_ok.1 hcreate)
  obtain rfl := Except.ok.inj hfill
  obtain rfl := Except.ok.inj hsync
  obtain ⟨content, -, hway, hpath, -⟩ := Files.rename_eq_ok.1 (mapError_eq_ok.1 hrename)
  rw [Files.reach_put s.path_length_le, Files.reach_put s.path_length_le] at hway
  rw [Files.node?_put_ne s.path_ne_sparePath, Files.node?_put_ne s.path_ne_sparePath] at hpath
  exact ⟨hshown, hspare, hnode, hway, hpath⟩

/-- **Whether a store can be written does not depend on the text, and it can still be written
afterwards.** -/
theorem IsWritable.apply (h : s.IsWritable) (batch : Batch) :
    (s.apply batch).1 = .ok () ∧ (s.apply batch).2.IsWritable := by
  have hrun : s.performAll "" s.files steps = (.ok (), (s.performAll "" s.files steps).2) :=
    Prod.ext (h "") rfl
  have hopen := isOpen_of_performAll hrun
  unfold FileStore.apply
  cases hbatch : s.entries.applyBatch batch with
  | mk next changed =>
      cases changed with
      | false => exact ⟨rfl, h⟩
      | true =>
          dsimp only
          rw [if_pos rfl, hopen.performAll_eq next.render]
          refine ⟨rfl, fun text => ?_⟩
          show (s.performAll text (s.writtenFiles next.render s.files) steps).1 = .ok ()
          rw [(hopen.written next.render).performAll_eq text]

end SmallSql.FileStore
