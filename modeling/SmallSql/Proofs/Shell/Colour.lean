/-
  SmallSql.Proofs.Shell.Colour
  ────────────────────────────────
  Colour never changes a text.  A colour sequence is an escape character, a bracket, numbers between
  semicolons, and an m; a reader sees the text without its sequences:

      written   ␛[1;36mname␛[0m   ␛[2mNULL  ␛[0m
      seen             name              NULL

  With colour a text is put together as without, from painted parts; and a painted part is seen as
  the part itself, whatever stands behind it.  No sequence goes over a line end, so the lines of a
  grid are seen one by one, and what is aligned without colour is aligned with it.
-/
import SmallSql.Proofs.Shell.Alignment

namespace SmallSql.Shell

/-! ## §1. What is seen of a text. -/

/-- The character that begins a sequence. -/
def escape : Char := '\x1b'

/-- A character of the numbers in a sequence, or between them. -/
def isCode (c : Char) : Bool := Text.isDigit c || c = ';'

/-- What stands behind codes and the `m` that ends them. -/
def behindCodes? : List Char → Option (List Char)
  | [] => none
  | c :: rest => if c = 'm' then some rest else if isCode c then behindCodes? rest else none

/-- What stands behind the sequence at the start of a text. -/
def behindSequence? : List Char → Option (List Char)
  | c :: '[' :: rest => if c = escape then behindCodes? rest else none
  | _ => none

theorem exists_codes {cs rest : List Char} (h : behindCodes? cs = some rest) :
    ∃ codes, cs = codes ++ 'm' :: rest := by
  induction cs with
  | nil => cases h
  | cons c cs ih =>
      unfold behindCodes? at h
      split at h
      · next hm =>
        cases h
        exact ⟨[], by rw [hm]; rfl⟩
      split at h
      · obtain ⟨codes, rfl⟩ := ih h
        exact ⟨c :: codes, rfl⟩
      · cases h

/-- What is taken off the text is an escape character, a bracket, codes and an `m`. -/
theorem exists_sequence {cs rest : List Char} (h : behindSequence? cs = some rest) :
    ∃ codes, cs = escape :: '[' :: (codes ++ 'm' :: rest) := by
  unfold behindSequence? at h
  split at h
  · split at h
    · next hescape =>
      obtain ⟨codes, rfl⟩ := exists_codes h
      exact ⟨codes, by rw [hescape]⟩
    · cases h
  · cases h

theorem behindSequence?_length {cs rest : List Char} (h : behindSequence? cs = some rest) :
    rest.length < cs.length := by
  obtain ⟨codes, rfl⟩ := exists_sequence h
  simp only [List.length_cons, List.length_append]
  omega

/-- The text without its sequences. -/
def uncoloured : List Char → List Char
  | [] => []
  | c :: rest =>
    match _h : behindSequence? (c :: rest) with
    | some behind => uncoloured behind
    | none => c :: uncoloured rest
termination_by cs => cs.length
decreasing_by
  · exact behindSequence?_length _h
  · exact Nat.lt_succ_self _

theorem uncoloured_of_sequence {cs rest : List Char} (h : behindSequence? cs = some rest) :
    uncoloured cs = uncoloured rest := by
  cases cs with
  | nil => cases h
  | cons c cs =>
      rw [uncoloured]
      split
      · next behind hbehind =>
        rw [h] at hbehind
        cases hbehind
        rfl
      · next hnone =>
        rw [h] at hnone
        cases hnone

theorem uncoloured_cons {c : Char} {cs : List Char} (h : behindSequence? (c :: cs) = none) :
    uncoloured (c :: cs) = c :: uncoloured cs := by
  rw [uncoloured]
  split
  · next behind hbehind =>
    rw [h] at hbehind
    cases hbehind
  · rfl

theorem behindSequence?_of_ne {c : Char} (h : c ≠ escape) (cs : List Char) :
    behindSequence? (c :: cs) = none := by
  unfold behindSequence?
  split
  · next heq =>
    cases heq
    exact if_neg h
  · rfl

/-- Whatever stands behind it, `seen` is seen of the text. -/
def SeenAs (text seen : List Char) : Prop :=
  ∀ rest, uncoloured (text ++ rest) = seen ++ uncoloured rest

namespace SeenAs

variable {text text' seen seen' : List Char}

theorem uncoloured_eq (h : SeenAs text seen) : uncoloured text = seen := by
  have hnothing := h []
  rwa [List.append_nil, uncoloured, List.append_nil] at hnothing

/-- A text without the character that begins sequences is seen as it is. -/
theorem self (h : escape ∉ text) : SeenAs text text := by
  intro rest
  induction text with
  | nil => rfl
  | cons c text ih =>
      have hc : c ≠ escape := (List.ne_of_not_mem_cons h).symm
      rw [List.cons_append, uncoloured_cons (behindSequence?_of_ne hc _),
        ih (List.not_mem_of_not_mem_cons h)]
      rfl

theorem append (h : SeenAs text seen) (h' : SeenAs text' seen') :
    SeenAs (text ++ text') (seen ++ seen') := by
  intro rest
  rw [List.append_assoc, h, h', List.append_assoc]

/-- Texts with a separator between them are seen one by one. -/
theorem intercalate {separator : List Char} {texts seens : List (List Char)}
    (hseparator : escape ∉ separator) (h : List.Forall₂ SeenAs texts seens) :
    SeenAs (separator.intercalate texts) (separator.intercalate seens) := by
  induction h with
  | nil => exact self List.not_mem_nil
  | @cons text seen texts seens hfirst hmore ih =>
      cases hmore with
      | nil =>
          rw [List.intercalate_singleton, List.intercalate_singleton]
          exact hfirst
      | cons hsecond hmore =>
          rw [List.intercalate_cons_cons, List.intercalate_cons_cons]
          exact (hfirst.append (self hseparator)).append ih

end SeenAs

/-! ## §2. Painted texts. -/

/-- The style is numbers between semicolons, so that its sequence ends with its `m`. -/
def Style.IsSequence (s : Style) : Prop := s.codes.toList.all isCode = true

instance (s : Style) : Decidable s.IsSequence :=
  inferInstanceAs (Decidable (s.codes.toList.all isCode = true))

theorem behindCodes?_append {codes : List Char} (h : ∀ c ∈ codes, isCode c = true)
    (rest : List Char) : behindCodes? (codes ++ 'm' :: rest) = some rest := by
  induction codes with
  | nil => rfl
  | cons c codes ih =>
      obtain ⟨hc, hcodes⟩ := List.forall_mem_cons.1 h
      have hm : c ≠ 'm' := by
        rintro rfl
        exact absurd hc (by decide)
      rw [List.cons_append, behindCodes?, if_neg hm, if_pos hc, ih hcodes]

/-- Nothing is seen of the sequence that begins a style. -/
theorem seenAs_start {s : Style} (h : s.IsSequence) : SeenAs s.start [] := by
  intro rest
  refine uncoloured_of_sequence ?_
  have hcodes := behindCodes?_append (List.all_eq_true.1 h) rest
  unfold Style.start
  simpa [behindSequence?, escape] using hcodes

theorem seenAs_stop : SeenAs Style.stop [] := fun _ => uncoloured_of_sequence rfl

/-- A style that the text does not end is not begun again. -/
theorem resumed_eq {s : Style} {text : List Char} (h : escape ∉ text) :
    s.resumed text = text := by
  fun_induction Style.resumed s text with
  | case1 rest => exact absurd List.mem_cons_self h
  | case2 c rest _ ih => rw [ih (List.not_mem_of_not_mem_cons h)]
  | case3 => rfl

/-- **A painted text is seen as the text.** -/
theorem seenAs_paint {s : Style} {text : List Char} (hs : s.IsSequence) (h : escape ∉ text) :
    SeenAs (s.paint true text) (s.paint false text) := by
  unfold Style.paint
  rw [if_pos rfl, if_neg Bool.false_ne_true, resumed_eq h]
  have hpainted := ((seenAs_start hs).append (.self h)).append seenAs_stop
  rwa [List.nil_append, List.append_nil] at hpainted

/-! ## §3. Lines. -/

/-- A line end is not among the codes. -/
theorem behindCodes?_newline (line rest : List Char) :
    behindCodes? (line ++ '\n' :: rest) = (behindCodes? line).map (· ++ '\n' :: rest) := by
  induction line with
  | nil => rfl
  | cons c line ih =>
      rw [List.cons_append, behindCodes?, behindCodes?]
      split
      · rfl
      split
      · exact ih
      · rfl

/-- A sequence ends in the line in which it begins. -/
theorem behindSequence?_newline (c : Char) (line rest : List Char) :
    behindSequence? (c :: (line ++ '\n' :: rest))
      = (behindSequence? (c :: line)).map (· ++ '\n' :: rest) := by
  cases line with
  | nil => rfl
  | cons d line =>
      by_cases hd : d = '['
      · subst hd
        show (if c = escape then behindCodes? (line ++ '\n' :: rest) else none)
          = (if c = escape then behindCodes? line else none).map (· ++ '\n' :: rest)
        rw [behindCodes?_newline]
        split <;> rfl
      · have hnone : ∀ more, behindSequence? (c :: d :: more) = none := by
          intro more
          unfold behindSequence?
          split
          · next heq =>
            cases heq
            exact absurd rfl hd
          · rfl
        rw [List.cons_append, hnone, hnone]
        rfl

/-- What is seen of a line is the same with and without the lines behind it. -/
theorem uncoloured_newline (line rest : List Char) :
    uncoloured (line ++ '\n' :: rest) = uncoloured line ++ '\n' :: uncoloured rest := by
  fun_induction uncoloured line with
  | case1 => exact uncoloured_cons (behindSequence?_of_ne (by decide) _)
  | case2 c line behind hbehind ih =>
      have hsequence := behindSequence?_newline c line rest
      rw [hbehind] at hsequence
      rw [List.cons_append, uncoloured_of_sequence hsequence, ih]
  | case3 c line hnone ih =>
      have hsequence := behindSequence?_newline c line rest
      rw [hnone] at hsequence
      rw [List.cons_append, uncoloured_cons hsequence, ih]
      rfl

/-- Only what stands in the text is seen. -/
theorem uncoloured_subset (text : List Char) : uncoloured text ⊆ text := by
  fun_induction uncoloured text with
  | case1 => exact List.Subset.refl []
  | case2 c rest behind hbehind ih =>
      obtain ⟨codes, hsequence⟩ := exists_sequence hbehind
      rw [hsequence]
      intro d hd
      have hd := ih hd
      simp [hd]
  | case3 c rest _ ih => exact List.cons_subset_cons c ih

/-- The lines of a text are seen one by one. -/
theorem splitOn_uncoloured (text : List Char) :
    (uncoloured text).splitOn '\n' = (text.splitOn '\n').map uncoloured := by
  -- by induction on the length: a text with a line end is two shorter ones
  induction hn : text.length using Nat.strongRecOn generalizing text with
  | ind n ih =>
    by_cases h : '\n' ∈ text
    · obtain ⟨line, rest, rfl, -⟩ := List.eq_append_cons_of_mem h
      rw [List.length_append, List.length_cons] at hn
      rw [uncoloured_newline, List.splitOn_append_cons_self, List.splitOn_append_cons_self,
        List.map_append, ih line.length (by omega) line rfl, ih rest.length (by omega) rest rfl]
    · have hseen : '\n' ∉ uncoloured text := fun hmem => h (uncoloured_subset text hmem)
      rw [List.splitOn_eq_singleton h, List.splitOn_eq_singleton hseen]
      rfl

/-! ## §4. Grids. -/

/-- No name and no cell holds the character that begins sequences. -/
structure GridUnescaped (columns : List String) (rows : List Row) : Prop where
  names : ∀ name ∈ columns, escape ∉ name.toList
  cells : ∀ row ∈ rows, ∀ cell ∈ row, escape ∉ cellText cell

theorem escape_not_mem_padRight {text : List Char} (h : escape ∉ text) (width : Nat) :
    escape ∉ padRight width text := by
  unfold padRight
  intro hmem
  rcases List.mem_append.1 hmem with htext | hblank
  · exact h htext
  · exact absurd (List.eq_of_mem_replicate hblank) (by decide)

/-- Fields are seen one by one as they are without colour. -/
theorem seenAs_fields {α : Type} {field : Bool → α → Nat → List Char} {items : List α}
    (h : ∀ item ∈ items, ∀ width, SeenAs (field true item width) (field false item width))
    (widths : List Nat) :
    List.Forall₂ SeenAs (List.zipWith (field true) items widths)
      (List.zipWith (field false) items widths) := by
  induction items generalizing widths with
  | nil => exact .nil
  | cons item items ih =>
      obtain ⟨hitem, hitems⟩ := List.forall_mem_cons.1 h
      cases widths with
      | nil => exact .nil
      | cons width widths => exact .cons (hitem width) (ih hitems widths)

theorem seenAs_headField {name : String} (h : escape ∉ name.toList) (width : Nat) :
    SeenAs (headField true name width) (headField false name width) :=
  seenAs_paint (by decide) (escape_not_mem_padRight h width)

theorem seenAs_bodyField {cell : Cell} (h : escape ∉ cellText cell) (width : Nat) :
    SeenAs (bodyField true cell width) (bodyField false cell width) := by
  cases cell with
  | null => exact seenAs_paint (by decide) (escape_not_mem_padRight h width)
  | text content => exact .self (escape_not_mem_padRight h width)

theorem seenAs_gridLine {fields fields' : List (List Char)}
    (h : List.Forall₂ SeenAs fields fields') : SeenAs (gridLine fields) (gridLine fields') := by
  have hblank : SeenAs [' '] [' '] := .self (by decide)
  have hbar : SeenAs ['|'] ['|'] := .self (by decide)
  have hsegments : List.Forall₂ SeenAs (fields.map fun f => ' ' :: (f ++ [' ']))
      (fields'.map fun f => ' ' :: (f ++ [' '])) := by
    rw [List.forall₂_map_left_iff, List.forall₂_map_right_iff]
    exact h.imp fun _ _ hfield => hblank.append (hfield.append hblank)
  exact hbar.append ((SeenAs.intercalate (by decide) hsegments).append hbar)

theorem seenAs_gridRule (widths : List Nat) : SeenAs (gridRule widths) (gridRule widths) := by
  refine .self fun h => ?_
  obtain ⟨segment, hsegment, hmem⟩ := exists_segment_of_mem h (by decide)
  obtain ⟨width, -, rfl⟩ := List.mem_map.1 hsegment
  exact absurd (List.eq_of_mem_replicate hmem) (by decide)

/-- The lines of a grid are seen one by one as they are without colour. -/
theorem seenAs_gridLines {columns : List String} {rows : List Row}
    (h : GridUnescaped columns rows) :
    List.Forall₂ SeenAs (gridLines true columns rows) (gridLines false columns rows) := by
  have hrule := seenAs_gridRule (gridWidths columns rows)
  have hhead := seenAs_gridLine
    (seenAs_fields (fun name hname => seenAs_headField (h.names name hname))
      (gridWidths columns rows))
  have hbody : List.Forall₂ SeenAs
      (rows.map fun row => gridLine (List.zipWith (bodyField true) row (gridWidths columns rows)))
      (rows.map fun row =>
        gridLine (List.zipWith (bodyField false) row (gridWidths columns rows))) := by
    rw [List.forall₂_map_left_iff, List.forall₂_map_right_iff, List.forall₂_same]
    intro row hrow
    exact seenAs_gridLine (seenAs_fields
      (fun cell hcell => seenAs_bodyField (h.cells row hrow cell hcell)) _)
  unfold gridLines
  refine List.rel_append (List.rel_append ?_ hbody) ?_
  · exact .cons hrule (.cons hhead (.cons hrule .nil))
  · split
    · exact .nil
    · exact .cons hrule .nil

theorem seenAs_renderGrid {columns : List String} {rows : List Row}
    (h : GridUnescaped columns rows) :
    SeenAs (renderGrid true columns rows).toList (renderGrid false columns rows).toList := by
  unfold renderGrid
  rw [String.toList_ofList, String.toList_ofList]
  exact .intercalate (by decide) (seenAs_gridLines h)

/-! ## §5. Replies and errors. -/

/-- Neither the message nor the grid of a reply holds the character that begins sequences. -/
structure ReplyUnescaped (reply : Reply) : Prop where
  message : escape ∉ reply.message.toList
  grid : ∀ columns rows, reply.columns = some columns → reply.rows = some rows →
    GridUnescaped columns rows

theorem seenAs_paintString {s : Style} {text : String} (hs : s.IsSequence)
    (h : escape ∉ text.toList) :
    SeenAs (s.paintString true text).toList (s.paintString false text).toList := by
  unfold Style.paintString
  rw [String.toList_ofList, String.toList_ofList]
  exact seenAs_paint hs h

theorem seenAs_renderReply {reply : Reply} (h : ReplyUnescaped reply) :
    SeenAs (renderReply true reply).toList (renderReply false reply).toList := by
  unfold renderReply
  split
  · next columns rows hcolumns hrows =>
    have hgrid := seenAs_renderGrid (h.grid columns rows hcolumns hrows)
    have hend : SeenAs "\n".toList "\n".toList := .self (by decide)
    simp only [String.toList_append]
    exact (hgrid.append hend).append (seenAs_paintString (by decide) h.message)
  · exact seenAs_paintString (by decide) h.message

theorem seenAs_renderError {e : SqlError} (h : escape ∉ e.message.toList) :
    SeenAs (renderError true e).toList (renderError false e).toList := by
  have hblank : SeenAs " ".toList " ".toList := .self (by decide)
  unfold renderError
  simp only [String.toList_append]
  exact ((seenAs_paintString (by decide) (by decide)).append hblank).append (.self h)

/-- **Without its sequences, what is shown in colour is what is shown without colour**: grids, as a
text and line by line, replies and errors. -/
theorem colour_never_changes_text :
    (∀ columns rows, GridUnescaped columns rows →
      uncoloured (renderGrid true columns rows).toList = (renderGrid false columns rows).toList
        ∧ (linesOf (renderGrid true columns rows)).map uncoloured
          = linesOf (renderGrid false columns rows))
      ∧ (∀ reply, ReplyUnescaped reply →
        uncoloured (renderReply true reply).toList = (renderReply false reply).toList)
      ∧ ∀ e : SqlError, escape ∉ e.message.toList →
        uncoloured (renderError true e).toList = (renderError false e).toList := by
  refine ⟨fun columns rows h => ?_, fun reply h => ?_, fun e h => ?_⟩
  · have hgrid := (seenAs_renderGrid h).uncoloured_eq
    refine ⟨hgrid, ?_⟩
    unfold linesOf
    rw [← splitOn_uncoloured, hgrid]
  · exact (seenAs_renderReply h).uncoloured_eq
  · exact (seenAs_renderError h).uncoloured_eq

/-- The reply to a SELECT of one row. -/
def oneNull : Reply where
  command := .select
  message := "one row"
  columns := some ["né"]
  rows := some [[.null]]

/-- A NULL under a name that takes more bytes than characters, and an error. -/
theorem colour_never_changes_text_null :
    ReplyUnescaped oneNull
      ∧ renderReply true oneNull
        = "+------+\n| \x1b[1;36mné  \x1b[0m |\n+------+\n| \x1b[2mNULL\x1b[0m |\n+------+\n"
          ++ "\x1b[2mone row\x1b[0m"
      ∧ uncoloured (renderReply true oneNull).toList
        = "+------+\n| né   |\n+------+\n| NULL |\n+------+\none row".toList
      ∧ (linesOf (renderGrid true ["né"] [[.null]])).map uncoloured
        = ["+------+".toList, "| né   |".toList, "+------+".toList, "| NULL |".toList,
          "+------+".toList]
      ∧ uncoloured (renderError true .noDatabaseSelected).toList
        = "Error: No database selected. Use 'USE database_name;' first.".toList := by
  obtain ⟨hgrids, hreplies, herrors⟩ := colour_never_changes_text
  have hgrid : GridUnescaped ["né"] [[.null]] := ⟨by decide, by decide⟩
  have hreply : ReplyUnescaped oneNull := by
    refine ⟨by decide, fun columns rows hcolumns hrows => ?_⟩
    cases hcolumns
    cases hrows
    exact hgrid
  refine ⟨hreply, by decide +kernel, ?_, ?_, ?_⟩
  · rw [hreplies oneNull hreply]
    decide +kernel
  · rw [(hgrids ["né"] [[.null]] hgrid).2]
    decide +kernel
  · rw [herrors .noDatabaseSelected (by decide)]
    decide +kernel

end SmallSql.Shell
