/-
  SmallSql.Proofs.Shell.Alignment
  ────────────────────────────────
  The grid of a SELECT stands in straight columns.  All its lines are framed in the same way, a mark
  in front of each segment and one behind the last:

      edges    0      7         17
               +------+---------+
               | name | email   |
               +------+---------+
               | Ana  | a@x.com |
               +------+---------+

  Where the marks stand depends on the lengths of the segments only.  These are the same in every
  line, because a field is filled up to the width of its column and none is wider than that.
-/
import Mathlib.Data.List.Forall2
import SmallSql.Proofs.Statement.Run
import SmallSql.Shell.Grid

namespace SmallSql.Shell

/-! ## §1. Straight columns. -/

/-- The lines of a text. -/
def linesOf (text : String) : List (List Char) := text.toList.splitOn '\n'

/-- The characters of a line between two positions. -/
def between (line : List Char) (left right : Nat) : List Char := (line.take right).drop (left + 1)

/-- A line with the mark at every edge, from the first position to the last, and between
neighbouring edges what it has to hold there. -/
structure Divided (edges : List Nat) (mark : Char) (holds : Nat → List Char → Prop)
    (cs : List Char) : Prop where
  ends : ∃ last, edges.getLast? = some last ∧ cs.length = last + 1
  marks : ∀ edge ∈ edges, cs[edge]? = some mark
  segments : ∀ i left right, edges[i]? = some left → edges[i + 1]? = some right →
    holds i (between cs left right)

/-- In the segment of each field stand one blank, the field, and then blanks only. -/
def ShowsField (fields : List (List Char)) (i : Nat) (segment : List Char) : Prop :=
  ∀ field, fields[i]? = some field → ∃ k, segment = ' ' :: (field ++ List.replicate k ' ')

/-- The lines are the columns and rows in straight columns between these edges: a rule, the names of
the columns, the rule, a line for each row in their order, and the rule again if there are rows. -/
structure Aligned (columns : List String) (rows : List Row) (edges : List Nat)
    (lines : List (List Char)) (rule head : List Char) (body : List (List Char)) : Prop where
  lines_eq : lines = [rule, head, rule] ++ body ++ if rows.isEmpty then [] else [rule]
  sameLength : ∀ line ∈ lines, line.length = rule.length
  starts : edges.head? = some 0
  ordered : edges.Pairwise (· < ·)
  /-- Each column stands between two edges of its own. -/
  count : columns ≠ [] → edges.length = columns.length + 1
  rule : Divided edges '+' (fun _ segment => ∀ c ∈ segment, c = '-') rule
  head : Divided edges '|' (ShowsField (columns.map String.toList)) head
  body : List.Forall₂ (fun row line => row.length = columns.length
    ∧ Divided edges '|' (ShowsField (row.map cellText)) line) rows body

/-- Lines that are divided at the same edges are of the same length. -/
theorem Divided.length_eq {edges : List Nat} {mark mark' : Char}
    {holds holds' : Nat → List Char → Prop} {line line' : List Char}
    (h : Divided edges mark holds line) (h' : Divided edges mark' holds' line') :
    line.length = line'.length := by
  obtain ⟨last, hlast, hlength⟩ := h.ends
  obtain ⟨last', hlast', hlength'⟩ := h'.ends
  rw [hlast] at hlast'
  cases hlast'
  rw [hlength, hlength']

/-! ## §2. Framed lines. -/

/-- A mark in front of each segment, and one behind the last. -/
def framed (mark : Char) (segments : List (List Char)) : List Char :=
  segments.flatMap (mark :: ·) ++ [mark]

/-- Where the marks stand around segments of these lengths, the first mark at `start`. -/
def edgesFrom (start : Nat) : List Nat → List Nat
  | [] => [start]
  | n :: ns => start :: edgesFrom (start + n + 1) ns

theorem edgesFrom_head? (start : Nat) (lengths : List Nat) :
    (edgesFrom start lengths).head? = some start := by
  cases lengths <;> rfl

theorem length_edgesFrom (start : Nat) (lengths : List Nat) :
    (edgesFrom start lengths).length = lengths.length + 1 := by
  induction lengths generalizing start with
  | nil => rfl
  | cons n ns ih => exact congrArg (· + 1) (ih (start + n + 1))

theorem le_of_mem_edgesFrom {start edge : Nat} {lengths : List Nat}
    (h : edge ∈ edgesFrom start lengths) : start ≤ edge := by
  induction lengths generalizing start with
  | nil => exact Nat.le_of_eq (List.mem_singleton.1 h).symm
  | cons n ns ih =>
      rcases List.mem_cons.1 h with rfl | h
      · exact Nat.le_refl _
      · have := ih h
        omega

theorem edgesFrom_pairwise (start : Nat) (lengths : List Nat) :
    (edgesFrom start lengths).Pairwise (· < ·) := by
  induction lengths generalizing start with
  | nil => exact List.pairwise_singleton _ _
  | cons n ns ih =>
      refine List.pairwise_cons.2 ⟨fun edge hedge => ?_, ih (start + n + 1)⟩
      have := le_of_mem_edgesFrom hedge
      omega

/-- The framed line without its first segment begins behind it. -/
theorem append_framed_cons (before : List Char) (mark : Char) (segment : List Char)
    (segments : List (List Char)) :
    before ++ framed mark (segment :: segments)
      = (before ++ mark :: segment) ++ framed mark segments := by
  simp [framed]

/-- Between the marks around a segment stands the segment. -/
theorem between_append (before segment rest : List Char) (mark : Char) :
    between (before ++ mark :: (segment ++ rest)) before.length (before.length + segment.length + 1)
      = segment := by
  have htake : (before ++ mark :: (segment ++ rest)).take (before.length + segment.length + 1)
      = before ++ mark :: segment := by
    rw [← List.cons_append, ← List.append_assoc]
    exact List.take_left' (by simp; omega)
  unfold between
  rw [htake, List.append_cons]
  exact List.drop_left' (by simp)

/-- **The marks of a framed line stand where the lengths of its segments say.** -/
theorem divided_framed (mark : Char) {segments : List (List Char)}
    {holds : Nat → List Char → Prop}
    (h : ∀ i segment, segments[i]? = some segment → holds i segment) (before : List Char) :
    Divided (edgesFrom before.length (segments.map List.length)) mark holds
      (before ++ framed mark segments) := by
  -- what stands in front of the line grows by one segment after the other
  induction segments generalizing before holds with
  | nil =>
      refine ⟨⟨before.length, rfl, by simp [framed]⟩, ?_, ?_⟩
      · intro edge hedge
        obtain rfl := List.mem_singleton.1 hedge
        exact List.getElem?_concat_length
      · intro i left right _ hright
        cases hright
  | cons segment segments ih =>
      have hsegments : ∀ i s, segments[i]? = some s → holds (i + 1) s :=
        fun i s hs => h (i + 1) s hs
      have hrest := ih hsegments (before ++ mark :: segment)
      have hstart : (before ++ mark :: segment).length = before.length + segment.length + 1 := by
        simp
        omega
      rw [hstart, ← append_framed_cons] at hrest
      obtain ⟨⟨last, hlast, hlength⟩, hmarks, hsegments⟩ := hrest
      rw [List.map_cons, edgesFrom]
      refine ⟨⟨last, ?_, hlength⟩, ?_, ?_⟩
      · rw [List.getLast?_cons, hlast]
        rfl
      · intro edge hedge
        rcases List.mem_cons.1 hedge with rfl | hedge
        · simp [framed]
        · exact hmarks edge hedge
      · intro i left right hleft hright
        cases i with
        | zero =>
            rw [List.getElem?_cons_zero] at hleft
            rw [List.getElem?_cons_succ, ← List.head?_eq_getElem?, edgesFrom_head?] at hright
            cases hleft
            cases hright
            have hsegment := between_append before segment (framed mark segments) mark
            have hline : framed mark (segment :: segments)
                = mark :: (segment ++ framed mark segments) := by simp [framed]
            rw [hline, hsegment]
            exact h 0 segment rfl
        | succ i => exact hsegments i left right hleft hright

/-- Lines are framed by marks between their segments and at both ends; without segments they are
framed as with an empty one. -/
theorem framed_eq (mark : Char) (segments : List (List Char)) :
    mark :: ([mark].intercalate segments ++ [mark])
      = framed mark (if segments = [] then [[]] else segments) := by
  cases segments with
  | nil => rfl
  | cons segment segments =>
      rw [if_neg (List.cons_ne_nil _ _)]
      induction segments generalizing segment with
      | nil => simp [framed]
      | cons second segments ih =>
          have hmore := ih second
          rw [List.intercalate_cons_cons]
          simp only [framed, List.flatMap_cons] at hmore ⊢
          simp only [List.append_assoc, List.cons_append, List.nil_append] at hmore ⊢
          rw [hmore]

/-! ## §3. Widths. -/

/-- No field is wider than its column. -/
def Fit (fields : List (List Char)) (widths : List Nat) : Prop :=
  List.Forall₂ (fun field width => field.length ≤ width) fields widths

theorem widen_le {widths : List Nat} {row : Row} :
    List.Forall₂ (· ≤ ·) widths (widen widths row) := by
  induction widths generalizing row with
  | nil => cases row <;> exact .nil
  | cons width widths ih =>
      cases row with
      | nil => exact List.forall₂_same.2 fun n _ => Nat.le_refl n
      | cons cell row => exact .cons (Nat.le_max_left _ _) ih

theorem fit_widen {widths : List Nat} {row : Row} (h : row.length = widths.length) :
    Fit (row.map cellText) (widen widths row) := by
  induction widths generalizing row with
  | nil =>
      obtain rfl := List.eq_nil_of_length_eq_zero h
      exact .nil
  | cons width widths ih =>
      cases row with
      | nil => cases h
      | cons cell row => exact .cons (Nat.le_max_right _ _) (ih (Nat.succ.inj h))

theorem Fit.mono {fields : List (List Char)} {widths widths' : List Nat} (h : Fit fields widths)
    (hle : List.Forall₂ (· ≤ ·) widths widths') : Fit fields widths' := by
  induction h generalizing widths' with
  | nil =>
      cases hle
      exact .nil
  | cons hfield _ ih =>
      cases hle with
      | cons hwidth hle => exact .cons (Nat.le_trans hfield hwidth) (ih hle)

/-- What fits stays fitting when rows are added, and the rows that are added fit. -/
theorem fit_foldl_widen {widths : List Nat} {rows : List Row}
    (hrows : ∀ row ∈ rows, row.length = widths.length) :
    (∀ fields, Fit fields widths → Fit fields (rows.foldl widen widths))
      ∧ ∀ row ∈ rows, Fit (row.map cellText) (rows.foldl widen widths) := by
  induction rows generalizing widths with
  | nil => exact ⟨fun _ h => h, nofun⟩
  | cons row rows ih =>
      obtain ⟨hrow, hmore⟩ := List.forall_mem_cons.1 hrows
      have hlength : (widen widths row).length = widths.length := widen_le.length_eq.symm
      rw [← hlength] at hmore
      obtain ⟨hkeeps, hfits⟩ := ih hmore
      refine ⟨fun fields h => hkeeps fields (h.mono widen_le), ?_⟩
      exact List.forall_mem_cons.2 ⟨hkeeps _ (fit_widen hrow), hfits⟩

/-- **No name and no cell is wider than its column.** -/
theorem fit_gridWidths {columns : List String} {rows : List Row}
    (hrows : ∀ row ∈ rows, row.length = columns.length) :
    Fit (columns.map String.toList) (gridWidths columns rows)
      ∧ ∀ row ∈ rows, Fit (row.map cellText) (gridWidths columns rows) := by
  have hnames : Fit (columns.map String.toList) (columns.map fun c => c.toList.length) := by
    unfold Fit
    rw [List.forall₂_map_left_iff, List.forall₂_map_right_iff]
    exact List.forall₂_same.2 fun _ _ => Nat.le_refl _
  have hlengths : ∀ row ∈ rows, row.length = (columns.map fun c => c.toList.length).length := by
    rwa [List.length_map]
  obtain ⟨hkeeps, hfits⟩ := fit_foldl_widen hlengths
  exact ⟨hkeeps _ hnames, hfits⟩

/-! ## §4. The lines of a grid. -/

/-- The lengths of the segments between columns of these widths. -/
def segmentLengths (widths : List Nat) : List Nat :=
  if widths = [] then [0] else widths.map (· + 2)

/-- The edges of columns of these widths. -/
def gridEdges (widths : List Nat) : List Nat := edgesFrom 0 (segmentLengths widths)

/-- A framed line with a segment for each column is divided at the edges of the grid. -/
theorem divided_of_segments {widths : List Nat} {segments : List (List Char)} {mark : Char}
    {holds : Nat → List Char → Prop} (hlengths : segments.map List.length = widths.map (· + 2))
    (hempty : widths = [] → ∀ i, holds i [])
    (h : ∀ i segment, segments[i]? = some segment → holds i segment) :
    Divided (gridEdges widths) mark holds (mark :: ([mark].intercalate segments ++ [mark])) := by
  rw [framed_eq]
  unfold gridEdges segmentLengths
  by_cases hwidths : widths = []
  · obtain rfl : segments = [] := by simpa [hwidths] using hlengths
    rw [if_pos hwidths, if_pos rfl]
    have hone : ∀ i segment, ([[]] : List (List Char))[i]? = some segment → holds i segment := by
      intro i segment hi
      obtain rfl := List.mem_singleton.1 (List.mem_of_getElem? hi)
      exact hempty hwidths i
    exact divided_framed mark hone []
  · have hsegments : segments ≠ [] := by
      rintro rfl
      exact hwidths (by simpa using hlengths.symm)
    rw [if_neg hwidths, if_neg hsegments, ← hlengths]
    exact divided_framed mark h []

theorem divided_gridRule (widths : List Nat) :
    Divided (gridEdges widths) '+' (fun _ segment => ∀ c ∈ segment, c = '-') (gridRule widths) := by
  refine divided_of_segments ?_ (fun _ _ => nofun) fun i segment hi => ?_
  · simp [Function.comp_def]
  · obtain ⟨width, -, rfl⟩ := List.mem_map.1 (List.mem_of_getElem? hi)
    exact fun c hc => List.eq_of_mem_replicate hc

/-- Fields that are filled up to the widths of their columns. -/
def padded (fields : List (List Char)) (widths : List Nat) : List (List Char) :=
  List.zipWith (fun field width => padRight width field) fields widths

/-- Fields that fit are filled up to the widths. -/
theorem length_padded {fields : List (List Char)} {widths : List Nat} (h : Fit fields widths) :
    (padded fields widths).map List.length = widths := by
  induction h with
  | nil => rfl
  | @cons field width fields widths hle _ ih =>
      have hfirst : (padRight width field).length = width := by
        unfold padRight
        rw [List.length_append, List.length_replicate]
        omega
      show (padRight width field).length :: (padded fields widths).map List.length = _
      rw [hfirst, ih]

/-- A field is shown in its segment, with the blanks that fill it up behind it. -/
theorem showsField_padded {fields : List (List Char)} {widths : List Nat} {i : Nat}
    {segment : List Char} (h : (padded fields widths)[i]? = some segment) :
    ShowsField fields i (' ' :: (segment ++ [' '])) := by
  intro field hfield
  unfold padded at h
  rw [List.getElem?_zipWith, hfield] at h
  cases hwidth : widths[i]? with
  | none =>
      rw [hwidth] at h
      cases h
  | some width =>
      rw [hwidth] at h
      cases h
      refine ⟨width - field.length + 1, ?_⟩
      unfold padRight
      rw [List.replicate_succ', List.append_assoc]

/-- Fields that fit make a line of the grid. -/
theorem divided_gridLine {fields : List (List Char)} {widths : List Nat} (h : Fit fields widths) :
    Divided (gridEdges widths) '|' (ShowsField fields) (gridLine (padded fields widths)) := by
  refine divided_of_segments ?_ ?_ fun i segment hi => ?_
  · have hlengths := congrArg (List.map (· + 2)) (length_padded h)
    rw [← hlengths]
    simp [Function.comp_def]
  · rintro rfl i field hfield
    cases h
    cases hfield
  · rw [List.getElem?_map] at hi
    obtain ⟨text, htext, rfl⟩ := Option.map_eq_some_iff.1 hi
    exact showsField_padded htext

/-- The line with the names of the columns, without colour. -/
theorem headLine_eq (columns : List String) (widths : List Nat) :
    List.zipWith (headField false) columns widths = padded (columns.map String.toList) widths := by
  unfold padded
  rw [List.zipWith_map_left]
  rfl

/-- The line of a row, without colour. -/
theorem bodyLine_eq (row : Row) (widths : List Nat) :
    List.zipWith (bodyField false) row widths = padded (row.map cellText) widths := by
  have hfield : bodyField false = fun cell width => padRight width (cellText cell) := by
    funext cell width
    cases cell <;> rfl
  unfold padded
  rw [List.zipWith_map_left, hfield]

theorem gridLines_eq (columns : List String) (rows : List Row) :
    gridLines false columns rows
      = [gridRule (gridWidths columns rows),
          gridLine (padded (columns.map String.toList) (gridWidths columns rows)),
          gridRule (gridWidths columns rows)]
        ++ rows.map (fun row => gridLine (padded (row.map cellText) (gridWidths columns rows)))
        ++ if rows.isEmpty then [] else [gridRule (gridWidths columns rows)] := by
  unfold gridLines
  simp only [headLine_eq, bodyLine_eq]

/-- Each line of a grid is the rule, the line of the names or the line of a row. -/
theorem mem_gridLines {columns : List String} {rows : List Row} {line : List Char}
    (h : line ∈ gridLines false columns rows) :
    line = gridRule (gridWidths columns rows)
      ∨ line = gridLine (padded (columns.map String.toList) (gridWidths columns rows))
      ∨ ∃ row ∈ rows, line = gridLine (padded (row.map cellText) (gridWidths columns rows)) := by
  rw [gridLines_eq, List.mem_append, List.mem_append] at h
  rcases h with (hfront | hrow) | hlast
  · simp only [List.mem_cons, List.not_mem_nil, or_false] at hfront
    rcases hfront with rfl | rfl | rfl
    · exact .inl rfl
    · exact .inr (.inl rfl)
    · exact .inl rfl
  · obtain ⟨row, hmem, rfl⟩ := List.mem_map.1 hrow
    exact .inr (.inr ⟨row, hmem, rfl⟩)
  · split at hlast
    · cases hlast
    · exact .inl (List.mem_singleton.1 hlast)

/-- **The lines of a grid stand in straight columns.** -/
theorem aligned_gridLines {columns : List String} {rows : List Row}
    (hrows : ∀ row ∈ rows, row.length = columns.length) :
    ∃ edges rule head body,
      Aligned columns rows edges (gridLines false columns rows) rule head body := by
  obtain ⟨hnames, hcells⟩ := fit_gridWidths hrows
  have hrule := divided_gridRule (gridWidths columns rows)
  refine ⟨gridEdges (gridWidths columns rows), _, _, _, gridLines_eq columns rows, ?_,
    edgesFrom_head? _ _, edgesFrom_pairwise _ _, ?_, hrule, divided_gridLine hnames, ?_⟩
  · intro line hline
    rcases mem_gridLines hline with rfl | rfl | ⟨row, hrow, rfl⟩
    · rfl
    · exact (divided_gridLine hnames).length_eq hrule
    · exact (divided_gridLine (hcells row hrow)).length_eq hrule
  · intro hcolumns
    have hwidths : (gridWidths columns rows).length = columns.length := by
      rw [← hnames.length_eq, List.length_map]
    have hne : gridWidths columns rows ≠ [] := by
      intro hnil
      rw [hnil] at hwidths
      exact hcolumns (List.eq_nil_of_length_eq_zero hwidths.symm)
    unfold gridEdges segmentLengths
    rw [if_neg hne, length_edgesFrom, List.length_map, hwidths]
  · rw [List.forall₂_map_right_iff, List.forall₂_same]
    exact fun row hrow => ⟨hrows row hrow, divided_gridLine (hcells row hrow)⟩

/-! ## §5. The text of a grid. -/

/-- What stands in a framed line is a mark or stands in a segment. -/
theorem exists_segment_of_mem {c mark : Char} {segments : List (List Char)}
    (h : c ∈ mark :: ([mark].intercalate segments ++ [mark])) (hc : c ≠ mark) :
    ∃ segment ∈ segments, c ∈ segment := by
  rw [framed_eq, framed, List.mem_append, List.mem_flatMap] at h
  obtain ⟨segment, hsegment, hmem⟩ := h.resolve_right fun hlast =>
    hc (List.mem_singleton.1 hlast)
  have hinside : c ∈ segment := (List.mem_cons.1 hmem).resolve_left hc
  split at hsegment
  · obtain rfl := List.mem_singleton.1 hsegment
    cases hinside
  · exact ⟨segment, hsegment, hinside⟩

theorem newline_not_mem_gridRule (widths : List Nat) : '\n' ∉ gridRule widths := by
  intro h
  obtain ⟨segment, hsegment, hmem⟩ := exists_segment_of_mem h (by decide)
  obtain ⟨width, -, rfl⟩ := List.mem_map.1 hsegment
  exact absurd (List.eq_of_mem_replicate hmem) (by decide)

/-- A line of fields without a line end has none. -/
theorem newline_not_mem_gridLine {fields : List (List Char)} {widths : List Nat}
    (h : ∀ field ∈ fields, '\n' ∉ field) : '\n' ∉ gridLine (padded fields widths) := by
  intro hline
  obtain ⟨segment, hsegment, hmem⟩ := exists_segment_of_mem hline (by decide)
  obtain ⟨text, htext, rfl⟩ := List.mem_map.1 hsegment
  obtain ⟨i, hi⟩ := List.mem_iff_getElem?.1 htext
  unfold padded at hi
  obtain ⟨field, width, hfield, -, rfl⟩ := List.getElem?_zipWith_eq_some.1 hi
  have hblank : ∀ n, '\n' ∉ List.replicate n ' ' := fun n hn =>
    absurd (List.eq_of_mem_replicate hn) (by decide)
  unfold padRight at hmem
  simp only [List.mem_cons, List.mem_append, List.not_mem_nil, or_false] at hmem
  rcases hmem with hspace | (hfield' | hpad) | hspace
  · exact absurd hspace (by decide)
  · exact h field (List.mem_of_getElem? hfield) hfield'
  · exact hblank _ hpad
  · exact absurd hspace (by decide)

/-- The text of a grid is made of its lines, if no name and no cell has a line end in it. -/
theorem linesOf_renderGrid {columns : List String} {rows : List Row}
    (hnames : ∀ name ∈ columns, '\n' ∉ name.toList)
    (hcells : ∀ row ∈ rows, ∀ cell ∈ row, '\n' ∉ cellText cell) :
    linesOf (renderGrid false columns rows) = gridLines false columns rows := by
  unfold linesOf renderGrid
  rw [String.toList_ofList]
  refine List.splitOn_intercalate '\n' (fun line hline => ?_) (List.cons_ne_nil _ _)
  rcases mem_gridLines hline with rfl | rfl | ⟨row, hrow, rfl⟩
  · exact newline_not_mem_gridRule _
  · exact newline_not_mem_gridLine (List.forall_mem_map.2 hnames)
  · exact newline_not_mem_gridLine (List.forall_mem_map.2 (hcells row hrow))

/-! ## §6. The grid of a SELECT. -/

/-- The reply to a SELECT has rows with a cell for each of its columns. -/
theorem exists_grid_of_select {sql : String} {c : Catalog} {s : Selection} {e : Effect}
    (h : Effect.ofText sql c s = .ok e) (hselect : e.reply.command = .select) :
    ∃ columns rows, e.reply.columns = some columns ∧ e.reply.rows = some rows
      ∧ ∀ row ∈ rows, row.length = columns.length := by
  rw [Statement.ofText_eq_run] at h
  obtain ⟨statement, -, hrun⟩ := bind_eq_ok.1 h
  have hcommand := Statement.command_of_run hrun
  rw [hselect] at hcommand
  cases statement with
  | select table projection =>
      rw [Statement.run_select] at hrun
      obtain ⟨t, -, he⟩ := bind_eq_ok.1 hrun
      cases he
      refine ⟨_, _, rfl, rfl, List.forall_mem_map.2 fun row _ => ?_⟩
      -- a projection has a place for each of its columns
      rw [List.length_map]
      cases projection with
      | all => exact List.length_range
      | columns names => exact List.length_map _
  | insert | update | delete | createDatabase | use | createTable | showDatabases | showTables
  | dropDatabase | dropTable => cases hcommand

/-- **The grid of a SELECT stands in straight columns, and shows every name and every cell.** -/
theorem aligned_of_select {sql : String} {c : Catalog} {s : Selection} {e : Effect}
    (h : Effect.ofText sql c s = .ok e) (hselect : e.reply.command = .select) :
    ∃ columns rows, e.reply.columns = some columns ∧ e.reply.rows = some rows
      ∧ ((∀ name ∈ columns, '\n' ∉ name.toList) →
        (∀ row ∈ rows, ∀ cell ∈ row, '\n' ∉ cellText cell) →
        ∃ edges rule head body,
          Aligned columns rows edges (linesOf (renderGrid false columns rows)) rule head body) := by
  obtain ⟨columns, rows, hcolumns, hrows, hwidth⟩ := exists_grid_of_select h hselect
  refine ⟨columns, rows, hcolumns, hrows, fun hnames hcells => ?_⟩
  rw [linesOf_renderGrid hnames hcells]
  exact aligned_gridLines hwidth

/-- Two people, one of them without an age. -/
def people : Catalog where
  databases := [{ name := "shop", tables := [{
    name := "people"
    columns := ["name", "age"]
    rows := [[.text "Bö|rn", .text "7"], [.text "Al", .null]] }] }]

/-- What a SELECT of the ages, and of the names in front of them, answers. -/
def peopleShown : Effect where
  reply := {
    command := .select
    message := "Retrieved 2 rows from people"
    columns := some ["age", "name"]
    rows := some [[.text "7", .text "Bö|rn"], [.null, .text "Al"]] }

/-- A cell with a bar in it, one that takes more bytes than characters, and a NULL. -/
theorem aligned_of_select_people :
    Effect.ofText "SELECT age, name FROM people;" people (.of "shop") = .ok peopleShown
      ∧ linesOf (renderGrid false ["age", "name"]
          [[.text "7", .text "Bö|rn"], [.null, .text "Al"]])
        = ["+------+-------+".toList, "| age  | name  |".toList, "+------+-------+".toList,
            "| 7    | Bö|rn |".toList, "| NULL | Al    |".toList, "+------+-------+".toList]
      ∧ ∃ edges rule head body, Aligned ["age", "name"]
          [[.text "7", .text "Bö|rn"], [.null, .text "Al"]] edges
          (linesOf (renderGrid false ["age", "name"]
            [[.text "7", .text "Bö|rn"], [.null, .text "Al"]])) rule head body := by
  have h : Effect.ofText "SELECT age, name FROM people;" people (.of "shop") = .ok peopleShown := by
    decide +kernel
  refine ⟨h, by decide +kernel, ?_⟩
  obtain ⟨columns, rows, hcolumns, hrows, haligned⟩ := aligned_of_select h rfl
  cases hcolumns
  cases hrows
  exact haligned (by decide) (by decide)

end SmallSql.Shell
