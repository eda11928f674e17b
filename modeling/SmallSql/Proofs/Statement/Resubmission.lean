/-
  SmallSql.Proofs.Statement.Resubmission
  ────────────────────────────────
  A bare value is the source text that it spans.  The text of a value goes from the start of its
  first token to the stop of its last,

      … before gap  first gap … last  gap stop …
                    └──── span ────┘

  with the gaps and comments inside and without those around it.  Written again in the place of
  another value, with white space around it, that text has the same tokens, since none of them
  looked at what stood around them; so it is the same value there.
-/
import SmallSql.Proofs.Checked.Agreement
import SmallSql.Proofs.Statement.Place
import SmallSql.Proofs.Token.Lossless

namespace SmallSql

open Grammar (SameTokens Value Denotes Derives Located)
open Statement (Place)

/-! ## §1. The characters of a run. -/

/-- From the start of one span to the stop of the last of `count` spans. -/
def runSpan? (spans : List Span) (first count : Nat) : Option Span := do
  let start ← spans[first]?
  let stop ← spans[first + count - 1]?
  return ⟨start.start, stop.stop⟩

/-- The text with other characters in the place of those of a span. -/
def Span.replaceIn (s : Span) (new cs : List Char) : List Char :=
  cs.take s.start ++ (new ++ cs.drop s.stop)

theorem Span.replaceIn_append (before part after new : List Char) :
    (⟨before.length, before.length + part.length⟩ : Span).replaceIn new
      (before ++ (part ++ after)) = before ++ (new ++ after) := by
  unfold Span.replaceIn
  dsimp only
  rw [List.take_left, ← List.append_assoc before part, ← List.length_append, List.drop_left]

section Run

variable {before more after : List Lexeme} {first : Lexeme}

/-- A run of lexemes covers its source, behind the lexemes before it and the gap of its first. -/
theorem runSpan?_spansFrom : runSpan? (spansFrom 0 (before ++ (first :: more ++ after)))
    before.length (first :: more).length
      = some ⟨(before.flatMap Lexeme.written ++ first.gap).length,
        (before.flatMap Lexeme.written ++ first.gap).length
          + (sourceOf (first :: more)).length⟩ := by
  obtain ⟨init, last, hrun⟩ : ∃ init last, first :: more = init ++ [last] :=
    ⟨_, _, (List.dropLast_concat_getLast (List.cons_ne_nil first more)).symm⟩
  have hlast : before ++ (first :: more ++ after) = before ++ init ++ last :: after := by
    rw [hrun]
    simp
  have hposition : before.length + (first :: more).length - 1 = (before ++ init).length := by
    rw [hrun]
    simp only [List.length_append, List.length_cons, List.length_nil]
    omega
  have hstop : ((before ++ init ++ [last]).flatMap Lexeme.written).length
      = (before.flatMap Lexeme.written ++ first.gap).length
        + (sourceOf (first :: more)).length := by
    rw [List.append_assoc, ← hrun]
    simp [sourceOf, Lexeme.written]
    omega
  have hfirst : before ++ (first :: more ++ after) = before ++ first :: (more ++ after) := rfl
  unfold runSpan?
  rw [hposition, Checked.span_eq hfirst, Checked.span_eq hlast, hstop, ← List.length_append]
  rfl

/-- The characters in front of a run, its source, and those behind it. -/
theorem written_run (tail : List Char) :
    (before ++ (first :: more ++ after)).flatMap Lexeme.written ++ tail
      = (before.flatMap Lexeme.written ++ first.gap)
        ++ (sourceOf (first :: more) ++ (after.flatMap Lexeme.written ++ tail)) := by
  simp [sourceOf, Lexeme.written]

end Run

/-! ## §2. A run in another text. -/

/-- **A run of lexemes can be moved to another text.**  Its source, put between white space in the
place of another run, is read as the same run, and the lexemes around it are read as before. -/
theorem lexemes_moved {cs cs' tail tail' b₁ b₂ : List Char}
    {before more after before' more' after' : List Lexeme} {first first' : Lexeme}
    (h : lexemes cs = .ok (before ++ (first :: more ++ after), tail))
    (h' : lexemes cs' = .ok (before' ++ (first' :: more' ++ after'), tail'))
    (hb₁ : Text.allBlank b₁ = true) (hne₁ : b₁ ≠ []) (hb₂ : Text.allBlank b₂ = true)
    (hne₂ : b₂ ≠ []) :
    ∃ gap after'' tail'', SameTokens after' after''
      ∧ lexemes ((before'.flatMap Lexeme.written ++ first'.gap)
        ++ ((b₁ ++ (sourceOf (first :: more) ++ b₂))
          ++ (after'.flatMap Lexeme.written ++ tail')))
        = .ok (before' ++ ({ first with gap } :: more ++ after''), tail'') := by
  obtain ⟨tail'', hafter⟩ := lexemes_indent (.of_allBlank hb₂)
    (lexemes_behind (before' ++ first' :: more') (by simpa using h'))
  -- the run, its first gap taken away, in front of the white space that is new
  have hrun := lexemes_behind before h
  rw [show (first :: more ++ after).flatMap Lexeme.written ++ tail = first.gap
    ++ (sourceOf (first :: more) ++ (after.flatMap Lexeme.written ++ tail)) by
      simp [sourceOf, Lexeme.written]] at hrun
  have hmoved := lexemes_replace (v := []) ({ first with gap := [] } :: more)
    (stops_append hb₂ hne₂ _) (lexemes_ungap rfl hrun) hafter
  obtain ⟨tail₁, hblank⟩ := lexemes_indent (.of_allBlank hb₁) hmoved
  -- the gap of the old run stays in front of it, and what stands before that is read as before
  obtain ⟨left, hnext, -⟩ := lexemes_cons_iff.1 (lexemes_behind before' h')
  obtain ⟨-, hgap, -⟩ := nextLexeme_some_iff_readsAs.1 hnext
  obtain ⟨tail₂, hindent⟩ := lexemes_indent hgap hblank
  have htext : (before' ++ (first' :: more' ++ after')).flatMap Lexeme.written ++ tail' = _ :=
    written_run tail'
  rw [lexemes_append h', List.append_assoc] at htext
  rw [htext] at h'
  have hall := lexemes_replace before' (stops_append hb₁ hne₁ _) h' hindent
  refine ⟨first'.gap ++ (b₁ ++ []), indent b₂ after', tail₂, ?_, ?_⟩
  · cases after' with
    | nil => exact .nil
    | cons l rest => exact .cons rest rfl
  · rw [← List.append_assoc]
    simpa [sourceOf, Lexeme.written, indent] using hall

/-! ## §3. Values and their source. -/

/-- A run that is neither one string nor one NULL. -/
def IsBare (run : List Lexeme) : Prop :=
  ∀ l, run = [l] → l.token ≠ .keyword .null ∧ ∀ content, l.token ≠ .string content

/-- The cell that a run stands for, these being the characters that it spans. -/
inductive StandsFor (source : List Char) : List Lexeme → Cell → Prop
  | string {l : Lexeme} {content : String} (h : l.token = .string content) :
      StandsFor source [l] (.text content)
  | null {l : Lexeme} (h : l.token = .keyword .null) : StandsFor source [l] .null
  | bare {run : List Lexeme} (h : IsBare run) :
      StandsFor source run (.text (String.ofList source))

/-- A text that is read as a statement, and the value in it that stands at a place: the run of
lexemes between the token that opens the place and the one that ends it, and the span of its
characters. -/
structure WrittenAt (k : Command) (cs : List Char) (statement : Statement) (place : Place)
    (cell : Cell) (before run after : List Lexeme) (span : Span) : Prop where
  holds : statement.cellAt? place = some cell
  lexemes_eq : ∃ tail, lexemes cs = .ok (before ++ (run ++ after), tail)
  located : Located place (fun c => Derives k (statement.put c place)) cell
    (before ++ (run ++ after)) before run after
  after_ne_nil : after ≠ []
  span_eq : runSpan? (spansFrom 0 (before ++ (run ++ after))) before.length run.length = some span

/-- Wherever a value of the same kind of place stands in a text, these characters can be written in
its place, with white space around them: they are the value there, and the rest is as it was. -/
def CanBeWrittenAt (place : Place) (source : List Char) : Prop :=
  ∀ {k : Command} {cs : List Char} {statement : Statement} {place' : Place} {cell : Cell}
    {before run after : List Lexeme} {span : Span},
    WrittenAt k cs statement place' cell before run after span → place'.ends = place.ends →
    ∀ {b₁ b₂ : List Char}, Text.allBlank b₁ = true → b₁ ≠ [] → Text.allBlank b₂ = true → b₂ ≠ [] →
      Statement.ofText k (span.replaceIn (b₁ ++ (source ++ b₂)) cs)
          = .ok (statement.put (.text (String.ofList source)) place')
        ∧ (statement.put (.text (String.ofList source)) place').cellAt? place'
          = some (.text (String.ofList source))

/-- A bare run stands for the characters that it covers, whatever the gap in front of it. -/
theorem denotes_of_isBare {first : Lexeme} {more : List Lexeme} (h : IsBare (first :: more))
    (gap : List Char) : Denotes (.text (String.ofList (sourceOf (first :: more))))
      ({ first with gap } :: more) := by
  cases more with
  | nil =>
      obtain ⟨hnull, hstring⟩ := h first rfl
      rw [show sourceOf [first] = first.text by simp [sourceOf]]
      exact .single (l := { first with gap }) hstring hnull
  | cons second more => exact @Denotes.several { first with gap } second more

/-- What a run denotes it stands for, its source being the characters that it covers. -/
theorem standsFor_of_denotes {cell : Cell} {run : List Lexeme} (h : Denotes cell run) :
    StandsFor (sourceOf run) run cell := by
  cases h with
  | string h => exact .string h
  | null h => exact .null h
  | @single l hstring hnull =>
      have hbare : IsBare [l] := by
        rintro _ ⟨⟩
        exact ⟨hnull, hstring⟩
      have hstands : StandsFor (sourceOf [l]) [l] (.text (String.ofList (sourceOf [l]))) :=
        .bare hbare
      rwa [show sourceOf [l] = l.text by simp [sourceOf]] at hstands ⊢
  | several => exact .bare fun l he => by cases he

/-- The span of a written value covers the source of its run. -/
theorem WrittenAt.exists_source {k : Command} {cs : List Char} {statement : Statement}
    {place : Place} {cell : Cell} {before run after : List Lexeme} {span : Span}
    (h : WrittenAt k cs statement place cell before run after span) :
    ∃ first more tail, run = first :: more
      ∧ lexemes cs = .ok (before ++ (first :: more ++ after), tail)
      ∧ span.textIn cs = sourceOf (first :: more)
      ∧ ∀ new, span.replaceIn new cs = (before.flatMap Lexeme.written ++ first.gap)
        ++ (new ++ (after.flatMap Lexeme.written ++ tail)) := by
  obtain ⟨tail, hlexemes⟩ := h.lexemes_eq
  have hspan := h.span_eq
  have hne : run ≠ [] := (Statement.denotes_iff.1 h.located.value.denotes).1
  obtain ⟨first, more, rfl⟩ := List.exists_cons_of_ne_nil hne
  rw [runSpan?_spansFrom] at hspan
  cases hspan
  refine ⟨first, more, tail, rfl, hlexemes, ?_, fun new => ?_⟩
  · rw [← lexemes_append hlexemes, written_run, Span.textIn_append]
  · rw [← lexemes_append hlexemes, written_run, Span.replaceIn_append]

/-- The source of a bare value can be written again. -/
theorem WrittenAt.canBeWrittenAt {k : Command} {cs : List Char} {statement : Statement}
    {place : Place} {cell : Cell} {before run after : List Lexeme} {span : Span}
    (h : WrittenAt k cs statement place cell before run after span) (hbare : IsBare run) :
    CanBeWrittenAt place (span.textIn cs) := by
  intro k' cs' statement' place' cell' before' run' after' span' h' hends b₁ b₂ hb₁ hne₁ hb₂ hne₂
  obtain ⟨first, more, tail, rfl, hlexemes, hsource, -⟩ := h.exists_source
  obtain ⟨first', more', tail', rfl, hlexemes', -, hreplace⟩ := h'.exists_source
  obtain ⟨gap, after'', tail'', hsame, hmoved⟩ :=
    lexemes_moved hlexemes hlexemes' hb₁ hne₁ hb₂ hne₂
  refine ⟨?_, Statement.cellAt?_put _ h'.holds⟩
  rw [hsource, hreplace, Statement.ofText_eq_ok_iff_derives]
  -- the moved run is a value there, since it has the tokens that it had
  have hvalue : Value place'.ends (.text (String.ofList (sourceOf (first :: more))))
      ({ first with gap } :: more) := by
    refine ⟨denotes_of_isBare hbare gap, fun l hl => ?_⟩
    rw [hends]
    rcases List.mem_cons.1 hl with rfl | hl
    · exact h.located.value.inside first List.mem_cons_self
    · exact h.located.value.inside l (List.mem_cons_of_mem _ hl)
  exact ⟨_, tail'', hmoved, h'.located.refill hvalue hsame⟩

/-- **A bare value is the source text that it spans.**  In a text that is read as a statement, the
value at each place is written by the run of tokens from the one that opens the place to the first
that ends it; the cell is the content of the run if it is one string, NULL if it is one NULL, and
else the characters from the start of its first token to the stop of its last.  Those characters,
with white space around them, can be written for any other value in a place of the same kind, and
are the same value there. -/
theorem value_eq_source {k : Command} {cs : List Char} {statement : Statement} {place : Place}
    {cell : Cell} (h : Statement.ofText k cs = .ok statement)
    (hcell : statement.cellAt? place = some cell) :
    ∃ before run after span, WrittenAt k cs statement place cell before run after span
      ∧ StandsFor (span.textIn cs) run cell
      ∧ (IsBare run → CanBeWrittenAt place (span.textIn cs)) := by
  obtain ⟨ls, tail, hlexemes, hderives⟩ := (Statement.ofText_eq_ok_iff_derives _ _ _).1 h
  obtain ⟨before, run, after, hne, hlocated⟩ := Grammar.exists_located hderives hcell
  obtain rfl := hlocated.eq_append
  have hrun : run ≠ [] := (Statement.denotes_iff.1 hlocated.value.denotes).1
  obtain ⟨first, more, rfl⟩ := List.exists_cons_of_ne_nil hrun
  have hwritten : WrittenAt k cs statement place cell before (first :: more) after _ :=
    ⟨hcell, ⟨tail, hlexemes⟩, hlocated, hne, runSpan?_spansFrom⟩
  obtain ⟨_, _, _, he, -, hsource, -⟩ := hwritten.exists_source
  cases he
  refine ⟨before, first :: more, after, _, hwritten, ?_, hwritten.canBeWrittenAt⟩
  rw [hsource]
  exact standsFor_of_denotes hlocated.value.denotes

/-- A number, a sign, a comment and another number, up to a comma. -/
theorem value_eq_source_assigned :
    Statement.ofText .update "UPDATE t SET a = 555-/*x*/1234 , b = NULL WHERE c = 'it''s' ;".toList
        = .ok (.update "t" [("a", .text "555-/*x*/1234"), ("b", .null)]
          { column := "c", comparison := .eq, value := .text "it's" })
      ∧ (Statement.update "t" [("a", .text "555-/*x*/1234"), ("b", .null)]
          { column := "c", comparison := .eq, value := .text "it's" }).cellAt? (.assigned 0)
        = some (.text "555-/*x*/1234")
      ∧ ∃ before run after span,
        WrittenAt .update "UPDATE t SET a = 555-/*x*/1234 , b = NULL WHERE c = 'it''s' ;".toList
          (.update "t" [("a", .text "555-/*x*/1234"), ("b", .null)]
            { column := "c", comparison := .eq, value := .text "it's" }) (.assigned 0)
          (.text "555-/*x*/1234") before run after span
        ∧ StandsFor
          (span.textIn "UPDATE t SET a = 555-/*x*/1234 , b = NULL WHERE c = 'it''s' ;".toList) run
          (.text "555-/*x*/1234")
        ∧ (IsBare run → CanBeWrittenAt (.assigned 0) (span.textIn
          "UPDATE t SET a = 555-/*x*/1234 , b = NULL WHERE c = 'it''s' ;".toList)) := by
  have h : Statement.ofText .update
      "UPDATE t SET a = 555-/*x*/1234 , b = NULL WHERE c = 'it''s' ;".toList
        = .ok (.update "t" [("a", .text "555-/*x*/1234"), ("b", .null)]
          { column := "c", comparison := .eq, value := .text "it's" }) := by decide +kernel
  exact ⟨h, rfl, value_eq_source h rfl⟩

end SmallSql
