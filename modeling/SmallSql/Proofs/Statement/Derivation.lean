/-
  SmallSql.Proofs.Statement.Derivation
  ────────────────────────────────
  Every command is read as its rule says.  A column definition is passed over by counting the
  parentheses that are open; `Unwinds` is what a run with that many open ones looks like:

      Unwinds (n + 1)  =  balanced run  )  Unwinds n

  The readers of the eleven commands then follow their rules form by form, which makes reading a
  text and deriving a statement from its lexemes the same.
-/
import SmallSql.Proofs.Statement.Recognition

namespace SmallSql.Statement

open SmallSql.Grammar
open SmallSql.Parser (separatedFrom separatedFromRun)

/-! ## §1. Column definitions. -/

variable {depth : Nat} {l : Lexeme} {rest : List Lexeme}

theorem splitDefinition_leftParen (hl : l.token = .leftParen) :
    splitDefinition depth (l :: rest) = splitDefinition (depth + 1) rest := by
  rw [splitDefinition.eq_def]
  dsimp only
  rw [hl]

theorem splitDefinition_rightParen (hl : l.token = .rightParen) :
    splitDefinition (depth + 1) (l :: rest) = splitDefinition depth rest := by
  rw [splitDefinition.eq_def]
  dsimp only
  rw [hl]

/-- A token that is no parenthesis is passed over, a comma only inside parentheses. -/
theorem splitDefinition_other (hleft : l.token ≠ .leftParen) (hright : l.token ≠ .rightParen)
    (hcomma : l.token = .comma → 0 < depth) :
    splitDefinition depth (l :: rest) = splitDefinition depth rest := by
  rw [splitDefinition.eq_def]
  dsimp only
  split
  · next hl => exact absurd hl hleft
  · next hl => exact absurd hl hright
  · next hl => rw [if_neg (Nat.pos_iff_ne_zero.1 (hcomma hl))]
  · rfl

/-- Outside all parentheses a comma or a closing parenthesis is where the definition ends. -/
theorem splitDefinition_stop (hl : l.token = .comma ∨ l.token = .rightParen) :
    splitDefinition 0 (l :: rest) = l :: rest := by
  rw [splitDefinition.eq_def]
  dsimp only
  rcases hl with hl | hl
  · rw [hl]
    exact if_pos rfl
  · rw [hl]

/-- Nothing of a balanced run is left, whatever is open around it. -/
theorem splitDefinition_balanced {inside : Bool} {body : List Lexeme} (h : Balanced inside body)
    (hdepth : inside = true → 0 < depth) (rest : List Lexeme) :
    splitDefinition depth (body ++ rest) = splitDefinition depth rest := by
  induction h generalizing depth rest with
  | nil => rfl
  | token hleft hright hcomma _ ih =>
      rw [List.cons_append, splitDefinition_other hleft hright fun hl => hdepth (hcomma hl)]
      exact ih hdepth rest
  | group hleft _ hright _ ihbody ihrest =>
      -- the parenthesis that opens the group is counted, the one that closes it is taken off
      rw [List.cons_append, splitDefinition_leftParen hleft, List.append_assoc, List.cons_append,
        ihbody (fun _ => Nat.succ_pos depth), splitDefinition_rightParen hright]
      exact ihrest hdepth rest

/-- Balanced runs with a closing parenthesis behind each but the last. -/
def Unwinds : Nat → Form
  | 0, ls => Balanced false ls
  | depth + 1, ls => ∃ body right more, ls = body ++ right :: more ∧ Balanced true body
    ∧ right.token = .rightParen ∧ Unwinds depth more

/-- What can stand in front of a balanced run can stand in front of an unwinding one. -/
theorem Unwinds.prepend (front : List Lexeme)
    (hfront : ∀ {ls}, Balanced (decide (0 < depth)) ls → Balanced (decide (0 < depth)) (front ++ ls))
    {ls : List Lexeme} (h : Unwinds depth ls) : Unwinds depth (front ++ ls) := by
  cases depth with
  | zero => exact hfront h
  | succ depth =>
      obtain ⟨body, right, more, rfl, hbody, hright, hmore⟩ := h
      exact ⟨front ++ body, right, more, (List.append_assoc _ _ _).symm, hfront hbody, hright,
        hmore⟩

/-- What is passed over unwinds, up to a comma or a closing parenthesis. -/
theorem unwinds_of_splitDefinition {input : List Lexeme} {stop : Lexeme}
    (h : splitDefinition depth input = stop :: rest) :
    ∃ passed, input = passed ++ stop :: rest ∧ Unwinds depth passed
      ∧ stop.token ∈ [Token.comma, .rightParen] := by
  fun_induction splitDefinition depth input with
  | case1 => cases h
  | case2 depth l left hl ih =>
      obtain ⟨passed, rfl, ⟨body, right, more, rfl, hbody, hright, hmore⟩, hstop⟩ := ih h
      refine ⟨l :: (body ++ right :: more), rfl, ?_, hstop⟩
      have hfront : ∀ {ls}, Balanced (decide (0 < depth)) ls →
          Balanced (decide (0 < depth)) (l :: (body ++ [right]) ++ ls) := by
        intro ls hls
        rw [List.cons_append, List.append_assoc]
        exact .group hl hbody hright hls
      have hmore' := Unwinds.prepend _ hfront hmore
      rwa [List.cons_append, List.append_assoc] at hmore'
  | case3 l left hl =>
      cases h
      exact ⟨[], rfl, .nil, by simp [hl]⟩
  | case4 l left hl depth ih =>
      obtain ⟨passed, rfl, hpassed, hstop⟩ := ih h
      exact ⟨l :: passed, rfl, ⟨[], l, passed, rfl, .nil, hl, hpassed⟩, hstop⟩
  | case5 l left hl =>
      cases h
      exact ⟨[], rfl, .nil, by simp [hl]⟩
  | case6 depth l left hl hdepth ih =>
      obtain ⟨passed, rfl, hpassed, hstop⟩ := ih h
      refine ⟨l :: passed, rfl, ?_, hstop⟩
      refine Unwinds.prepend [l] (fun hls => .token ?_ ?_ ?_ hls) hpassed
      · simp [hl]
      · simp [hl]
      · exact fun _ => decide_eq_true (Nat.pos_of_ne_zero hdepth)
  | case7 depth l left hleft hright hcomma ih =>
      obtain ⟨passed, rfl, hpassed, hstop⟩ := ih h
      refine ⟨l :: passed, rfl, ?_, hstop⟩
      exact Unwinds.prepend [l]
        (fun hls => .token hleft hright (fun hl => absurd hl hcomma) hls) hpassed

/-- A column definition ends at a comma or a parenthesis. -/
def EndsDefinition : Lookahead := fun t => t = some .comma ∨ t = some .rightParen

theorem recognizes_skipDefinition :
    Recognizes skipDefinition (fun _ => Balanced false) EndsDefinition := by
  intro input rest u
  unfold skipDefinition
  dsimp only
  constructor
  · intro h
    split at h
    · cases h
    · next stop left hs =>
      cases h
      obtain ⟨passed, rfl, hpassed, hstop⟩ := unwinds_of_splitDefinition hs
      refine ⟨passed, rfl, hpassed, ?_⟩
      simpa [EndsDefinition, firstToken] using hstop
  · rintro ⟨passed, rfl, hpassed, hend⟩
    rw [splitDefinition_balanced hpassed (by simp)]
    cases rest with
    | nil =>
        rcases hend with hend | hend
        · cases hend
        · cases hend
    | cons stop left =>
        have hstop : stop.token = .comma ∨ stop.token = .rightParen :=
          hend.imp Option.some.inj Option.some.inj
        rw [splitDefinition_stop hstop]

/-- One more column definition, of a column that is new. -/
theorem recognizes_columnDefinition (seen : List String) :
    Recognizes (columnDefinition seen)
      (fun columns ls => ∃ column, column ∉ seen ∧ columns = seen ++ [column]
        ∧ Definition column ls) EndsDefinition := by
  have hrule : Follows (columnDefinition seen) _ EndsDefinition :=
    .andThen (recognizes_identifier "column name") fun column =>
      .unless (.last recognizes_skipDefinition (g := fun _ => seen ++ [column]))
  intro input rest columns
  rw [hrule]
  simp only [List.contains_iff_mem]
  constructor
  · rintro ⟨phrase, rfl, ⟨_, ⟨column, _, rfl, hnew, _, rfl, rfl⟩, hphrase⟩, hrest⟩
    exact ⟨phrase, rfl, ⟨column, hnew, rfl, hphrase⟩, hrest⟩
  · rintro ⟨phrase, rfl, ⟨column, hnew, rfl, hphrase⟩, hrest⟩
    exact ⟨phrase, rfl, ⟨_, ⟨column, _, rfl, hnew, (), rfl, rfl⟩, hphrase⟩, hrest⟩

/-- The column definitions of a table; those read before are of other columns. -/
theorem run_columnDefinitions {seen : List String} (hseen : seen.Nodup) {input : List Lexeme}
    {columns : List String} :
    separatedFromRun (isToken .comma) columnDefinition seen input = .ok (columns, rest)
      ↔ ∃ more phrase, columns = seen ++ more ∧ (seen ++ more).Nodup ∧ input = phrase ++ rest
        ∧ Listed Definition more phrase ∧ EndsList EndsDefinition (firstToken rest) := by
  -- the columns read before grow along the list
  constructor
  · intro h
    fun_induction separatedFromRun (isToken .comma) columnDefinition seen input with
    | case1 => cases h
    | case2 seen input columns' hone =>
        cases h
        obtain ⟨phrase, rfl, ⟨column, hnew, rfl, hphrase⟩, hrest⟩ :=
          (recognizes_columnDefinition seen).1 hone
        exact ⟨[column], phrase, rfl, nodup_concat hseen hnew, rfl, .last hphrase, hrest,
          by simp [firstToken]⟩
    | case3 seen input columns' comma left hone hc ih =>
        obtain ⟨phrase, rfl, ⟨column, hnew, rfl, hphrase⟩, -⟩ :=
          (recognizes_columnDefinition seen).1 hone
        obtain ⟨more, phrase', rfl, hnodup, rfl, hmore, hrest⟩ := ih (nodup_concat hseen hnew) h
        rw [List.append_assoc] at hnodup ⊢
        refine ⟨column :: more, phrase ++ comma :: phrase', rfl, hnodup, ?_,
          .more hphrase (of_decide_eq_true hc) hmore, hrest⟩
        rw [List.append_assoc, List.cons_append]
    | case4 seen input columns' l left hone hl =>
        cases h
        obtain ⟨phrase, rfl, ⟨column, hnew, rfl, hphrase⟩, hrest⟩ :=
          (recognizes_columnDefinition seen).1 hone
        exact ⟨[column], phrase, rfl, nodup_concat hseen hnew, rfl, .last hphrase, hrest,
          fun he => hl (decide_eq_true (Option.some.inj he))⟩
  · rintro ⟨more, phrase, rfl, hnodup, rfl, hlist, hrest, hend⟩
    induction hlist generalizing seen with
    | @last column ls hphrase =>
        refine Parser.separatedFromRun_last ?_ (head_not_comma hend)
        exact (recognizes_columnDefinition seen).2
          ⟨ls, rfl, ⟨column, not_mem_of_nodup hnodup, rfl, hphrase⟩, hrest⟩
    | @more column more ls phrase comma hphrase hc _ ih =>
        have hone : (columnDefinition seen).run (ls ++ comma :: (phrase ++ rest))
            = .ok (seen ++ [column], comma :: (phrase ++ rest)) :=
          (recognizes_columnDefinition seen).2
            ⟨ls, rfl, ⟨column, not_mem_of_nodup hnodup, rfl, hphrase⟩, .inl (congrArg some hc)⟩
        rw [List.append_cons seen] at hnodup ⊢
        rw [List.append_assoc, List.cons_append,
          Parser.separatedFromRun_more hone (decide_eq_true hc)]
        exact ih (List.nodup_append.1 hnodup).1 hnodup

theorem recognizes_columns :
    Recognizes (separatedFrom (isToken .comma) columnDefinition []) Columns
      (EndsList EndsDefinition) := by
  intro input rest columns
  refine (run_columnDefinitions List.nodup_nil).trans ?_
  constructor
  · rintro ⟨more, phrase, rfl, hnodup, hinput, hlist, hrest⟩
    exact ⟨phrase, hinput, ⟨hnodup, hlist⟩, hrest⟩
  · rintro ⟨phrase, hinput, ⟨hnodup, hlist⟩, hrest⟩
    exact ⟨columns, phrase, rfl, hnodup, hinput, hlist, hrest⟩

/-! ## §2. The eleven readers. -/

theorem projectionOf_of_star {entries : List (Option String)} (h : none ∈ entries) :
    projectionOf entries = .all :=
  if_pos (List.contains_iff_mem.2 h)

theorem projectionOf_names (names : List String) :
    projectionOf (names.map some) = .columns names :=
  projectionOf_entriesOf (.columns names)

/-- Entries without a star are names. -/
theorem exists_names {entries : List (Option String)} (h : none ∉ entries) :
    ∃ names : List String, entries = names.map some := by
  induction entries with
  | nil => exact ⟨[], rfl⟩
  | cons entry entries ih =>
      obtain ⟨hentry, hentries⟩ := not_or.1 (mt List.mem_cons.2 h)
      obtain ⟨name, rfl⟩ := Option.ne_none_iff_exists'.1 (Ne.symm hentry)
      obtain ⟨names, rfl⟩ := ih hentries
      exact ⟨name :: names, rfl⟩

theorem follows_readSelect : Follows readSelect (Rule .select) AtEnd := by
  have hrule : Follows readSelect _ AtEnd :=
    .andThen (recognizes_exactly _) fun _ =>
      .before (.keyword .from) (recognizes_commaList (recognizes_entry _) trivial)
        (by simp [EndsList, Anything])
        (fun entries => .andThen (recognizes_exactly _) fun _ =>
          .andThen (recognizes_identifier _) fun table =>
            .last (recognizes_close .optional)
              (g := fun _ => select table (projectionOf entries)))
        fun _ _ _ => begins_of_andThen
  refine hrule.congr fun st forms => ?_
  constructor
  · rintro ⟨_, _, rfl, entries, _, rfl, _, _, rfl, table, _, rfl, _, rfl, rfl⟩
    by_cases hstar : none ∈ entries
    · rw [projectionOf_of_star hstar]
      exact .selectAll hstar
    · obtain ⟨names, rfl⟩ := exists_names hstar
      rw [projectionOf_names]
      exact .selectColumns
  · intro h
    cases h with
    | @selectAll table entries hstar =>
        rw [← projectionOf_of_star hstar]
        exact ⟨(), _, rfl, entries, _, rfl, (), _, rfl, table, _, rfl, (), rfl, rfl⟩
    | @selectColumns table names =>
        rw [← projectionOf_names]
        exact ⟨(), _, rfl, names.map some, _, rfl, (), _, rfl, table, _, rfl, (), rfl, rfl⟩

theorem follows_readInsert : Follows readInsert (Rule .insert) AtEnd := by
  have hvalues (table : String) (columns : List String) :
      Follows (commaList tuple >>= fun rows => close .required >>= fun _ =>
        pure (insert table columns rows)) _ AtEnd :=
    .before .semicolon (recognizes_commaList recognizes_tuple trivial)
      (by simp [EndsList, Anything])
      (fun rows => .last (recognizes_close .required)
        (g := fun _ => insert table columns rows))
      fun _ _ _ => begins_of_last
  have hrule : Follows readInsert _ AtEnd :=
    .andThen (recognizes_exactly _) fun _ => .andThen (recognizes_exactly _) fun _ =>
      .andThen (recognizes_identifier _) fun table => .andThen (recognizes_exactly _) fun _ =>
        .before .rightParen recognizes_columnNames (by simp [EndsList, Anything])
          (fun columns => .andThen (recognizes_exactly _) fun _ =>
            .andThen (recognizes_exactly _) fun _ => hvalues table columns)
          fun _ _ _ => begins_of_andThen
  refine hrule.congr fun st forms => ?_
  constructor
  · rintro ⟨_, _, rfl, _, _, rfl, table, _, rfl, _, _, rfl, columns, _, rfl, _, _, rfl, _, _, rfl,
      rows, _, rfl, _, rfl, rfl⟩
    exact .insert
  · intro h
    cases h with
    | @insert table columns rows =>
        exact ⟨(), _, rfl, (), _, rfl, table, _, rfl, (), _, rfl, columns, _, rfl, (), _, rfl, (),
          _, rfl, rows, _, rfl, (), rfl, rfl⟩

theorem follows_readUpdate : Follows readUpdate (Rule .update) AtEnd := by
  have hwhere (table : String) (assignments : List (String × Cell)) :
      Follows (condition >>= fun cond =>
        if cond.comparison ≠ .eq then
          (Parser.fail fun _ => .operator cond.comparison.symbol) >>= fun _ : PUnit =>
            close .required >>= fun _ => pure (update table assignments cond)
        else close .required >>= fun _ => pure (update table assignments cond)) _ AtEnd :=
    .before .semicolon recognizes_condition (by simp [EndsValue])
      (fun cond => .unless (.last (recognizes_close .required)
        (g := fun _ => update table assignments cond)))
      fun _ _ _ h => begins_of_last h.2
  have hrule : Follows readUpdate _ AtEnd :=
    .andThen (recognizes_exactly _) fun _ => .andThen (recognizes_identifier _) fun table =>
      .andThen (recognizes_exactly _) fun _ =>
        .before (.keyword .where) (recognizes_commaList recognizes_assignment (by simp [EndsValue]))
          (by simp [EndsList, EndsValue])
          (fun assignments => .andThen (recognizes_exactly _) fun _ => hwhere table assignments)
          fun _ _ _ => begins_of_andThen
  refine hrule.congr fun st forms => ?_
  constructor
  · rintro ⟨_, _, rfl, table, _, rfl, _, _, rfl, assignments, _, rfl, _, _, rfl, cond, _, rfl,
      heq, _, rfl, rfl⟩
    exact .update (not_not.1 heq)
  · intro h
    cases h with
    | @update table assignments cond heq =>
        exact ⟨(), _, rfl, table, _, rfl, (), _, rfl, assignments, _, rfl, (), _, rfl, cond, _, rfl,
          not_not.2 heq, (), rfl, rfl⟩

theorem follows_readDelete : Follows readDelete (Rule .delete) AtEnd := by
  have hrule : Follows readDelete _ AtEnd :=
    .andThen (recognizes_exactly _) fun _ => .andThen (recognizes_exactly _) fun _ =>
      .andThen (recognizes_identifier _) fun table => .andThen (recognizes_exactly _) fun _ =>
        .before .semicolon recognizes_condition (by simp [EndsValue])
          (fun cond => .last (recognizes_close .required) (g := fun _ => delete table cond))
          fun _ _ _ => begins_of_last
  refine hrule.congr fun st forms => ?_
  constructor
  · rintro ⟨_, _, rfl, _, _, rfl, table, _, rfl, _, _, rfl, cond, _, rfl, _, rfl, rfl⟩
    exact .delete
  · intro h
    cases h with
    | @delete table cond =>
        exact ⟨(), _, rfl, (), _, rfl, table, _, rfl, (), _, rfl, cond, _, rfl, (), rfl, rfl⟩

theorem follows_readCreateTable : Follows readCreateTable (Rule .createTable) AtEnd := by
  have hrule : Follows readCreateTable _ AtEnd :=
    .andThen (recognizes_exactly _) fun _ => .andThen (recognizes_exactly _) fun _ =>
      .andThen (recognizes_identifier _) fun name => .andThen (recognizes_exactly _) fun _ =>
        .before .rightParen recognizes_columns (by simp [EndsList, EndsDefinition])
          (fun columns => .andThen (recognizes_exactly _) fun _ =>
            .last (recognizes_close .optional) (g := fun _ => createTable name columns))
          fun _ _ _ => begins_of_andThen
  refine hrule.congr fun st forms => ?_
  constructor
  · rintro ⟨_, _, rfl, _, _, rfl, name, _, rfl, _, _, rfl, columns, _, rfl, _, _, rfl, _, rfl, rfl⟩
    exact .createTable
  · intro h
    cases h with
    | @createTable name columns =>
        exact ⟨(), _, rfl, (), _, rfl, name, _, rfl, (), _, rfl, columns, _, rfl, (), _, rfl, (),
          rfl, rfl⟩

/-- Two keywords, a name, and a semicolon that may be left out. -/
theorem follows_named (first second : Keyword) (what : String) (st : String → Statement) :
    Follows (word first >>= fun _ => word second >>= fun _ => identifier what >>= fun name =>
        close .optional >>= fun _ => pure (st name))
      (fun statement forms => ∃ name, statement = st name
        ∧ forms = [Word first, Word second, Name name, Optionally (Is .semicolon)]) AtEnd := by
  have hrule := Follows.andThen (recognizes_exactly (.keyword first)) fun _ =>
    Follows.andThen (recognizes_exactly (.keyword second)) fun _ =>
      Follows.andThen (recognizes_identifier what) fun name =>
        Follows.last (recognizes_close .optional) (g := fun _ => st name)
  refine hrule.congr fun statement forms => ?_
  constructor
  · rintro ⟨_, _, rfl, _, _, rfl, name, _, rfl, _, rfl, rfl⟩
    exact ⟨name, rfl, rfl⟩
  · rintro ⟨name, rfl, rfl⟩
    exact ⟨(), _, rfl, (), _, rfl, name, _, rfl, (), rfl, rfl⟩

/-- Two keywords and a semicolon. -/
theorem follows_bare (first second : Keyword) (st : Statement) :
    Follows (word first >>= fun _ => word second >>= fun _ => close .required >>= fun _ => pure st)
      (fun statement forms => statement = st
        ∧ forms = [Word first, Word second, Is .semicolon]) AtEnd := by
  have hrule := Follows.andThen (recognizes_exactly (.keyword first)) fun _ =>
    Follows.andThen (recognizes_exactly (.keyword second)) fun _ =>
      Follows.last (recognizes_close .required) (g := fun _ => st)
  refine hrule.congr fun statement forms => ?_
  constructor
  · rintro ⟨_, _, rfl, _, _, rfl, _, rfl, rfl⟩
    exact ⟨rfl, rfl⟩
  · rintro ⟨rfl, rfl⟩
    exact ⟨(), _, rfl, (), _, rfl, (), rfl, rfl⟩

theorem follows_readUse : Follows readUse (Rule .use) AtEnd := by
  have hrule : Follows readUse _ AtEnd :=
    .andThen (recognizes_exactly _) fun _ => .andThen (recognizes_identifier _) fun name =>
      .last (recognizes_close .optional) (g := fun _ => use name)
  refine hrule.congr fun st forms => ?_
  constructor
  · rintro ⟨_, _, rfl, name, _, rfl, _, rfl, rfl⟩
    exact .use
  · intro h
    cases h with
    | @use name => exact ⟨(), _, rfl, name, _, rfl, (), rfl, rfl⟩

/-- **Every command is read as its rule says.** -/
theorem reader_follows (k : Command) : Follows (reader k) (Rule k) AtEnd := by
  cases k with
  | select => exact follows_readSelect
  | insert => exact follows_readInsert
  | update => exact follows_readUpdate
  | delete => exact follows_readDelete
  | createTable => exact follows_readCreateTable
  | use => exact follows_readUse
  | createDatabase =>
      refine (follows_named .create .database _ createDatabase).congr fun st forms => ⟨?_, ?_⟩
      · rintro ⟨name, rfl, rfl⟩
        exact .createDatabase
      · rintro ⟨⟩
        exact ⟨_, rfl, rfl⟩
  | dropDatabase =>
      refine (follows_named .drop .database _ dropDatabase).congr fun st forms => ⟨?_, ?_⟩
      · rintro ⟨name, rfl, rfl⟩
        exact .dropDatabase
      · rintro ⟨⟩
        exact ⟨_, rfl, rfl⟩
  | dropTable =>
      refine (follows_named .drop .table _ dropTable).congr fun st forms => ⟨?_, ?_⟩
      · rintro ⟨name, rfl, rfl⟩
        exact .dropTable
      · rintro ⟨⟩
        exact ⟨_, rfl, rfl⟩
  | showDatabases =>
      refine (follows_bare .show .databases showDatabases).congr fun st forms => ⟨?_, ?_⟩
      · rintro ⟨rfl, rfl⟩
        exact .showDatabases
      · rintro ⟨⟩
        exact ⟨rfl, rfl⟩
  | showTables =>
      refine (follows_bare .show .tables showTables).congr fun st forms => ⟨?_, ?_⟩
      · rintro ⟨rfl, rfl⟩
        exact .showTables
      · rintro ⟨⟩
        exact ⟨rfl, rfl⟩

/-! ## §3. Texts. -/

/-- Reading lexemes is deriving a statement from all of them. -/
theorem run_reader {k : Command} {ls rest : List Lexeme} {statement : Statement} :
    (reader k).run ls = .ok (statement, rest) ↔ rest = [] ∧ Derives k statement ls := by
  rw [reader_follows k]
  constructor
  · rintro ⟨phrase, rfl, hderives, hrest⟩
    obtain rfl := firstToken_eq_none.1 hrest
    exact ⟨rfl, by rwa [List.append_nil]⟩
  · rintro ⟨rfl, hderives⟩
    exact ⟨ls, (List.append_nil ls).symm, hderives, rfl⟩

/-- A text that is read is derived. -/
theorem read_eq_ok {k : Command} {cs : List Char} {statement : Statement} :
    read k cs = .ok statement
      ↔ ∃ ls tail, lexemes cs = .ok (ls, tail) ∧ Derives k statement ls := by
  unfold read
  cases hlexemes : lexemes cs with
  | error fault => simp
  | ok cut =>
      obtain ⟨ls, tail⟩ := cut
      dsimp only
      constructor
      · intro h
        split at h
        · cases h
        · next statement' rest hrun =>
          cases h
          exact ⟨ls, tail, rfl, (run_reader.1 hrun).2⟩
      · rintro ⟨_, _, hls, hderives⟩
        cases hls
        rw [run_reader.2 ⟨rfl, hderives⟩]

/-- A statement is written if it is read; faults only become messages. -/
theorem ofText_eq_ok_iff_read {k : Command} {cs : List Char} {statement : Statement} :
    ofText k cs = .ok statement ↔ read k cs = .ok statement := by
  unfold ofText
  cases read k cs with
  | error fault => simp [Except.mapError]
  | ok statement' => simp [Except.mapError]

/-- **The grammar is what is accepted.**  A text is taken as a statement of a command if and only if it
can be cut into lexemes, and the statement derives from all of them by a rule of the command. -/
theorem ofText_eq_ok_iff_derives (k : Command) (cs : List Char) (statement : Statement) :
    ofText k cs = .ok statement
      ↔ ∃ ls tail, lexemes cs = .ok (ls, tail) ∧ Derives k statement ls := by
  rw [ofText_eq_ok_iff_read, read_eq_ok]

end SmallSql.Statement
