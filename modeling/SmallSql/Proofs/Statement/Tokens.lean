/-
  SmallSql.Proofs.Statement.Tokens
  ────────────────────────────────
  The tokens that a statement is written with, and that its reader takes them back.  `Takes` follows
  a reader along the tokens it takes:

      tokens  ──  p gives a  ──▶  tokens left  ──  f a gives b  ──▶  tokens left

  No reader looks at the gaps between tokens here, since every value is a single token.
-/
import SmallSql.Proofs.Statement.Formed

namespace SmallSql

/-! ## §1. Statements as tokens. -/

/-- The token of a cell: a string, or NULL. -/
def Cell.token : Cell → Token
  | null => .keyword .null
  | text content => .string content

namespace Statement

/-- Token lists one behind the other, with a comma between each two. -/
def withCommas : List (List Token) → List Token
  | [] => []
  | [ts] => ts
  | ts :: us :: more => ts ++ .comma :: withCommas (us :: more)

/-- A list of names. -/
def nameTokens (names : List String) : List Token :=
  withCommas (names.map fun name => [.identifier name])

/-- The values of one row, in parentheses. -/
def tupleTokens (cells : List Cell) : List Token :=
  .leftParen :: (withCommas (cells.map fun c => [c.token]) ++ [.rightParen])

/-- A column and the cell assigned to it. -/
def assignmentTokens (a : String × Cell) : List Token :=
  [.identifier a.1, .comparison .eq, a.2.token]

/-- A condition, behind WHERE. -/
def conditionTokens (condition : Condition) : List Token :=
  [.keyword .where, .identifier condition.column, .comparison condition.comparison,
    condition.value.token]

/-- What a projection shows. -/
def projectionTokens : Projection → List Token
  | .all => [.star]
  | .columns names => nameTokens names

/-- The tokens of a statement, its end left out. -/
def tokens : Statement → List Token
  | select table projection =>
    .keyword .select :: (projectionTokens projection ++ [.keyword .from, .identifier table])
  | insert table columns rows =>
    [.keyword .insert, .keyword .into, .identifier table, .leftParen]
      ++ (nameTokens columns
        ++ .rightParen :: .keyword .values :: withCommas (rows.map tupleTokens))
  | update table assignments condition =>
    [.keyword .update, .identifier table, .keyword .set]
      ++ (withCommas (assignments.map assignmentTokens) ++ conditionTokens condition)
  | delete table condition =>
    [.keyword .delete, .keyword .from, .identifier table] ++ conditionTokens condition
  | createDatabase name => [.keyword .create, .keyword .database, .identifier name]
  | use name => [.keyword .use, .identifier name]
  | createTable name columns =>
    [.keyword .create, .keyword .table, .identifier name, .leftParen]
      ++ (nameTokens columns ++ [.rightParen])
  | showDatabases => [.keyword .show, .keyword .databases]
  | showTables => [.keyword .show, .keyword .tables]
  | dropDatabase name => [.keyword .drop, .keyword .database, .identifier name]
  | dropTable name => [.keyword .drop, .keyword .table, .identifier name]

/-- Whether a statement of this command needs its semicolon. -/
def closing : Command → Closing
  | .insert | .update | .delete | .showDatabases | .showTables => .required
  | .select | .createDatabase | .use | .createTable | .dropDatabase | .dropTable => .optional

/-- The ways to end a statement. -/
def Closing.endings : Closing → List (List Token)
  | .required => [[.semicolon]]
  | .optional => [[], [.semicolon]]

/-- A statement that can be written: no list that has to have an entry is empty, no column is
defined twice, and UPDATE compares for equality. -/
def IsWritable : Statement → Prop
  | select _ (.columns names) => names ≠ []
  | insert _ columns rows => columns ≠ [] ∧ rows ≠ [] ∧ ∀ row ∈ rows, row ≠ []
  | update _ assignments condition => assignments ≠ [] ∧ condition.comparison = .eq
  | createTable _ columns => columns ≠ [] ∧ columns.Nodup
  | _ => True

/-! ## §2. Readers along tokens. -/

variable {α β : Type}

/-- On lexemes with the tokens `ts`, the reader gives `a` and leaves lexemes with the tokens
`us`. -/
def Takes (p : LexemeParser α) (ts : List Token) (a : α) (us : List Token) : Prop :=
  ∀ ls : List Lexeme, ls.map Lexeme.token = ts →
    ∃ rest, rest.map Lexeme.token = us ∧ p.run ls = .ok (a, rest)

theorem Takes.pure (a : α) (ts : List Token) : Takes (pure a) ts a ts :=
  fun ls h => ⟨ls, h, rfl⟩

theorem Takes.bind {p : LexemeParser α} {f : α → LexemeParser β} {ts us vs : List Token} {a : α}
    {b : β} (hp : Takes p ts a us) (hf : Takes (f a) us b vs) : Takes (p >>= f) ts b vs := by
  intro ls h
  obtain ⟨mid, hmid, hrun⟩ := hp ls h
  obtain ⟨rest, hrest, hrun'⟩ := hf mid hmid
  exact ⟨rest, hrest, Parser.run_bind_eq_ok.2 ⟨a, mid, hrun, hrun'⟩⟩

/-- A reader of one token takes a token that it accepts. -/
theorem takes_token {view : Lexeme → Option α} {fault : List Lexeme → ReadFault} {t : Token}
    {a : α} (h : ∀ l : Lexeme, l.token = t → view l = some a) (us : List Token) :
    Takes (Parser.token view fault) (t :: us) a us := by
  intro ls hls
  obtain ⟨l, rest, rfl, hl, hrest⟩ := List.map_eq_cons_iff.1 hls
  exact ⟨rest, hrest, Parser.run_token (h l hl) rest⟩

theorem takes_exactly (t : Token) (us : List Token) : Takes (exactly t) (t :: us) () us :=
  takes_token (fun _ hl => if_pos hl) us

theorem takes_identifier (what name : String) (us : List Token) :
    Takes (identifier what) (.identifier name :: us) name us := by
  apply takes_token
  intro l hl
  unfold nameOf?
  rw [hl]

theorem takes_finished (fault : List Lexeme → ReadFault) :
    Takes (Parser.finished fault) [] () [] := by
  intro ls h
  obtain rfl := List.map_eq_nil_iff.1 h
  exact ⟨[], rfl, rfl⟩

/-- A statement is closed in each of the ways to close it. -/
theorem takes_close {c : Closing} {ending : List Token} (h : ending ∈ c.endings) :
    Takes (close c) ending () [] := by
  cases c with
  | required =>
      obtain rfl : ending = [.semicolon] := List.mem_singleton.1 h
      exact (takes_token (fun _ hl => if_pos hl) []).bind (takes_finished _)
  | optional =>
      have hend : Takes (Parser.optional (isToken .semicolon)) ending
          (ending.head?.any (· = .semicolon)) [] := by
        intro ls hls
        simp only [Closing.endings, List.mem_cons, List.not_mem_nil, or_false] at h
        rcases h with rfl | rfl
        · obtain rfl := List.map_eq_nil_iff.1 hls
          exact ⟨[], rfl, rfl⟩
        · obtain ⟨l, rest, rfl, hl, hrest⟩ := List.map_eq_cons_iff.1 hls
          refine ⟨rest, hrest, ?_⟩
          have hsemicolon : isToken .semicolon l = true := decide_eq_true hl
          show (if isToken .semicolon l then .ok (true, rest) else .ok (false, l :: rest)
            : Except ReadFault (Bool × List Lexeme)) = _
          rw [if_pos hsemicolon]
          rfl
      exact hend.bind (takes_finished _)

/-! ## §3. Lists and values. -/

/-- A list of items between commas, if each item can be read up to the token behind it. -/
theorem takes_commaList {item : LexemeParser α} {enc : α → List Token} {P : Token → Prop}
    (hcomma : P .comma) {as : List α}
    (hitem : ∀ a ∈ as, ∀ us : List Token, (∀ t ∈ us.head?, P t) → Takes item (enc a ++ us) a us)
    (hne : as ≠ []) {us : List Token} (hus : ∀ t ∈ us.head?, P t ∧ t ≠ .comma) :
    Takes (commaList item) (withCommas (as.map enc) ++ us) as us := by
  -- by induction on the items: behind the last the list ends, behind another a comma follows
  induction as with
  | nil => exact absurd rfl hne
  | cons a as ih =>
      intro ls hls
      cases as with
      | nil =>
          obtain ⟨rest, hrest, hrun⟩ :=
            hitem a List.mem_cons_self us (fun t ht => (hus t ht).1) ls hls
          refine ⟨rest, hrest, Parser.separatedRun_last hrun fun l hl => ?_⟩
          have hhead : l.token ∈ us.head? := by
            rw [← hrest, List.head?_map]
            exact Option.mem_map_of_mem _ hl
          exact decide_eq_false (hus l.token hhead).2
      | cons b more =>
          change ls.map Lexeme.token
            = (enc a ++ .comma :: withCommas ((b :: more).map enc)) ++ us at hls
          rw [List.append_assoc, List.cons_append] at hls
          have hstops : ∀ t ∈ (Token.comma :: (withCommas ((b :: more).map enc) ++ us)).head?,
              P t := by
            intro _ ht
            cases ht
            exact hcomma
          obtain ⟨mid, hmid, hrun⟩ := hitem a List.mem_cons_self _ hstops ls hls
          obtain ⟨l, mid', rfl, hl, hmid'⟩ := List.map_eq_cons_iff.1 hmid
          obtain ⟨rest, hrest, hmore⟩ :=
            ih (fun c hc => hitem c (List.mem_cons_of_mem _ hc)) (List.cons_ne_nil _ _) mid' hmid'
          exact ⟨rest, hrest, Parser.separatedRun_more hrun (decide_eq_true hl) hmore⟩

/-- Items that are read whatever stands behind them. -/
theorem takes_commaList_closed {item : LexemeParser α} {enc : α → List Token}
    {as : List α} (hitem : ∀ a ∈ as, ∀ us, Takes item (enc a ++ us) a us) (hne : as ≠ [])
    {us : List Token} (hus : us.head? ≠ some .comma) :
    Takes (commaList item) (withCommas (as.map enc) ++ us) as us :=
  takes_commaList (P := fun _ => True) trivial (fun a ha us _ => hitem a ha us) hne
    fun _ ht => ⟨trivial, fun he => hus (he ▸ ht)⟩

theorem takes_columnNames {names : List String} (hne : names ≠ []) {us : List Token}
    (hus : us.head? ≠ some .comma) : Takes columnNames (nameTokens names ++ us) names us :=
  takes_commaList_closed (fun name _ us => takes_identifier "column name" name us) hne hus

/-- A cell is read off its token. -/
theorem cellOf_token {l : Lexeme} {c : Cell} (h : l.token = c.token) : cellOf [l] = c := by
  unfold cellOf
  rw [List.map_singleton, h]
  cases c <;> rfl

/-- A value of one token, up to a token that ends it. -/
theorem takes_value {ends : Token → Bool} {c : Cell} (hc : ends c.token = false)
    {us : List Token} (hus : ∀ t ∈ us.head?, ends t = true) :
    Takes (value ends) (c.token :: us) c us := by
  intro ls hls
  obtain ⟨l, rest, rfl, hl, hrest⟩ := List.map_eq_cons_iff.1 hls
  have hrun : ∀ l' ∈ [l], (!ends l'.token) = true := by
    intro l' hl'
    rw [List.mem_singleton.1 hl', hl, hc]
    rfl
  have hstop : ∀ l' ∈ rest.head?, (!ends l'.token) = false := by
    intro l' hl'
    rw [hus l'.token]
    · rfl
    · rw [← hrest, List.head?_map]
      exact Option.mem_map_of_mem _ hl'
  obtain ⟨htake, hdrop⟩ := takeWhile_run hrun hstop
  refine ⟨rest, hrest, ?_⟩
  unfold value
  rw [Parser.run_bind]
  show (if (([l] ++ rest).takeWhile fun l => !ends l.token).isEmpty then
      Parser.fail (expected "value")
    else pure (cellOf (([l] ++ rest).takeWhile fun l => !ends l.token))).run
      (([l] ++ rest).dropWhile fun l => !ends l.token) = _
  rw [htake, hdrop, List.isEmpty_cons, if_neg Bool.false_ne_true, Parser.run_pure, cellOf_token hl]

theorem takes_tuple {cells : List Cell} (hne : cells ≠ []) (us : List Token) :
    Takes tuple (tupleTokens cells ++ us) cells us := by
  have hvalue : ∀ c ∈ cells, ∀ us : List Token, (∀ t ∈ us.head?, endsTupleValue t = true) →
      Takes (value endsTupleValue) ([c.token] ++ us) c us := by
    intro c _ us hus
    exact takes_value (by cases c <;> rfl) hus
  have hcells : Takes (commaList (value endsTupleValue))
      (withCommas (cells.map fun c => [c.token]) ++ .rightParen :: us) cells
      (.rightParen :: us) := by
    refine takes_commaList (P := fun t => endsTupleValue t = true) rfl hvalue hne fun t ht => ?_
    cases ht
    exact ⟨rfl, by decide⟩
  unfold tuple tupleTokens
  rw [List.cons_append, List.append_assoc, List.singleton_append]
  exact (takes_exactly _ _).bind (hcells.bind ((takes_exactly _ _).bind (.pure _ _)))

/-- A comparison is read off its token. -/
theorem takes_comparison (c : Comparison) (us : List Token) :
    Takes comparison (.comparison c :: us) c us := by
  unfold comparison
  have hview : ∀ l : Lexeme, l.token = .comparison c → comparisonOf? l = some (.ok c) := by
    intro l hl
    unfold comparisonOf?
    rw [hl]
  refine Takes.bind (takes_token hview us) ?_
  exact .pure c us

theorem takes_condition (condition : Condition) :
    Takes SmallSql.Statement.condition
      ((conditionTokens condition).tail ++ [.semicolon]) condition [.semicolon] := by
  unfold SmallSql.Statement.condition conditionTokens
  have hvalue : Takes (value endsComparedValue) (condition.value.token :: [.semicolon])
      condition.value [.semicolon] := by
    refine takes_value (by cases condition.value <;> rfl) fun t ht => ?_
    cases ht
    rfl
  exact (takes_identifier _ _ _).bind
    ((takes_comparison _ _).bind (hvalue.bind (.pure _ _)))

/-! ## §4. The eleven statements. -/

theorem takes_assignment (a : String × Cell) {us : List Token}
    (hus : ∀ t ∈ us.head?, endsAssignedValue t = true) :
    Takes assignment (assignmentTokens a ++ us) a us := by
  have hvalue : Takes (value endsAssignedValue) (a.2.token :: us) a.2 us :=
    takes_value (by cases a.2 <;> rfl) hus
  exact (takes_identifier _ _ _).bind
    ((takes_exactly _ _).bind (hvalue.bind (.pure _ _)))

/-- What follows a new column name at once is its end. -/
theorem takes_columnDefinition {columns : List String} {column : String}
    (hnew : column ∉ columns) {t : Token} (ht : t = .comma ∨ t = .rightParen) (us : List Token) :
    Takes (columnDefinition columns) (.identifier column :: t :: us) (columns ++ [column])
      (t :: us) := by
  -- the definition behind a name ends at once, since its first token is no part of it
  have hskip : Takes skipDefinition (t :: us) () (t :: us) := by
    intro ls hls
    obtain ⟨l, rest, rfl, hl, hrest⟩ := List.map_eq_cons_iff.1 hls
    have hsplit : splitDefinition 0 (l :: rest) = l :: rest := by
      unfold splitDefinition
      rw [hl]
      rcases ht with rfl | rfl
      · exact if_pos rfl
      · rfl
    refine ⟨l :: rest, hls, ?_⟩
    unfold skipDefinition
    dsimp only
    rw [hsplit]
  have hcontains : ¬ columns.contains column = true := by
    rwa [List.contains_iff_mem]
  unfold columnDefinition
  refine (takes_identifier _ _ _).bind ?_
  rw [if_neg hcontains]
  exact hskip.bind (.pure _ _)

/-- The columns of CREATE TABLE, all of them new. -/
theorem takes_columnDefinitions {seen columns : List String} (hne : columns ≠ [])
    (hnew : (seen ++ columns).Nodup) (us : List Token) :
    Takes (Parser.separatedFrom (isToken .comma) columnDefinition seen)
      (nameTokens columns ++ .rightParen :: us) (seen ++ columns) (.rightParen :: us) := by
  -- the columns read so far grow along the list, so they are generalized
  induction columns generalizing seen with
  | nil => exact absurd rfl hne
  | cons column columns ih =>
      have hcolumn : column ∉ seen := not_mem_of_nodup hnew
      intro ls hls
      cases columns with
      | nil =>
          obtain ⟨rest, hrest, hrun⟩ :=
            takes_columnDefinition hcolumn (.inr rfl) us ls hls
          refine ⟨rest, hrest, Parser.separatedFromRun_last hrun fun l hl => ?_⟩
          obtain ⟨l', rest', rfl, hl', -⟩ := List.map_eq_cons_iff.1 hrest
          cases hl
          unfold isToken
          rw [hl']
          rfl
      | cons next columns =>
          change ls.map Lexeme.token = .identifier column :: .comma
            :: (nameTokens (next :: columns) ++ .rightParen :: us) at hls
          obtain ⟨mid, hmid, hrun⟩ := takes_columnDefinition hcolumn (.inl rfl) _ ls hls
          obtain ⟨l, mid', rfl, hl, hmid'⟩ := List.map_eq_cons_iff.1 hmid
          rw [List.append_cons seen column] at hnew
          obtain ⟨rest, hrest, hmore⟩ := ih (List.cons_ne_nil _ _) hnew mid' hmid'
          refine ⟨rest, hrest, ?_⟩
          rw [List.append_cons seen column]
          exact (Parser.separatedFromRun_more hrun (decide_eq_true hl)).trans hmore

/-- An entry of a projection, as a token. -/
def entryToken : Option String → Token
  | none => .star
  | some name => .identifier name

/-- The entries that a projection is written with. -/
def entriesOf : Projection → List (Option String)
  | .all => [none]
  | .columns names => names.map some

theorem projectionOf_entriesOf (projection : Projection) :
    projectionOf (entriesOf projection) = projection := by
  unfold projectionOf
  cases projection with
  | all => rfl
  | columns names => simp [entriesOf]

theorem projectionTokens_eq (projection : Projection) :
    projectionTokens projection
      = withCommas ((entriesOf projection).map fun entry => [entryToken entry]) := by
  cases projection with
  | all => rfl
  | columns names =>
      show withCommas _ = withCommas _
      rw [entriesOf, List.map_map]
      rfl

theorem takes_readSelect (table : String) {projection : Projection}
    (h : (select table projection).IsWritable) {ending : List Token}
    (hend : ending ∈ Closing.endings .optional) :
    Takes readSelect ((select table projection).tokens ++ ending) (select table projection) [] := by
  have hne : entriesOf projection ≠ [] := by
    cases projection with
    | all => exact List.cons_ne_nil _ _
    | columns names => exact fun hn => h (List.map_eq_nil_iff.1 hn)
  have hentries : Takes (commaList (Parser.token projectionEntry? (expected "column name or '*'")))
      (projectionTokens projection ++ .keyword .from :: .identifier table :: ending)
      (entriesOf projection) (.keyword .from :: .identifier table :: ending) := by
    rw [projectionTokens_eq]
    refine takes_commaList_closed (fun entry _ us => takes_token (fun l hl => ?_) us) hne
      (by simp)
    unfold projectionEntry?
    rw [hl]
    cases entry <;> rfl
  unfold readSelect tokens
  rw [List.cons_append, List.append_assoc]
  have hlast : Takes (pure (select table (projectionOf (entriesOf projection)))) []
      (select table projection) [] := by
    rw [projectionOf_entriesOf]
    exact .pure _ _
  exact (takes_exactly _ _).bind (hentries.bind ((takes_exactly _ _).bind
    ((takes_identifier _ _ _).bind ((takes_close hend).bind hlast))))

theorem takes_readInsert (table : String) {columns : List String} {rows : List (List Cell)}
    (h : (insert table columns rows).IsWritable) {ending : List Token}
    (hend : ending ∈ Closing.endings .required) :
    Takes readInsert ((insert table columns rows).tokens ++ ending) (insert table columns rows)
      [] := by
  obtain ⟨hcolumns, hrows, htuples⟩ := h
  obtain rfl : ending = [.semicolon] := List.mem_singleton.1 hend
  have hnames : Takes columnNames (nameTokens columns ++ .rightParen :: .keyword .values
      :: (withCommas (rows.map tupleTokens) ++ [.semicolon])) columns (.rightParen
      :: .keyword .values :: (withCommas (rows.map tupleTokens) ++ [.semicolon])) :=
    takes_columnNames hcolumns (by simp)
  have hvalues : Takes (commaList tuple) (withCommas (rows.map tupleTokens) ++ [.semicolon]) rows
      [.semicolon] :=
    takes_commaList_closed (fun row hrow us => takes_tuple (htuples row hrow) us) hrows (by simp)
  unfold readInsert tokens
  rw [List.append_assoc, List.append_assoc]
  exact (takes_exactly _ _).bind ((takes_exactly _ _).bind ((takes_identifier _ _ _).bind
    ((takes_exactly _ _).bind (hnames.bind ((takes_exactly _ _).bind ((takes_exactly _ _).bind
      (hvalues.bind ((takes_close hend).bind (.pure _ _)))))))))

theorem takes_readUpdate (table : String) {assignments : List (String × Cell)}
    {cond : Condition} (h : (update table assignments cond).IsWritable)
    {ending : List Token} (hend : ending ∈ Closing.endings .required) :
    Takes readUpdate ((update table assignments cond).tokens ++ ending)
      (update table assignments cond) [] := by
  obtain ⟨hassignments, hequal⟩ := h
  obtain rfl : ending = [.semicolon] := List.mem_singleton.1 hend
  have hset : Takes (commaList assignment) (withCommas (assignments.map assignmentTokens)
      ++ (conditionTokens cond ++ [.semicolon])) assignments
      (conditionTokens cond ++ [.semicolon]) := by
    refine takes_commaList (P := fun t => endsAssignedValue t = true) rfl
      (fun a _ us hus => takes_assignment a hus) hassignments fun t ht => ?_
    cases ht
    exact ⟨rfl, by decide⟩
  unfold readUpdate tokens
  rw [List.append_assoc, List.append_assoc]
  refine (takes_exactly _ _).bind ((takes_identifier _ _ _).bind ((takes_exactly _ _).bind
    (hset.bind ((takes_exactly _ _).bind ((takes_condition cond).bind ?_)))))
  rw [if_neg fun hne => hne hequal]
  exact (takes_close hend).bind (.pure _ _)

theorem takes_readDelete (table : String) (cond : Condition) {ending : List Token}
    (hend : ending ∈ Closing.endings .required) :
    Takes readDelete ((delete table cond).tokens ++ ending) (delete table cond) [] := by
  obtain rfl : ending = [.semicolon] := List.mem_singleton.1 hend
  exact (takes_exactly _ _).bind ((takes_exactly _ _).bind ((takes_identifier _ _ _).bind
    ((takes_exactly _ _).bind ((takes_condition cond).bind
      ((takes_close hend).bind (.pure _ _))))))

theorem takes_readCreateTable (name : String) {columns : List String}
    (h : (createTable name columns).IsWritable) {ending : List Token}
    (hend : ending ∈ Closing.endings .optional) :
    Takes readCreateTable ((createTable name columns).tokens ++ ending) (createTable name columns)
      [] := by
  have hcolumns : Takes (Parser.separatedFrom (isToken .comma) columnDefinition [])
      (nameTokens columns ++ .rightParen :: ending) columns (.rightParen :: ending) :=
    @takes_columnDefinitions [] columns h.1 h.2 ending
  unfold readCreateTable tokens
  rw [List.append_assoc, List.append_assoc, List.singleton_append]
  exact (takes_exactly _ _).bind ((takes_exactly _ _).bind ((takes_identifier _ _ _).bind
    ((takes_exactly _ _).bind (hcolumns.bind ((takes_exactly _ _).bind
      ((takes_close hend).bind (.pure _ _)))))))

/-- **Every statement that can be written is taken back from its tokens**, closed in any of the
ways to close it. -/
theorem takes_reader {statement : Statement} (h : statement.IsWritable) {ending : List Token}
    (hend : ending ∈ (closing statement.command).endings) :
    Takes (reader statement.command) (statement.tokens ++ ending) statement [] := by
  cases statement with
  | select table projection => exact takes_readSelect table h hend
  | insert table columns rows => exact takes_readInsert table h hend
  | update table assignments condition => exact takes_readUpdate table h hend
  | delete table condition => exact takes_readDelete table condition hend
  | createTable name columns => exact takes_readCreateTable name h hend
  | createDatabase | dropDatabase | dropTable =>
      exact (takes_exactly _ _).bind ((takes_exactly _ _).bind ((takes_identifier _ _ _).bind
        ((takes_close hend).bind (.pure _ _))))
  | use =>
      exact (takes_exactly _ _).bind ((takes_identifier _ _ _).bind
        ((takes_close hend).bind (.pure _ _)))
  | showDatabases | showTables =>
      exact (takes_exactly _ _).bind ((takes_exactly _ _).bind
        ((takes_close hend).bind (.pure _ _)))

end Statement

end SmallSql
