/-
  SmallSql.Proofs.Statement.Writing
  ────────────────────────────────
  The texts that write a statement, and that they are read as it.  A text writes a statement if it
  is a layout of its tokens that begins with the opening words of its command, with white space
  around it:

      blank  opening words …  layout of the tokens  …  blank

  The opening words stand with a single space between them and in any case; the rest may be laid out
  in any way.  Every statement has such a text if its names can be put in quotes (`exists_writes`).
-/
import Mathlib.Data.List.Forall2
import SmallSql.Proofs.Statement.Run
import SmallSql.Proofs.Statement.Tokens
import SmallSql.Proofs.Text.Trim
import SmallSql.Proofs.Token.Layout

namespace SmallSql

/-! ## §1. Opening words. -/

/-- The characters of opening words and full forms. -/
def isPlain (c : Char) : Bool := c.isAlpha || c = ' ' || c = ';'

/-- A plain character is lowered as the alphabet is, and is no capital sigma. -/
theorem lower_of_isPlain {c : Char} (h : isPlain c = true) :
    c ≠ Text.capitalSigma ∧ Text.lower c = [c.toLower] := by
  simp only [isPlain, Bool.or_eq_true, decide_eq_true_eq] at h
  rcases h with (halpha | rfl) | rfl
  · refine ⟨?_, lower_of_isAlpha halpha⟩
    rintro rfl
    exact absurd halpha (by decide)
  · decide
  · decide

/-- Plain characters are lowered one by one. -/
theorem lowercaseAfter_plain {plain : List Char} (h : ∀ c ∈ plain, isPlain c = true)
    (before rest : List Char) : ∃ before', Text.lowercaseAfter before (plain ++ rest)
      = plain.map Char.toLower ++ Text.lowercaseAfter before' rest := by
  -- a capital sigma is lowered by what stands around it; no plain character is one
  induction plain generalizing before with
  | nil => exact ⟨before, rfl⟩
  | cons c plain ih =>
      obtain ⟨hsigma, hlower⟩ := lower_of_isPlain (h c List.mem_cons_self)
      obtain ⟨before', hrest⟩ := ih (fun d hd => h d (List.mem_cons_of_mem _ hd)) (c :: before)
      refine ⟨before', ?_⟩
      rw [List.cons_append, Text.lowercaseAfter, if_neg hsigma, hlower, hrest]
      rfl

/-- What becomes plain in small letters is plain. -/
theorem isPlain_of_toLower {c : Char} (h : isPlain c.toLower = true) : isPlain c = true := by
  rcases isAlpha_or_toLower_eq c with halpha | hsame
  · unfold isPlain
    rw [halpha]
    rfl
  · rwa [hsame] at h

theorem isPlain_of_map_toLower {word : List Char} {plain : String}
    (hplain : plain.toList.all isPlain = true) (h : word.map Char.toLower = plain.toList) :
    ∀ c ∈ word, isPlain c = true := by
  intro c hc
  apply isPlain_of_toLower
  refine List.all_eq_true.1 hplain _ ?_
  rw [← h]
  exact List.mem_map_of_mem hc

namespace Command

theorem isPlain_opening (k : Command) : k.opening.toList.all isPlain = true := by
  cases k <;> rfl

theorem isPlain_fullForm {k : Command} {form : String} (h : k.fullForm? = some form) :
    form.toList.all isPlain = true := by
  cases k <;> cases h <;> rfl

/-- Of all openings, only that of the command itself begins a text that begins with it. -/
theorem announced?_opening (k : Command) (rest : List Char) :
    announced? (k.opening.toList ++ rest) = some k := by
  -- no opening begins another, so the order in which they are tried does not matter
  cases k <;> rfl

/-- A text in plain characters begins as its lowered form does. -/
theorem lowercase_of_prefix {body : List Char} {words : String}
    (hplain : words.toList.all isPlain = true)
    (h : words.toList <+: body.map Char.toLower) :
    ∃ rest, Text.lowercase body = words.toList ++ rest := by
  obtain ⟨tail, htail⟩ := h
  obtain ⟨opening, rest, rfl, hopening, -⟩ := List.map_eq_append_iff.1 htail.symm
  obtain ⟨before, hlower⟩ :=
    lowercaseAfter_plain (isPlain_of_map_toLower hplain hopening) [] rest
  refine ⟨Text.lowercaseAfter before rest, ?_⟩
  unfold Text.lowercase
  rw [hlower, hopening]

/-- A text announces a command if it begins with its opening words and, where there is only one
form, has that form. -/
theorem ofText_eq_ok {k : Command} {cs body : List Char} (htrim : Text.trim cs = body)
    (hopening : k.opening.toList <+: body.map Char.toLower)
    (hform : ∀ form ∈ k.fullForm?, body.map Char.toLower = form.toList) :
    ofText cs = .ok k := by
  obtain ⟨rest, hrest⟩ := lowercase_of_prefix k.isPlain_opening hopening
  have hadmits : k.admits (Text.lowercase body) = true := by
    unfold admits
    cases hk : k.fullForm? with
    | none => rfl
    | some form =>
        have hbody := hform form hk
        have hplain := isPlain_of_map_toLower (isPlain_fullForm hk) hbody
        obtain ⟨before, hlower⟩ := lowercaseAfter_plain hplain [] []
        rw [List.append_nil, hbody] at hlower
        show (Text.lowercaseAfter [] body == form.toList) = true
        rw [hlower, beq_iff_eq]
        exact List.append_nil _
  have hannounced : announced? (Text.lowercase body) = some k := by
    rw [hrest]
    exact k.announced?_opening rest
  unfold ofText
  dsimp only
  rw [htrim, hannounced]
  dsimp only
  rw [if_pos hadmits]

end Command

/-! ## §2. Texts that write a statement. -/

namespace Statement

/-- A text without white space around it that writes a statement: a layout of its tokens, closed in
one of the ways to close it, that begins with its opening words; SHOW has one form only. -/
structure IsText (statement : Statement) (body : List Char) : Prop where
  layout : ∃ ending ∈ (closing statement.command).endings,
    Layout (statement.tokens ++ ending) body
  opening : statement.command.opening.toList <+: body.map Char.toLower
  form : ∀ form ∈ statement.command.fullForm?, body.map Char.toLower = form.toList

/-- A text that writes a statement, white space around it included. -/
def Writes (statement : Statement) (sql : String) : Prop :=
  ∃ before body after, sql.toList = before ++ (body ++ after)
    ∧ Text.allBlank before = true ∧ Text.allBlank after = true ∧ statement.IsText body

variable {statement : Statement}

/-- What is left of a text without the white space around it. -/
theorem IsText.trim_eq {before body after : List Char} (h : statement.IsText body)
    (hbefore : Text.allBlank before = true) (hafter : Text.allBlank after = true) :
    Text.trim (before ++ (body ++ after)) = body := by
  obtain ⟨ending, -, hlayout⟩ := h.layout
  obtain ⟨hne, hfirst, hlast⟩ := hlayout.ends_not_blank
  exact trim_append hbefore hafter hne hfirst hlast

/-- Taking the white space away leaves a text that writes the same statement. -/
theorem Writes.trim {sql : String} (h : statement.Writes sql) :
    statement.Writes (String.ofList (Text.trim sql.toList)) := by
  obtain ⟨before, body, after, hsql, hbefore, hafter, hbody⟩ := h
  refine ⟨[], body, [], ?_, rfl, rfl, hbody⟩
  rw [String.toList_ofList, hsql, hbody.trim_eq hbefore hafter, List.nil_append, List.append_nil]

/-- A layout of the tokens of a statement is read as that statement, whatever gaps stand around
it. -/
theorem ofText_of_layout (hw : statement.IsWritable) {ending : List Token}
    (hending : ending ∈ (closing statement.command).endings) {before body after : List Char}
    (hlayout : Layout (statement.tokens ++ ending) body) (hbefore : Trivia before)
    (hafter : Trivia after) :
    ofText statement.command (before ++ (body ++ after)) = .ok statement := by
  obtain ⟨ls, hlexemes, htokens⟩ := lexemes_layout hlayout hbefore hafter
  obtain ⟨rest, -, hrun⟩ := takes_reader hw hending ls htokens
  unfold ofText read
  rw [hlexemes]
  dsimp only
  rw [hrun]
  rfl

/-- **A text that writes a statement is read as that statement.** -/
theorem written_of_writes (hw : statement.IsWritable) {sql : String} (h : statement.Writes sql) :
    written sql = .ok statement := by
  obtain ⟨before, body, after, hsql, hbefore, hafter, hbody⟩ := h
  have hcommand : Command.ofText sql.toList = .ok statement.command := by
    rw [hsql]
    exact Command.ofText_eq_ok (hbody.trim_eq hbefore hafter) hbody.opening hbody.form
  obtain ⟨ending, hending, hlayout⟩ := hbody.layout
  unfold written
  rw [hcommand, ok_bind, hsql]
  exact ofText_of_layout hw hending hlayout (.of_allBlank hbefore) (.of_allBlank hafter)

/-! ## §3. Every statement can be written. -/

/-- A name that can stand in backticks or in brackets. -/
def IsQuotable (name : String) : Prop := '\x60' ∉ name.toList ∨ ']' ∉ name.toList

/-- The names in a statement. -/
def names (statement : Statement) : List String :=
  match statement with
  | select table _ | insert table _ _ | update table _ _ | delete table _ =>
    table :: statement.namedColumns
  | createTable name columns => name :: columns
  | createDatabase name | use name | dropDatabase name | dropTable name => [name]
  | showDatabases | showTables => []

/-- A token that can be written. -/
def IsSpellable (t : Token) : Prop := ∃ text, Spelling t text

theorem spelling_keyword (k : Keyword) : Spelling (.keyword k) k.spelling.toList := by
  apply Spelling.keyword
  cases k <;> rfl

theorem spelling_mark {t : Token} {c : Char} (hc : c ∈ marks) (ht : punctuation c = t) :
    Spelling t [c] := by
  rw [← ht]
  exact .mark hc

theorem isSpellable_keyword (k : Keyword) : IsSpellable (.keyword k) := ⟨_, spelling_keyword k⟩

theorem isSpellable_mark {t : Token} (c : Char) (hc : c ∈ marks) (ht : punctuation c = t) :
    IsSpellable t := ⟨[c], spelling_mark hc ht⟩

theorem isSpellable_comparison (c : Comparison) : IsSpellable (.comparison c) :=
  ⟨_, .comparison c⟩

theorem isSpellable_identifier {name : String} (h : IsQuotable name) :
    IsSpellable (.identifier name) := by
  rcases h with h | h
  · exact ⟨_, .name (.inl rfl) h⟩
  · exact ⟨_, .name (.inr rfl) h⟩

theorem isSpellable_cell (c : Cell) : IsSpellable c.token := by
  cases c with
  | null => exact isSpellable_keyword .null
  | text content => exact ⟨_, .string content (.inl rfl)⟩

/-- Items that can be written, with commas between them. -/
theorem isSpellable_withCommas {α : Type} {enc : α → List Token} {as : List α}
    (h : ∀ a ∈ as, ∀ t ∈ enc a, IsSpellable t) : ∀ t ∈ withCommas (as.map enc), IsSpellable t := by
  induction as with
  | nil => exact nofun
  | cons a more ih =>
      have ha := h a List.mem_cons_self
      have hmore := ih fun b hb => h b (List.mem_cons_of_mem _ hb)
      cases more with
      | nil => exact ha
      | cons b more =>
          have hcomma : IsSpellable .comma := isSpellable_mark ',' (by decide) rfl
          exact List.forall_mem_append.2 ⟨ha, List.forall_mem_cons.2 ⟨hcomma, hmore⟩⟩

theorem isSpellable_nameTokens {names : List String} (h : ∀ name ∈ names, IsQuotable name) :
    ∀ t ∈ nameTokens names, IsSpellable t :=
  isSpellable_withCommas fun name hname =>
    List.forall_mem_singleton.2 (isSpellable_identifier (h name hname))

theorem isSpellable_tupleTokens (cells : List Cell) : ∀ t ∈ tupleTokens cells, IsSpellable t := by
  have hcells : ∀ t ∈ withCommas (cells.map fun c => [c.token]), IsSpellable t :=
    isSpellable_withCommas fun c _ => List.forall_mem_singleton.2 (isSpellable_cell c)
  refine List.forall_mem_cons.2 ⟨isSpellable_mark '(' (by decide) rfl, ?_⟩
  refine List.forall_mem_append.2 ⟨hcells, List.forall_mem_singleton.2 ?_⟩
  exact isSpellable_mark ')' (by decide) rfl

theorem isSpellable_assignmentTokens {a : String × Cell} (h : IsQuotable a.1) :
    ∀ t ∈ assignmentTokens a, IsSpellable t := by
  refine List.forall_mem_cons.2 ⟨isSpellable_identifier h, List.forall_mem_cons.2 ⟨?_, ?_⟩⟩
  · exact isSpellable_comparison .eq
  · exact List.forall_mem_singleton.2 (isSpellable_cell a.2)

theorem isSpellable_conditionTokens {condition : Condition} (h : IsQuotable condition.column) :
    ∀ t ∈ conditionTokens condition, IsSpellable t := by
  refine List.forall_mem_cons.2 ⟨isSpellable_keyword .where, List.forall_mem_cons.2 ⟨?_, ?_⟩⟩
  · exact isSpellable_identifier h
  · refine List.forall_mem_cons.2 ⟨isSpellable_comparison condition.comparison, ?_⟩
    exact List.forall_mem_singleton.2 (isSpellable_cell condition.value)

/-- Every token of a statement with quotable names can be written. -/
theorem isSpellable_tokens (h : ∀ name ∈ statement.names, IsQuotable name) :
    ∀ t ∈ statement.tokens, IsSpellable t := by
  have hleft : IsSpellable .leftParen := isSpellable_mark '(' (by decide) rfl
  have hright : IsSpellable .rightParen := isSpellable_mark ')' (by decide) rfl
  cases statement with
  | select table projection =>
      obtain ⟨htable, hcolumns⟩ := List.forall_mem_cons.1 h
      have hprojection : ∀ t ∈ projectionTokens projection, IsSpellable t := by
        cases projection with
        | all => exact List.forall_mem_singleton.2 (isSpellable_mark '*' (by decide) rfl)
        | columns names => exact isSpellable_nameTokens hcolumns
      simp only [tokens, List.forall_mem_cons, List.forall_mem_append, List.not_mem_nil]
      exact ⟨isSpellable_keyword .select, hprojection, isSpellable_keyword .from,
        isSpellable_identifier htable, nofun⟩
  | insert table columns rows =>
      obtain ⟨htable, hcolumns⟩ := List.forall_mem_cons.1 h
      have hrows : ∀ t ∈ withCommas (rows.map tupleTokens), IsSpellable t :=
        isSpellable_withCommas fun row _ => isSpellable_tupleTokens row
      simp only [tokens, List.forall_mem_cons, List.forall_mem_append, List.not_mem_nil]
      exact ⟨⟨isSpellable_keyword .insert, isSpellable_keyword .into,
        isSpellable_identifier htable, hleft, nofun⟩, isSpellable_nameTokens hcolumns, hright,
        isSpellable_keyword .values, hrows⟩
  | update table assignments condition =>
      obtain ⟨htable, hcolumns⟩ := List.forall_mem_cons.1 h
      obtain ⟨hassigned, hcondition⟩ := List.forall_mem_append.1 hcolumns
      have hassignments : ∀ t ∈ withCommas (assignments.map assignmentTokens), IsSpellable t :=
        isSpellable_withCommas fun a ha =>
          isSpellable_assignmentTokens (hassigned a.1 (List.mem_map_of_mem ha))
      simp only [tokens, List.forall_mem_cons, List.forall_mem_append, List.not_mem_nil]
      exact ⟨⟨isSpellable_keyword .update, isSpellable_identifier htable,
        isSpellable_keyword .set, nofun⟩, hassignments,
        isSpellable_conditionTokens (List.forall_mem_singleton.1 hcondition)⟩
  | delete table condition =>
      obtain ⟨htable, hcolumns⟩ := List.forall_mem_cons.1 h
      simp only [tokens, List.forall_mem_cons, List.forall_mem_append, List.not_mem_nil]
      exact ⟨⟨isSpellable_keyword .delete, isSpellable_keyword .from,
        isSpellable_identifier htable, nofun⟩,
        isSpellable_conditionTokens (List.forall_mem_singleton.1 hcolumns)⟩
  | createTable name columns =>
      obtain ⟨hname, hcolumns⟩ := List.forall_mem_cons.1 h
      simp only [tokens, List.forall_mem_cons, List.forall_mem_append, List.not_mem_nil]
      exact ⟨⟨isSpellable_keyword .create, isSpellable_keyword .table,
        isSpellable_identifier hname, hleft, nofun⟩, isSpellable_nameTokens hcolumns, hright,
        nofun⟩
  | createDatabase name | use name | dropDatabase name | dropTable name =>
      have hname := isSpellable_identifier (List.forall_mem_singleton.1 h)
      simp only [tokens, List.forall_mem_cons, List.not_mem_nil]
      simp [isSpellable_keyword, hname]
  | showDatabases | showTables =>
      simp only [tokens, List.forall_mem_cons, List.not_mem_nil]
      exact ⟨isSpellable_keyword _, isSpellable_keyword _, nofun⟩

/-- Tokens with a space between each two, and a semicolon right behind the last. -/
theorem layout_spaced {ts : List Token} {texts : List (List Char)}
    (h : List.Forall₂ Spelling ts texts) :
    Layout (ts ++ [.semicolon]) ([' '].intercalate texts ++ [';']) := by
  have hsemicolon : Spelling .semicolon [';'] := spelling_mark (by decide) rfl
  induction h with
  | nil => exact .last hsemicolon
  | @cons t text ts texts hs hrest ih =>
      cases hrest with
      | nil =>
          rw [List.intercalate_singleton]
          have hgap : Trivia [] := .none
          -- nothing clings to a semicolon
          refine .more hs hgap (fun hc => ?_) ih
          cases t <;> cases hc
      | cons hs' hrest =>
          rw [List.intercalate_cons_cons, List.append_assoc, List.append_assoc]
          exact .more hs (.of_allBlank (by decide)) (fun _ => List.cons_ne_nil _ _) ih

/-- The opening words as keywords. -/
def words : Command → List Keyword
  | .select => [.select]
  | .insert => [.insert, .into]
  | .update => [.update]
  | .delete => [.delete, .from]
  | .createDatabase => [.create, .database]
  | .use => [.use]
  | .createTable => [.create, .table]
  | .showDatabases => [.show, .databases]
  | .showTables => [.show, .tables]
  | .dropDatabase => [.drop, .database]
  | .dropTable => [.drop, .table]

/-- The tokens behind the opening words. -/
def afterWords (statement : Statement) : List Token :=
  statement.tokens.drop (words statement.command).length

theorem tokens_eq (statement : Statement) :
    statement.tokens = (words statement.command).map .keyword ++ statement.afterWords := by
  cases statement <;> rfl

/-- SHOW is nothing but its opening words. -/
theorem afterWords_eq_nil {statement : Statement} (h : statement.command.fullForm?.isSome = true) :
    statement.afterWords = [] := by
  cases statement with
  | showDatabases | showTables => rfl
  | _ => cases h

theorem opening_eq (k : Command) : k.opening.toList
    = ([' '].intercalate ((words k).map fun w => w.spelling.toList)).map Char.toLower := by
  cases k <;> rfl

/-- Where each element has a partner, there is a list of partners. -/
theorem exists_forall₂ {α β : Type} {R : α → β → Prop} {l : List α} (h : ∀ a ∈ l, ∃ b, R a b) :
    ∃ l', List.Forall₂ R l l' := by
  induction l with
  | nil => exact ⟨[], .nil⟩
  | cons a rest ih =>
      obtain ⟨b, hb⟩ := h a List.mem_cons_self
      obtain ⟨l', hl'⟩ := ih fun c hc => h c (List.mem_cons_of_mem _ hc)
      exact ⟨b :: l', .cons hb hl'⟩

/-- The text of a command with spaces between its opening words and these texts. -/
def spaced (k : Command) (texts : List (List Char)) : List Char :=
  [' '].intercalate ((words k).map (fun w => w.spelling.toList) ++ texts) ++ [';']

/-- A statement is written by its opening words and spellings of its other tokens. -/
theorem writes_spaced (texts : List (List Char)) {sql : String}
    (hsql : sql.toList = spaced statement.command texts)
    (h : List.Forall₂ Spelling statement.afterWords texts) : statement.Writes sql := by
  have hwords : List.Forall₂ Spelling ((words statement.command).map .keyword)
      ((words statement.command).map fun w => w.spelling.toList) := by
    rw [List.forall₂_map_left_iff, List.forall₂_map_right_iff, List.forall₂_same]
    exact fun w _ => spelling_keyword w
  have hlayout : Layout (statement.tokens ++ [.semicolon]) (spaced statement.command texts) := by
    rw [tokens_eq]
    exact layout_spaced (List.rel_append hwords h)
  have hends : [.semicolon] ∈ (closing statement.command).endings := by
    cases closing statement.command with
    | required => exact List.mem_singleton_self _
    | optional => exact List.mem_cons_of_mem _ (List.mem_singleton_self _)
  have hopening : statement.command.opening.toList
      <+: (spaced statement.command texts).map Char.toLower := by
    rw [opening_eq]
    exact ((prefix_intercalate _ _ _).trans (List.prefix_append _ _)).map _
  have hform : ∀ form ∈ statement.command.fullForm?,
      (spaced statement.command texts).map Char.toLower = form.toList := by
    intro form hform
    -- a full form is asked for by SHOW only, and SHOW has no tokens behind its words
    rw [afterWords_eq_nil (Option.isSome_of_mem hform)] at h
    cases h
    generalize statement.command = k at hform
    cases k <;> cases hform <;> rfl
  refine ⟨[], spaced statement.command texts, [], ?_, rfl, rfl, ⟨_, hends, hlayout⟩, hopening,
    hform⟩
  rw [hsql, List.nil_append, List.append_nil]

/-- **Every statement whose names are quotable can be written.** -/
theorem exists_writes (h : ∀ name ∈ statement.names, IsQuotable name) :
    ∃ sql, statement.Writes sql := by
  obtain ⟨texts, htexts⟩ : ∃ texts, List.Forall₂ Spelling statement.afterWords texts :=
    exists_forall₂ fun t ht => isSpellable_tokens h t (List.mem_of_mem_drop ht)
  exact ⟨_, writes_spaced texts String.toList_ofList htexts⟩

end Statement

end SmallSql
