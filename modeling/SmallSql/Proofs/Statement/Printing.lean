/-
  SmallSql.Proofs.Statement.Printing
  ────────────────────────────────
  Printing and reading are inverse to each other.  A print of a statement is a text that writes it,
  with white space in front and any gap behind:

      statement  ──  print, in any layout  ──▶  text  ──  classify, read  ──▶  statement

  The statements that can be printed are those that can be read: a text that is read has quotable
  names in it, since a word holds neither backtick nor bracket and a quoted name ends at the first
  closing quote; everything else follows from the rule that the statement derives by.
-/
import SmallSql.Proofs.Statement.Derivation
import SmallSql.Proofs.Statement.Writing

namespace SmallSql

/-! ## §1. Names in texts. -/

/-- No word holds a backtick. -/
theorem isWordChar_ne_backtick {c : Char} (h : isWordChar c = true) : c ≠ '\x60' := by
  rintro rfl
  exact absurd h (by decide)

/-- A token that is read off a text and names something has a name that can be quoted. -/
theorem isQuotable_of_readToken {c : Char} {rest : List Char} {cut : Cut}
    (h : readToken c rest = .ok cut) {name : String} (hname : cut.token = .identifier name) :
    Statement.IsQuotable name := by
  unfold readToken at h
  split at h
  · cases h
    cases hname
  split at h
  · split at h
    · cases h
      cases hname
    · cases h
  split at h
  · -- a quoted name goes up to the first closing quote, which is therefore no part of it
    next hopen =>
    dsimp only at h
    split at h
    · cases h
      cases hname
      have hinside : closingQuote c ∉ (rest.takeWhile fun d => d != closingQuote c) := by
        intro hm
        have hne : (closingQuote c != closingQuote c) = true :=
          List.mem_takeWhile_imp (p := fun d => d != closingQuote c) hm
        rw [bne_self_eq_false] at hne
        cases hne
      rw [Bool.or_eq_true, decide_eq_true_eq, decide_eq_true_eq] at hopen
      unfold Statement.IsQuotable
      rw [String.toList_ofList]
      rcases hopen with rfl | rfl
      · exact .inl hinside
      · exact .inr hinside
    · cases h
  split at h
  · next hstart =>
    cases h
    have hword : ∀ d ∈ c :: rest.takeWhile isWordChar, d ≠ '\x60' := by
      intro d hd
      apply isWordChar_ne_backtick
      rcases List.mem_cons.1 hd with rfl | hd
      · exact isWordChar_of_isWordStart hstart
      · exact List.mem_takeWhile_imp hd
    unfold wordToken at hname
    split at hname
    · cases hname
    · cases hname
      left
      rw [String.toList_ofList]
      exact fun hm => hword _ hm rfl
  split at h
  · cases h
    unfold operatorToken at hname
    split at hname <;> cases hname
  · cases h
    unfold punctuation at hname
    repeat' split at hname
    all_goals cases hname

/-- The names in the lexemes of a text can be quoted. -/
theorem isQuotable_of_lexemes {cs tail : List Char} {ls : List Lexeme}
    (h : lexemes cs = .ok (ls, tail)) {name : String}
    (hname : .identifier name ∈ ls.map Lexeme.token) : Statement.IsQuotable name := by
  fun_induction lexemes cs generalizing ls tail with
  | case1 => cases h
  | case2 =>
      cases h
      cases hname
  | case3 => cases h
  | case4 cs l rest hnext ls' tail' hrest ih =>
      cases h
      rcases List.mem_cons.1 hname with hl | hmore
      · unfold nextLexeme at hnext
        split at hnext
        · cases hnext
        · split at hnext
          · next cut hcut =>
            cases hnext
            exact isQuotable_of_readToken hcut hl.symm
          · cases hnext
      · exact ih hrest hmore

namespace Statement

open SmallSql.Grammar

/-! ## §2. What is read can be printed. -/

/-- A statement that can be printed: one that can be written, with names that can be quoted. -/
structure IsPrintable (statement : Statement) : Prop where
  writable : statement.IsWritable
  names : ∀ name ∈ statement.names, IsQuotable name

variable {statement : Statement} {k : Command} {forms : List Form} {ls : List Lexeme}

/-- A statement derived by a rule can be written. -/
theorem isWritable_of_rule (h : Rule k statement forms) (hls : Sequence forms ls) :
    statement.IsWritable := by
  cases h with
  | selectAll => trivial
  | @selectColumns table columns =>
      obtain ⟨phrase, -, hlist⟩ :=
        hls.exists_phrase (Listed Entry (columns.map some)) (by simp)
      exact fun hnil => hlist.ne_nil (List.map_eq_nil_iff.2 hnil)
  | @insert table columns rows =>
      obtain ⟨phrase, -, hcolumns⟩ := hls.exists_phrase (Listed Name columns) (by simp)
      obtain ⟨phrase', -, hrows⟩ := hls.exists_phrase (Listed Tuple rows) (by simp)
      refine ⟨hcolumns.ne_nil, hrows.ne_nil, fun row hrow => ?_⟩
      obtain ⟨tuple, -, htuple⟩ := hrows.exists_phrase hrow
      obtain ⟨cells, -, hcells⟩ :=
        htuple.exists_phrase (Listed (Value [.comma, .rightParen]) row) (by simp)
      exact hcells.ne_nil
  | @update table assignments condition heq =>
      obtain ⟨phrase, -, hset⟩ := hls.exists_phrase (Listed Assigned assignments) (by simp)
      exact ⟨hset.ne_nil, heq⟩
  | @createTable name columns =>
      obtain ⟨phrase, -, hnodup, hcolumns⟩ := hls.exists_phrase (Columns columns) (by simp)
      exact ⟨hcolumns.ne_nil, hnodup⟩
  | delete | createDatabase | use | showDatabases | showTables | dropDatabase | dropTable =>
      trivial

/-- A name stands among the tokens of a run. -/
def Mentions (ls : List Lexeme) (name : String) : Prop :=
  .identifier name ∈ ls.map Lexeme.token

theorem mentions_of_name {name : String} (h : Name name ls) : Mentions ls name := by
  unfold Mentions
  rw [show ls.map Lexeme.token = [.identifier name] from h]
  exact List.mem_singleton_self _

/-- A name that one of the forms holds stands in the sequence. -/
theorem mentions_of_sequence (hls : Sequence forms ls) (form : Form) {name : String}
    (hform : form ∈ forms) (h : ∀ phrase, form phrase → Mentions phrase name) :
    Mentions ls name := by
  obtain ⟨phrase, hsubset, hphrase⟩ := hls.exists_phrase form hform
  exact List.map_subset _ hsubset (h phrase hphrase)

/-- A name that one of the items holds stands in the list. -/
theorem mentions_of_listed {α : Type} {form : α → Form} {as : List α} (hls : Listed form as ls)
    {a : α} (ha : a ∈ as) {name : String} (h : ∀ phrase, form a phrase → Mentions phrase name) :
    Mentions ls name := by
  obtain ⟨phrase, hsubset, hphrase⟩ := hls.exists_phrase ha
  exact List.map_subset _ hsubset (h phrase hphrase)

/-- The names of a statement derived by a rule stand among its lexemes. -/
theorem mentions_of_rule (h : Rule k statement forms) (hls : Sequence forms ls) :
    ∀ name ∈ statement.names, Mentions ls name := by
  have hhead : ∀ {name}, Name name ∈ forms → Mentions ls name := fun hname =>
    mentions_of_sequence hls _ hname fun _ => mentions_of_name
  have hcondition : ∀ {condition : Condition}, Compared condition ∈ forms →
      Mentions ls condition.column := fun hcompared =>
    mentions_of_sequence hls _ hcompared fun _ hphrase =>
      mentions_of_sequence hphrase _ List.mem_cons_self fun _ => mentions_of_name
  cases h with
  | selectAll => exact List.forall_mem_singleton.2 (hhead (by simp))
  | @selectColumns table columns =>
      refine List.forall_mem_cons.2 ⟨hhead (by simp), fun name hname => ?_⟩
      refine mentions_of_sequence hls (Listed Entry (columns.map some)) (by simp) fun _ hlist => ?_
      exact mentions_of_listed hlist (List.mem_map_of_mem hname) fun _ => mentions_of_name
  | @insert table columns rows =>
      refine List.forall_mem_cons.2 ⟨hhead (by simp), fun name hname => ?_⟩
      refine mentions_of_sequence hls (Listed Name columns) (by simp) fun _ hlist => ?_
      exact mentions_of_listed hlist hname fun _ => mentions_of_name
  | @update table assignments condition heq =>
      refine List.forall_mem_cons.2 ⟨hhead (by simp), List.forall_mem_append.2 ⟨?_, ?_⟩⟩
      · intro name hname
        obtain ⟨a, ha, rfl⟩ := List.mem_map.1 hname
        refine mentions_of_sequence hls (Listed Assigned assignments) (by simp) fun _ hlist => ?_
        exact mentions_of_listed hlist ha fun _ hphrase =>
          mentions_of_sequence hphrase _ List.mem_cons_self fun _ => mentions_of_name
      · exact List.forall_mem_singleton.2 (hcondition (by simp))
  | delete =>
      exact List.forall_mem_cons.2
        ⟨hhead (by simp), List.forall_mem_singleton.2 (hcondition (by simp))⟩
  | @createTable name columns =>
      refine List.forall_mem_cons.2 ⟨hhead (by simp), fun column hcolumn => ?_⟩
      refine mentions_of_sequence hls (Columns columns) (by simp) fun _ hlist => ?_
      exact mentions_of_listed hlist.2 hcolumn fun _ hphrase =>
        mentions_of_sequence hphrase _ List.mem_cons_self fun _ => mentions_of_name
  | createDatabase | use | dropDatabase | dropTable =>
      exact List.forall_mem_singleton.2 (hhead (by simp))
  | showDatabases | showTables => exact nofun

/-- **What is read can be printed**, and is a statement of the command that it was read for. -/
theorem isPrintable_of_ofText {cs : List Char} (h : ofText k cs = .ok statement) :
    statement.command = k ∧ statement.IsPrintable := by
  obtain ⟨ls, tail, hlexemes, forms, hrule, hls⟩ := read_eq_ok.1 (ofText_eq_ok_iff_read.1 h)
  refine ⟨hrule.command_eq, isWritable_of_rule hrule hls, fun name hname => ?_⟩
  exact isQuotable_of_lexemes hlexemes (mentions_of_rule hrule hls name hname)

/-! ## §3. Printing and reading. -/

/-- A print of a statement: a text that writes it, white space in front of it and any gap behind it.
Behind SHOW, which has one form only, the gap is white space. -/
def Prints (statement : Statement) (sql : String) : Prop :=
  ∃ before body after, sql.toList = before ++ (body ++ after)
    ∧ Text.allBlank before = true ∧ Trivia after
    ∧ (statement.command.fullForm?.isSome = true → Text.allBlank after = true)
    ∧ statement.IsText body

theorem Writes.prints {sql : String} (h : statement.Writes sql) : statement.Prints sql := by
  obtain ⟨before, body, after, hsql, hbefore, hafter, hbody⟩ := h
  exact ⟨before, body, after, hsql, hbefore, .of_allBlank hafter, fun _ => hafter, hbody⟩

/-- A print announces the command of its statement. -/
theorem Prints.command_ofText {sql : String} (h : statement.Prints sql) :
    Command.ofText sql.toList = .ok statement.command := by
  obtain ⟨before, body, after, hsql, hbefore, -, hshow, hbody⟩ := h
  obtain ⟨ending, -, hlayout⟩ := hbody.layout
  obtain ⟨hne, hfirst, hlast⟩ := hlayout.ends_not_blank
  have htrim := trim_append_of_ends hbefore hne hfirst hlast after
  rw [← hsql] at htrim
  refine Command.ofText_eq_ok htrim ?_ ?_
  · -- a gap behind the text leaves its opening words where they are
    rw [List.map_append]
    exact hbody.opening.trans (List.prefix_append _ _)
  · intro form hform
    rw [trimEnd_of_allBlank (hshow (Option.isSome_of_mem hform)), List.append_nil]
    exact hbody.form form hform

/-- A print is read as its statement. -/
theorem Prints.ofText_eq {sql : String} (h : statement.Prints sql) (hw : statement.IsWritable) :
    ofText statement.command sql.toList = .ok statement := by
  obtain ⟨before, body, after, hsql, hbefore, hafter, -, hbody⟩ := h
  obtain ⟨ending, hending, hlayout⟩ := hbody.layout
  rw [hsql]
  exact ofText_of_layout hw hending hlayout (.of_allBlank hbefore) hafter

/-- **Reading undoes printing.**  A printable statement has a print, and each of its prints, however
it is laid out, announces its command and is read as the statement; and every statement that is
read off a text is printable. -/
theorem prints_then_reads (statement : Statement) :
    (statement.IsPrintable → (∃ sql, statement.Prints sql)
      ∧ ∀ sql, statement.Prints sql → Command.ofText sql.toList = .ok statement.command
        ∧ ofText statement.command sql.toList = .ok statement)
    ∧ ∀ k cs, ofText k cs = .ok statement → statement.command = k ∧ statement.IsPrintable := by
  refine ⟨fun h => ⟨?_, fun sql hsql => ?_⟩, fun k cs => isPrintable_of_ofText⟩
  · obtain ⟨sql, hsql⟩ := exists_writes h.names
    exact ⟨sql, hsql.prints⟩
  · exact ⟨hsql.command_ofText, hsql.ofText_eq h.writable⟩

/-- A DELETE whose table name holds a backtick, printed with comments in its gaps and letters of both
cases, is read back. -/
theorem prints_then_reads_delete :
    let statement := delete "a`b" ⟨"id", .ge, .text "it's \\"⟩
    let sql := " dElEtE FrOm[a`b]/* all */WHERE`id`>='it''s \\\\'-- done\n;/**/"
    statement.IsPrintable ∧ statement.Prints sql
      ∧ Command.ofText sql.toList = .ok .delete ∧ ofText .delete sql.toList = .ok statement := by
  intro statement sql
  have hprintable : statement.IsPrintable :=
    ⟨trivial, by simp [statement, names, namedColumns, IsQuotable]⟩
  have hblock : Trivia "/* all */".toList := by
    have hgap : "/* all */".toList = '/' :: '*' :: (" all ".toList ++ ['*', '/']) := by
      decide +kernel
    rw [hgap]
    exact .block (by decide +kernel) .none
  have hline : Trivia "-- done\n".toList := by
    have hgap : "-- done\n".toList = '-' :: '-' :: (" done".toList ++ ['\n']) := by
      decide +kernel
    rw [hgap]
    exact .line (by decide +kernel) .none
  have hempty : Trivia ['/', '*', '*', '/'] := @Trivia.block [] [] (by decide) .none
  have hlayout : Layout (statement.tokens ++ [.semicolon])
      ("dElEtE".toList ++ ([' '] ++ ("FrOm".toList ++ ([] ++ ("[a`b]".toList
        ++ ("/* all */".toList ++ ("WHERE".toList ++ ([] ++ ("`id`".toList
          ++ ([] ++ (">=".toList ++ ([] ++ ("'it''s \\\\'".toList
            ++ ("-- done\n".toList ++ [';'])))))))))))))) := by
    refine .more (.keyword (by decide +kernel)) (.of_allBlank (by decide +kernel))
      (fun _ => List.cons_ne_nil _ _) ?_
    refine .more (.keyword (by decide +kernel)) .none (fun hc => by cases hc) ?_
    refine .more (.name (.inr rfl) (by decide +kernel)) hblock (fun hc => by cases hc) ?_
    refine .more (.keyword (by decide +kernel)) .none (fun hc => by cases hc) ?_
    refine .more (.name (.inl rfl) (by decide +kernel)) .none (fun hc => by cases hc) ?_
    refine .more (.comparison .ge) .none (fun hc => by cases hc) ?_
    refine .more (.string _ (.inl rfl)) hline (fun hc => by cases hc) ?_
    exact .last (spelling_mark (by decide) rfl)
  have hprints : statement.Prints sql :=
    ⟨[' '], _, ['/', '*', '*', '/'], by decide +kernel, by decide +kernel, hempty, nofun,
      ⟨_, List.mem_singleton_self _, hlayout⟩, by decide +kernel, nofun⟩
  obtain ⟨-, hreads⟩ := (prints_then_reads statement).1 hprintable
  exact ⟨hprintable, hprints, hreads sql hprints⟩

end Statement

end SmallSql
