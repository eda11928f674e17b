/-
  SmallSql.Proofs.Statement.Grammar
  ────────────────────────────────
  The grammar of the dialect, as a relation between statements and runs of lexemes.  A form says
  which runs may stand in a place; a rule lists the forms of a command in their order:

      DELETE FROM name WHERE condition ;
      [Word .delete, Word .from, Name table, Word .where, Compared condition, Is .semicolon]

  Nothing is read here.  A value is any run of tokens without the tokens that end it, a column
  definition any run behind a name in which parentheses stand in pairs, and a comma only inside
  such a pair.
-/
import SmallSql.Statement
import SmallSql.Token.Lexer

namespace SmallSql.Grammar

/-! ## §1. Forms. -/

/-- What a run of lexemes can be asked to be. -/
abbrev Form := List Lexeme → Prop

/-- Runs of these forms, one behind the other. -/
def Sequence : List Form → Form
  | [], ls => ls = []
  | form :: forms, ls => ∃ phrase rest, ls = phrase ++ rest ∧ form phrase ∧ Sequence forms rest

/-- This token, once. -/
def Is (t : Token) : Form := fun ls => ls.map Lexeme.token = [t]

/-- A keyword. -/
def Word (k : Keyword) : Form := Is (.keyword k)

/-- A name. -/
def Name (name : String) : Form := Is (.identifier name)

/-- What may be left out. -/
def Optionally (form : Form) : Form := fun ls => ls = [] ∨ form ls

/-- Runs of one form, at least one of them, with a comma between each two. -/
inductive Listed {α : Type} (form : α → Form) : List α → Form
  | last {a : α} {ls : List Lexeme} (h : form a ls) : Listed form [a] ls
  | more {a : α} {as : List α} {ls rest : List Lexeme} {comma : Lexeme} (h : form a ls)
      (hcomma : comma.token = .comma) (hrest : Listed form as rest) :
      Listed form (a :: as) (ls ++ comma :: rest)

/-- The cell that a value stands for: a string alone for its content, NULL alone for no value, and
every other run for the characters that it covers. -/
inductive Denotes : Cell → Form
  | string {l : Lexeme} {content : String} (h : l.token = .string content) :
      Denotes (.text content) [l]
  | null {l : Lexeme} (h : l.token = .keyword .null) : Denotes .null [l]
  | single {l : Lexeme} (hstring : ∀ content, l.token ≠ .string content)
      (hnull : l.token ≠ .keyword .null) : Denotes (.text (String.ofList l.text)) [l]
  | several {first second : Lexeme} {more : List Lexeme} :
      Denotes (.text (String.ofList (sourceOf (first :: second :: more))))
        (first :: second :: more)

/-- A value that goes up to one of the tokens `ends`. -/
structure Value (ends : List Token) (cell : Cell) (ls : List Lexeme) : Prop where
  denotes : Denotes cell ls
  inside : ∀ l ∈ ls, l.token ∉ ends

/-- An entry of a projection: a star, or a name. -/
def Entry : Option String → Form
  | none => Is .star
  | some name => Name name

/-- The values of a row, in parentheses. -/
def Tuple (cells : List Cell) : Form :=
  Sequence [Is .leftParen, Listed (Value [.comma, .rightParen]) cells, Is .rightParen]

/-- A column and the value that it is set to. -/
def Assigned (a : String × Cell) : Form :=
  Sequence [Name a.1, Is (.comparison .eq), Value [.comma, .keyword .where] a.2]

/-- A column, a comparison and the value compared with. -/
def Compared (condition : Condition) : Form :=
  Sequence [Name condition.column, Is (.comparison condition.comparison),
    Value [.semicolon] condition.value]

/-- Tokens whose parentheses stand in pairs, with a comma only inside such a pair; `inside` says
whether all of them stand in one already. -/
inductive Balanced : Bool → Form
  | nil {inside : Bool} : Balanced inside []
  | token {inside : Bool} {l : Lexeme} {ls : List Lexeme} (hleft : l.token ≠ .leftParen)
      (hright : l.token ≠ .rightParen) (hcomma : l.token = .comma → inside = true)
      (hrest : Balanced inside ls) : Balanced inside (l :: ls)
  | group {inside : Bool} {left right : Lexeme} {body ls : List Lexeme}
      (hleft : left.token = .leftParen) (hbody : Balanced true body)
      (hright : right.token = .rightParen) (hrest : Balanced inside ls) :
      Balanced inside (left :: (body ++ right :: ls))

/-- A column name, and whatever is said of the column. -/
def Definition (column : String) : Form := Sequence [Name column, Balanced false]

/-- The definitions of distinct columns. -/
def Columns (columns : List String) : Form :=
  fun ls => columns.Nodup ∧ Listed Definition columns ls

/-! ## §2. Rules. -/

/-- The forms that a statement of a command is made of.  SELECT has two rules: a star anywhere in its
list stands for all columns. -/
inductive Rule : Command → Statement → List Form → Prop
  | selectAll {table : String} {entries : List (Option String)} (h : none ∈ entries) :
      Rule .select (.select table .all)
        [Word .select, Listed Entry entries, Word .from, Name table, Optionally (Is .semicolon)]
  | selectColumns {table : String} {names : List String} :
      Rule .select (.select table (.columns names))
        [Word .select, Listed Entry (names.map some), Word .from, Name table,
          Optionally (Is .semicolon)]
  | insert {table : String} {columns : List String} {rows : List (List Cell)} :
      Rule .insert (.insert table columns rows)
        [Word .insert, Word .into, Name table, Is .leftParen, Listed Name columns, Is .rightParen,
          Word .values, Listed Tuple rows, Is .semicolon]
  | update {table : String} {assignments : List (String × Cell)} {condition : Condition}
      (h : condition.comparison = .eq) :
      Rule .update (.update table assignments condition)
        [Word .update, Name table, Word .set, Listed Assigned assignments, Word .where,
          Compared condition, Is .semicolon]
  | delete {table : String} {condition : Condition} :
      Rule .delete (.delete table condition)
        [Word .delete, Word .from, Name table, Word .where, Compared condition, Is .semicolon]
  | createTable {name : String} {columns : List String} :
      Rule .createTable (.createTable name columns)
        [Word .create, Word .table, Name name, Is .leftParen, Columns columns, Is .rightParen,
          Optionally (Is .semicolon)]
  | createDatabase {name : String} :
      Rule .createDatabase (.createDatabase name)
        [Word .create, Word .database, Name name, Optionally (Is .semicolon)]
  | use {name : String} :
      Rule .use (.use name) [Word .use, Name name, Optionally (Is .semicolon)]
  | showDatabases :
      Rule .showDatabases .showDatabases [Word .show, Word .databases, Is .semicolon]
  | showTables : Rule .showTables .showTables [Word .show, Word .tables, Is .semicolon]
  | dropDatabase {name : String} :
      Rule .dropDatabase (.dropDatabase name)
        [Word .drop, Word .database, Name name, Optionally (Is .semicolon)]
  | dropTable {name : String} :
      Rule .dropTable (.dropTable name)
        [Word .drop, Word .table, Name name, Optionally (Is .semicolon)]

/-- The lexemes are a statement of this command. -/
def Derives (k : Command) (statement : Statement) : Form :=
  fun ls => ∃ forms, Rule k statement forms ∧ Sequence forms ls

/-! ## §3. What a run holds. -/

theorem is_iff {t : Token} {ls : List Lexeme} : Is t ls ↔ ∃ l, ls = [l] ∧ l.token = t := by
  unfold Is
  rw [List.map_eq_singleton_iff]

/-- A run of forms that begins with a token has that token in front. -/
theorem Sequence.exists_cons {t : Token} {forms : List Form} {ls : List Lexeme}
    (h : Sequence (Is t :: forms) ls) : ∃ l rest, ls = l :: rest ∧ l.token = t := by
  obtain ⟨phrase, rest, rfl, hphrase, -⟩ := h
  obtain ⟨l, rfl, hl⟩ := is_iff.1 hphrase
  exact ⟨l, rest, rfl, hl⟩

/-- Each form of a sequence has a run of its own in it. -/
theorem Sequence.exists_phrase {forms : List Form} {ls : List Lexeme} (h : Sequence forms ls)
    (form : Form) (hform : form ∈ forms) : ∃ phrase, phrase ⊆ ls ∧ form phrase := by
  induction forms generalizing ls with
  | nil => cases hform
  | cons first more ih =>
      obtain ⟨phrase, rest, rfl, hphrase, hrest⟩ := h
      rcases List.mem_cons.1 hform with rfl | hmore
      · exact ⟨phrase, List.subset_append_left _ _, hphrase⟩
      · obtain ⟨phrase', hsubset, hphrase'⟩ := ih hrest hmore
        exact ⟨phrase', List.subset_append_of_subset_right _ hsubset, hphrase'⟩

section Listed

variable {α : Type} {form : α → Form} {as : List α} {ls : List Lexeme}

theorem Listed.ne_nil (h : Listed form as ls) : as ≠ [] := by
  cases h <;> exact List.cons_ne_nil _ _

/-- Each item of a list has a run of its own in it. -/
theorem Listed.exists_phrase {a : α} (ha : a ∈ as) (h : Listed form as ls) :
    ∃ phrase, phrase ⊆ ls ∧ form a phrase := by
  induction h with
  | last hphrase =>
      obtain rfl := List.mem_singleton.1 ha
      exact ⟨_, fun _ hl => hl, hphrase⟩
  | more hphrase _ _ ih =>
      rcases List.mem_cons.1 ha with rfl | ha
      · exact ⟨_, List.subset_append_left _ _, hphrase⟩
      · obtain ⟨phrase, hsubset, hphrase'⟩ := ih ha
        refine ⟨phrase, List.subset_append_of_subset_right _ ?_, hphrase'⟩
        exact List.subset_cons_of_subset _ hsubset

end Listed

/-- A rule of a command makes statements of that command. -/
theorem Rule.command_eq {k : Command} {statement : Statement} {forms : List Form}
    (h : Rule k statement forms) : statement.command = k := by
  cases h <;> rfl

end SmallSql.Grammar
