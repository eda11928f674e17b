/-
  SmallSql.Statement.Reading
  ────────────────────────────────
  From lexemes to statements.  Each command has a reader of its own; all are built from names,
  keywords, comma lists and values.

  A value is a run of tokens up to a token that ends it.  A string alone stands for its content and
  NULL alone for no value; any other run stands for the characters it covers, so `555-1234`, `1.50`
  and `02134` are kept as written.
-/
import SmallSql.Parsing
import SmallSql.Statement
import SmallSql.Token.Lexer

namespace SmallSql

/-- Why lexemes make no statement. -/
inductive ReadFault where
  /-- The form is wrong. -/
  | malformed (fault : SyntaxFault)
  /-- The condition is written with an operator that the command does not have. -/
  | operator (written : String)
deriving DecidableEq, Repr

/-- A reader of lexemes. -/
abbrev LexemeParser := Parser Lexeme ReadFault

namespace Statement

open SmallSql.Parser (token optional takeUntil finished separated separatedFrom)

/-! ## §1. Tokens. -/

/-- The token at the front of the input. -/
def firstToken (input : List Lexeme) : Option Token := input.head?.map (·.token)

/-- Something other than what is called for stands at the front of the input. -/
def expected (what : String) (input : List Lexeme) : ReadFault :=
  .malformed (.expected what (firstToken input))

/-- Whether a lexeme is this token. -/
def isToken (t : Token) (l : Lexeme) : Bool := l.token = t

/-- Takes this token. -/
def exactly (t : Token) : LexemeParser Unit :=
  token (fun l => if l.token = t then some () else none) (expected t.display)

/-- Takes this keyword. -/
def word (k : Keyword) : LexemeParser Unit := exactly (.keyword k)

/-- The name that a lexeme writes. -/
def nameOf? (l : Lexeme) : Option String :=
  match l.token with
  | .identifier name => some name
  | _ => none

/-- Takes a name; `what` says what it names. -/
def identifier (what : String) : LexemeParser String := token nameOf? (expected what)

/-- Whether a statement has to be closed by a semicolon. -/
inductive Closing where
  | required
  | optional
deriving DecidableEq, Repr

/-- The end of a statement: a semicolon, if it is there or has to be, and nothing more. -/
def close (closing : Closing) : LexemeParser Unit := do
  match closing with
  | .required => token (fun l => if l.token = .semicolon then some () else none) (expected "';'")
  | .optional => let _ ← optional (isToken .semicolon)
  finished fun
    | l :: _ => .malformed (.trailing l.token)
    | [] => .malformed (.expected "end of statement" none)

/-- A list whose items stand between commas. -/
def commaList {α : Type} (item : LexemeParser α) : LexemeParser (List α) :=
  separated (isToken .comma) item

/-- A list of column names. -/
def columnNames : LexemeParser (List String) := commaList (identifier "column name")

/-! ## §2. Values and conditions. -/

/-- The cell that a run of lexemes writes. -/
def cellOf (run : List Lexeme) : Cell :=
  match run.map Lexeme.token with
  | [.string content] => .text content
  | [.keyword .null] => .null
  | _ => .text (String.ofList (sourceOf run))

/-- A non-empty run of tokens up to one that ends it, as a cell. -/
def value (ends : Token → Bool) : LexemeParser Cell := do
  let run ← takeUntil (fun l => ends l.token)
  if run.isEmpty then Parser.fail (expected "value") else pure (cellOf run)

/-- A value in a tuple ends at a comma or a closing parenthesis. -/
def endsTupleValue (t : Token) : Bool := t = .comma || t = .rightParen

/-- An assigned value ends at a comma or at WHERE. -/
def endsAssignedValue (t : Token) : Bool := t = .comma || t = .keyword .where

/-- A compared value ends at a semicolon. -/
def endsComparedValue (t : Token) : Bool := t = .semicolon

/-- The operator that a lexeme writes: a comparison, or one that there is not. -/
def comparisonOf? (l : Lexeme) : Option (Except String Comparison) :=
  match l.token with
  | .comparison c => some (.ok c)
  | .operator written => some (.error written)
  | _ => none

/-- A comparison operator. -/
def comparison : LexemeParser Comparison := do
  match ← token comparisonOf? (expected "comparison operator") with
  | .ok c => pure c
  | .error written => Parser.fail fun _ => .operator written

/-- A column, an operator and a value. -/
def condition : LexemeParser Condition := do
  let column ← identifier "column name"
  let comparison ← comparison
  let value ← value endsComparedValue
  return { column, comparison, value }

/-! ## §3. The eleven statements. -/

/-- An entry of a projection: a column name, or a star. -/
def projectionEntry? (l : Lexeme) : Option (Option String) :=
  match l.token with
  | .star => some none
  | .identifier name => some (some name)
  | _ => none

/-- What a list of entries shows: a star among them shows every column. -/
def projectionOf (entries : List (Option String)) : Projection :=
  if entries.contains none then .all else .columns (entries.filterMap id)

def readSelect : LexemeParser Statement := do
  word .select
  let entries ← commaList (token projectionEntry? (expected "column name or '*'"))
  word .from
  let table ← identifier "table name"
  close .optional
  return .select table (projectionOf entries)

/-- The values of one row, in parentheses. -/
def tuple : LexemeParser (List Cell) := do
  exactly .leftParen
  let cells ← commaList (value endsTupleValue)
  exactly .rightParen
  return cells

def readInsert : LexemeParser Statement := do
  word .insert
  word .into
  let table ← identifier "table name"
  exactly .leftParen
  let columns ← columnNames
  exactly .rightParen
  word .values
  let rows ← commaList tuple
  close .required
  return .insert table columns rows

/-- A column, an equals sign and a value. -/
def assignment : LexemeParser (String × Cell) := do
  let column ← identifier "column name"
  exactly (.comparison .eq)
  let cell ← value endsAssignedValue
  return (column, cell)

def readUpdate : LexemeParser Statement := do
  word .update
  let table ← identifier "table name"
  word .set
  let assignments ← commaList assignment
  word .where
  let condition ← condition
  if condition.comparison ≠ .eq then
    Parser.fail fun _ => .operator condition.comparison.symbol
  close .required
  return .update table assignments condition

def readDelete : LexemeParser Statement := do
  word .delete
  word .from
  let table ← identifier "table name"
  word .where
  let condition ← condition
  close .required
  return .delete table condition

/-- What follows the name in a column definition, up to the comma or the parenthesis that ends it:
any tokens, parentheses among them in pairs.  `depth` counts the open ones. -/
def splitDefinition : Nat → List Lexeme → List Lexeme
  | _, [] => []
  | depth, l :: rest =>
    match l.token with
    | .leftParen => splitDefinition (depth + 1) rest
    | .rightParen => match depth with
      | 0 => l :: rest
      | depth + 1 => splitDefinition depth rest
    | .comma => if depth = 0 then l :: rest else splitDefinition depth rest
    | _ => splitDefinition depth rest

theorem splitDefinition_length (depth : Nat) (input : List Lexeme) :
    (splitDefinition depth input).length ≤ input.length := by
  fun_induction splitDefinition depth input <;> simp_all <;> omega

/-- Passes over the type and the constraints of a column. -/
def skipDefinition : LexemeParser Unit where
  run input := match splitDefinition 0 input with
    | [] => .error (expected "')'" [])
    | l :: rest => .ok ((), l :: rest)
  shrinks {input a rest} h := by
    have := splitDefinition_length 0 input
    split at h
    · cases h
    · next hs => cases h; rwa [hs] at this

/-- One more column definition; the name must be new. -/
def columnDefinition (columns : List String) : LexemeParser (List String) := do
  let column ← identifier "column name"
  if columns.contains column then
    Parser.fail fun _ => .malformed (.duplicateColumn column)
  skipDefinition
  return columns ++ [column]

def readCreateTable : LexemeParser Statement := do
  word .create
  word .table
  let name ← identifier "table name"
  exactly .leftParen
  let columns ← separatedFrom (isToken .comma) columnDefinition []
  exactly .rightParen
  close .optional
  return .createTable name columns

def readCreateDatabase : LexemeParser Statement := do
  word .create
  word .database
  let name ← identifier "database name"
  close .optional
  return .createDatabase name

def readUse : LexemeParser Statement := do
  word .use
  let name ← identifier "database name"
  close .optional
  return .use name

def readShowDatabases : LexemeParser Statement := do
  word .show
  word .databases
  close .required
  return .showDatabases

def readShowTables : LexemeParser Statement := do
  word .show
  word .tables
  close .required
  return .showTables

def readDropDatabase : LexemeParser Statement := do
  word .drop
  word .database
  let name ← identifier "database name"
  close .optional
  return .dropDatabase name

def readDropTable : LexemeParser Statement := do
  word .drop
  word .table
  let name ← identifier "table name"
  close .optional
  return .dropTable name

/-- The reader of a command. -/
def reader : Command → LexemeParser Statement
  | .select => readSelect
  | .insert => readInsert
  | .update => readUpdate
  | .delete => readDelete
  | .createDatabase => readCreateDatabase
  | .use => readUse
  | .createTable => readCreateTable
  | .showDatabases => readShowDatabases
  | .showTables => readShowTables
  | .dropDatabase => readDropDatabase
  | .dropTable => readDropTable

/-! ## §4. Statements from text. -/

/-- The statement of this command that a text writes, or why it writes none. -/
def read (k : Command) (cs : List Char) : Except ReadFault Statement :=
  match lexemes cs with
  | .error fault => .error (.malformed fault)
  | .ok (ls, _) => match (reader k).run ls with
    | .error fault => .error fault
    | .ok (statement, _) => .ok statement

/-- The error that a fault in a statement of this command is reported as. -/
def faultError (k : Command) : ReadFault → SqlError
  | .malformed fault =>
    .syntaxError ("invalid " ++ k.keyword ++ " statement: " ++ fault.message)
  | .operator written => .unsupportedOperator written

/-- The statement of this command that a text writes. -/
def ofText (k : Command) (cs : List Char) : Except SqlError Statement :=
  (read k cs).mapError (faultError k)

end Statement

end SmallSql
