/-
  SmallSql.Proofs.Checked.Reading
  ────────────────────────────────
  The eleven statements, read by position.  A value is found by two positions, that of its first
  token and that of its last, and is cut out of the text by their spans:

      first ──▶ … ──▶ stop        last = stop - 1
      text between  spans[first].start  and  spans[last].stop

  A column definition is passed over with a count of open parentheses that goes up and down.
-/
import SmallSql.Proofs.Checked.Cursor

namespace SmallSql.Checked

open Cursor (refusal fail take takeIf finished commaList)

/-! ## §1. Values. -/

/-- The first position from here on at which a token stops, or the end. -/
def stopFrom (s : Scan) (stops : Token → Bool) (p : Nat) : Nat :=
  match _h : s.current p with
  | none => p
  | some t => if stops t then p else stopFrom s stops (p + 1)
termination_by s.tokens.length - p
decreasing_by
  have := Scan.lt_of_current _h
  omega

theorem le_stopFrom (s : Scan) (stops : Token → Bool) (p : Nat) : p ≤ stopFrom s stops p := by
  fun_induction stopFrom s stops p with
  | case1 => exact Nat.le_refl _
  | case2 => exact Nat.le_refl _
  | case3 p t ht hgoes ih => omega

/-- The position of the last token in front of `stop`, if it is not in front of `first`. -/
def lastFrom? (first stop : Nat) : Option Nat :=
  let last? := if stop = 0 then none else some (stop - 1)
  last?.filter fun last => first ≤ last

/-- The cell that a token stands for if it is the whole value. -/
def cellOfToken? : Token → Option Cell
  | .string content => some (.text content)
  | .keyword .null => some .null
  | _ => none

/-- The cell of the token at `first`, if that is the last one and stands for a cell. -/
def loneCell? (s : Scan) (first last : Nat) : Checked ReadFault (Option Cell) := do
  if first = last then return cellOfToken? (← elementAt s.tokens first) else return none

/-- The text from the token at `first` to the token at `last`. -/
def sourceBetween (s : Scan) (first last : Nat) : Checked ReadFault (List Char) := do
  let start ← elementAt s.spans first
  let stop ← elementAt s.spans last
  slice s.source start.start stop.stop

/-- The cell that the tokens from `first` to `last` write. -/
def cellBetween (s : Scan) (first last : Nat) : Checked ReadFault Cell := do
  match ← loneCell? s first last with
  | some cell => return cell
  | none => return .text (String.ofList (← sourceBetween s first last))

/-- A value up to a token that stops. -/
def value (stops : Token → Bool) : Cursor Cell where
  run s first :=
    let stop := stopFrom s stops first
    -- `stop` may stand at `first` itself, and then no token belongs to the value
    match lastFrom? first stop with
    | none => .error (refusal "value" s stop)
    | some last => match cellBetween s first last with
      | .error halt => .error halt
      | .ok cell => .ok (cell, stop)
  advances {s first q a} h := by
    dsimp only at h
    split at h
    · cases h
    · split at h
      · cases h
      · cases h
        exact le_stopFrom s stops first

/-! ## §2. Column definitions. -/

/-- The count of open parentheses behind a token. -/
def depthBehind {ε : Type} (depth : Nat) : Token → Checked ε Nat
  | .leftParen => .ok (depth + 1)
  | .rightParen => difference depth 1
  | _ => .ok depth

/-- Passes over tokens up to a comma or a closing parenthesis outside all parentheses. -/
def skipFrom (s : Scan) (depth p : Nat) : Checked ReadFault (Unit × Nat) :=
  match _h : s.current p with
  | none => .error (refusal "')'" s p)
  | some t =>
    -- a parenthesis that closes none of the open ones ends the definition and is never counted
    if (t = .comma ∨ t = .rightParen) ∧ depth = 0 then .ok ((), p)
    else match depthBehind depth t with
      | .error halt => .error halt
      | .ok depth => skipFrom s depth (p + 1)
termination_by s.tokens.length - p
decreasing_by
  have := Scan.lt_of_current _h
  omega

theorem skipFrom_advances {s : Scan} {depth p q : Nat} {u : Unit}
    (h : skipFrom s depth p = .ok (u, q)) : p ≤ q := by
  fun_induction skipFrom s depth p with
  | case1 => cases h
  | case2 => cases h; exact Nat.le_refl _
  | case3 => cases h
  | case4 depth p t ht hgoes depth' hd ih =>
      have := ih h
      omega

/-- Passes over the type and the constraints of a column. -/
def skipDefinition : Cursor Unit where
  run s p := skipFrom s 0 p
  advances := skipFrom_advances

/-! ## §3. The eleven statements. -/

/-- Takes this token. -/
def exactly (t : Token) : Cursor Unit :=
  take (fun u => if u = t then some () else none) t.display

/-- Takes this keyword. -/
def word (k : Keyword) : Cursor Unit := exactly (.keyword k)

/-- Takes a name; `what` says what it names. -/
def identifier (what : String) : Cursor String :=
  take (fun | .identifier name => some name | _ => none) what

/-- The end of a statement: a semicolon, if it is there or has to be, and nothing more. -/
def close : Statement.Closing → Cursor Unit
  | .required => do
    take (fun u => if u = .semicolon then some () else none) "';'"
    finished
  | .optional => do
    let _ ← takeIf .semicolon
    finished

/-- A comparison operator. -/
def comparison : Cursor Comparison := do
  let read ← take (fun
    | .comparison c => some (.ok c)
    | .operator written => some (.error written)
    | _ => none) "comparison operator"
  match (read : Except String Comparison) with
  | .ok c => pure c
  | .error written => fail (.operator written)

/-- A column, an operator and a value. -/
def condition : Cursor Condition := do
  let column ← identifier "column name"
  let comparison ← comparison
  let value ← value Statement.endsComparedValue
  return { column, comparison, value }

/-- The entry of a projection that a token is: none for a star, or the name of a column. -/
def entryOfToken? : Token → Option (Option String)
  | .star => some none
  | .identifier name => some (some name)
  | _ => none

def readSelect : Cursor Statement := do
  word .select
  let entries ← commaList (take entryOfToken? "column name or '*'")
  word .from
  let table ← identifier "table name"
  close .optional
  return .select table (Statement.projectionOf entries)

/-- The values of one row, in parentheses. -/
def tuple : Cursor (List Cell) := do
  exactly .leftParen
  let cells ← commaList (value Statement.endsTupleValue)
  exactly .rightParen
  return cells

def readInsert : Cursor Statement := do
  word .insert
  word .into
  let table ← identifier "table name"
  exactly .leftParen
  let columns ← commaList (identifier "column name")
  exactly .rightParen
  word .values
  let rows ← commaList tuple
  close .required
  return .insert table columns rows

/-- A column, an equals sign and a value. -/
def assignment : Cursor (String × Cell) := do
  let column ← identifier "column name"
  exactly (.comparison .eq)
  let cell ← value Statement.endsAssignedValue
  return (column, cell)

def readUpdate : Cursor Statement := do
  word .update
  let table ← identifier "table name"
  word .set
  let assignments ← commaList assignment
  word .where
  let condition ← condition
  if condition.comparison ≠ .eq then
    fail (.operator condition.comparison.symbol)
  close .required
  return .update table assignments condition

def readDelete : Cursor Statement := do
  word .delete
  word .from
  let table ← identifier "table name"
  word .where
  let condition ← condition
  close .required
  return .delete table condition

/-- One more column definition; the name must be new. -/
def columnDefinition (columns : List String) : Cursor (List String) := do
  let column ← identifier "column name"
  if columns.contains column then
    fail (.malformed (.duplicateColumn column))
  skipDefinition
  return columns ++ [column]

/-- Column definitions up to the parenthesis that closes them, which is taken. -/
def columnsFrom (s : Scan) (seen : List String) (p : Nat) :
    Checked ReadFault (List String × Nat) :=
  match _h : (columnDefinition seen).run s p with
  | .error halt => .error halt
  | .ok (columns, q) =>
    if _hq : s.current q = some .comma then columnsFrom s columns (q + 1)
    else if s.current q = some .rightParen then .ok (columns, q + 1)
    else .error (refusal "',' or ')'" s q)
termination_by s.tokens.length - p
decreasing_by
  have h₁ := (columnDefinition seen).advances _h
  have h₂ := Scan.lt_of_current _hq
  omega

theorem columnsFrom_advances {s : Scan} {seen columns : List String} {p q : Nat}
    (h : columnsFrom s seen p = .ok (columns, q)) : p ≤ q := by
  fun_induction columnsFrom s seen p with
  | case1 => cases h
  | case2 seen p columns' q₁ hone hq ih =>
      have h₁ := (columnDefinition seen).advances hone
      have h₂ := ih h
      omega
  | case3 seen p columns' q₁ hone hq hright =>
      cases h
      have h₁ := (columnDefinition seen).advances hone
      omega
  | case4 => cases h

/-- The columns of CREATE TABLE, behind those seen before. -/
def columns (seen : List String) : Cursor (List String) where
  run s p := columnsFrom s seen p
  advances := columnsFrom_advances

def readCreateTable : Cursor Statement := do
  word .create
  word .table
  let name ← identifier "table name"
  exactly .leftParen
  let columns ← columns []
  close .optional
  return .createTable name columns

/-- Two keywords and a name. -/
def readNamed (first second : Keyword) (what : String) (statement : String → Statement) :
    Cursor Statement := do
  word first
  word second
  let name ← identifier what
  close .optional
  return statement name

/-- Two keywords and nothing else. -/
def readBare (first second : Keyword) (statement : Statement) : Cursor Statement := do
  word first
  word second
  close .required
  return statement

def readUse : Cursor Statement := do
  word .use
  let name ← identifier "database name"
  close .optional
  return .use name

/-- The reader of a command. -/
def reader : Command → Cursor Statement
  | .select => readSelect
  | .insert => readInsert
  | .update => readUpdate
  | .delete => readDelete
  | .createDatabase => readNamed .create .database "database name" .createDatabase
  | .use => readUse
  | .createTable => readCreateTable
  | .showDatabases => readBare .show .databases .showDatabases
  | .showTables => readBare .show .tables .showTables
  | .dropDatabase => readNamed .drop .database "database name" .dropDatabase
  | .dropTable => readNamed .drop .table "table name" .dropTable

/-- The lexemes of a text as a scan of the text. -/
def scanOf (ls : List Lexeme) (cs : List Char) : Scan where
  tokens := ls.map Lexeme.token
  spans := spansFrom 0 ls
  source := cs

/-- The statement of this command that a text writes. -/
def read (k : Command) (cs : List Char) : Checked ReadFault Statement :=
  match lexemes cs with
  | .error fault => .error (.refused (.malformed fault))
  | .ok (ls, _) => match (reader k).run (scanOf ls cs) 0 with
    | .error halt => .error halt
    | .ok (statement, _) => .ok statement

end SmallSql.Checked
