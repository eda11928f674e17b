/-
  SmallSql.Token
  ────────────────────────────────
  The tokens of the dialect and how each is shown in a message.  A word is a keyword when its
  uppercase form is one of eighteen spellings; every other word is an identifier, kept as written.
-/
import SmallSql.Text.Fold

namespace SmallSql

/-- The comparison operators. -/
inductive Comparison where
  | eq
  | ne
  | lt
  | le
  | gt
  | ge
deriving DecidableEq, Repr

namespace Comparison

/-- The operator as it is written. -/
def symbol : Comparison → String
  | eq => "="
  | ne => "!="
  | lt => "<"
  | le => "<="
  | gt => ">"
  | ge => ">="

/-- All operators. -/
def all : List Comparison := [eq, ne, lt, le, gt, ge]

/-- The operator that is written so. -/
def ofSymbol? (written : String) : Option Comparison := all.find? (fun c => c.symbol == written)

end Comparison

/-- The reserved words. -/
inductive Keyword where
  | select
  | «from»
  | «where»
  | insert
  | into
  | values
  | update
  | set
  | delete
  | create
  | drop
  | use
  | «show»
  | database
  | databases
  | table
  | tables
  | null
deriving DecidableEq, Repr

namespace Keyword

/-- The keyword in capital letters. -/
def spelling : Keyword → String
  | select => "SELECT"
  | «from» => "FROM"
  | «where» => "WHERE"
  | insert => "INSERT"
  | into => "INTO"
  | values => "VALUES"
  | update => "UPDATE"
  | set => "SET"
  | delete => "DELETE"
  | create => "CREATE"
  | drop => "DROP"
  | use => "USE"
  | «show» => "SHOW"
  | database => "DATABASE"
  | databases => "DATABASES"
  | table => "TABLE"
  | tables => "TABLES"
  | null => "NULL"

/-- All keywords. -/
def all : List Keyword :=
  [select, «from», «where», insert, into, values, update, set, delete, create, drop, use, «show»,
   database, databases, table, tables, null]

/-- The keyword that a word spells, in any case. -/
def ofWord? (word : List Char) : Option Keyword :=
  let spelled := Text.uppercase word
  all.find? (fun k => k.spelling.toList == spelled)

end Keyword

/-- The tokens of a statement. -/
inductive Token where
  | keyword (k : Keyword)
  | identifier (name : String)
  /-- Digits with at most one point inside, kept as written. -/
  | number (digits : String)
  /-- The content of a quoted string. -/
  | string (content : String)
  | comparison (c : Comparison)
  /-- A run of comparison characters that is no comparison operator. -/
  | operator (written : String)
  | star
  | comma
  | leftParen
  | rightParen
  | semicolon
  /-- Any other character. -/
  | symbol (c : Char)
deriving DecidableEq, Repr

namespace Token

/-- The token as a message names it. -/
def display : Token → String
  | keyword k => k.spelling
  | identifier name => name
  | number digits => digits
  | string content => "'" ++ content ++ "'"
  | comparison c => c.symbol
  | operator written => written
  | star => "*"
  | comma => ","
  | leftParen => "("
  | rightParen => ")"
  | semicolon => ";"
  | symbol c => c.toString

/-- A token, or the end of the statement, as a message names it. -/
def describe : Option Token → String
  | some t => t.display
  | none => "end of statement"

end Token

/-- What is wrong with the form of a statement. -/
inductive SyntaxFault where
  /-- The content read so far of a string that is never closed. -/
  | unterminatedString (quote : Char) (content : List Char)
  /-- The text of a quoted name that is never closed. -/
  | unterminatedName (quote : Char) (name : List Char)
  /-- Something else stands where `what` is called for. -/
  | expected (what : String) (found : Option Token)
  /-- The statement goes on after its end. -/
  | trailing (found : Token)
  /-- A column is defined twice. -/
  | duplicateColumn (name : String)
deriving DecidableEq, Repr

/-- The wording of a syntax fault. -/
def SyntaxFault.message : SyntaxFault → String
  | unterminatedString quote content =>
    "unterminated string " ++ String.ofList (quote :: content)
  | unterminatedName quote name =>
    "unterminated quoted identifier " ++ String.ofList (quote :: name)
  | expected what found => "expected " ++ what ++ ", found " ++ Token.describe found
  | trailing found => "unexpected " ++ found.display ++ " after end of statement"
  | duplicateColumn name => "duplicate column '" ++ name ++ "'"

end SmallSql
