/-
  SmallSql.CommandLine
  ────────────────────────────────
  The arguments of the program:

      --data-dir FOLDER     where the store is kept
      --config FILE         the settings file
      --memory              nothing is kept
      -e, --execute SQL     a statement to be run, as often as needed
      -h, --help            asks for help

  A value follows its option or is joined to it, by an equals sign or, behind a single letter, by
  nothing.  A value that stands apart does not begin with a dash, unless the dash is all of it.
-/
import SmallSql.Text.Pieces

namespace SmallSql

/-- What the arguments ask for. -/
structure Invocation where
  dataFolder : Option String := none
  configFile : Option String := none
  memory : Bool := false
  /-- The statements to be run, in their order. -/
  statements : List String := []
deriving DecidableEq, Repr

/-- Why arguments are no invocation. -/
inductive Refusal where
  /-- They ask for help. -/
  | help
  /-- They are not in order. -/
  | usage
deriving DecidableEq, Repr

/-- The options that take a value. -/
inductive Parameter where
  | dataFolder
  | configFile
  | statement
deriving DecidableEq, Repr

/-- What a single argument is. -/
inductive Argument where
  /-- The end of the options. -/
  | separator
  | help
  | memory
  /-- An option, with the value that is joined to it. -/
  | parameter (p : Parameter) (joined : Option (List Char))
  /-- Anything else. -/
  | stray
deriving DecidableEq, Repr

namespace Argument

/-- The option of this name, which has the value `joined` joined to it. -/
def ofLongName (name : List Char) (joined : Option (List Char)) : Argument :=
  match String.ofList name, joined with
  | "help", none => .help
  | "memory", none => .memory
  | "data-dir", joined => .parameter .dataFolder joined
  | "config", joined => .parameter .configFile joined
  | "execute", joined => .parameter .statement joined
  | _, _ => .stray

/-- The value behind an equals sign, if there is one. -/
def joinedByEquals : List Char → Option (List Char)
  | '=' :: value => some value
  | _ => none

/-- The value behind a single letter, with or without an equals sign. -/
def joinedToLetter : List Char → Option (List Char)
  | [] => none
  | '=' :: value => some value
  | value => some value

def ofText : List Char → Argument
  | ['-', '-'] => .separator
  | '-' :: '-' :: rest =>
    ofLongName (rest.takeWhile (· ≠ '=')) (joinedByEquals (rest.dropWhile (· ≠ '=')))
  | '-' :: 'h' :: _ => .help
  | '-' :: 'e' :: rest => .parameter .statement (joinedToLetter rest)
  | _ => .stray

/-- Whether an argument can be the value of the option before it. -/
def isValue (cs : List Char) : Bool := cs.head? ≠ some '-' || cs = ['-']

end Argument

namespace Invocation

/-- Gives an option its value.  Only statements can be given more than once, and only they can be
empty. -/
def assign (inv : Invocation) (p : Parameter) (value : String) : Except Refusal Invocation :=
  match p with
  | .statement => .ok { inv with statements := inv.statements ++ [value] }
  | .dataFolder =>
    if inv.dataFolder.isSome ∨ value = "" then .error .usage
    else .ok { inv with dataFolder := some value }
  | .configFile =>
    if inv.configFile.isSome ∨ value = "" then .error .usage
    else .ok { inv with configFile := some value }

/-- Takes on arguments one after the other. -/
def takeOn (inv : Invocation) : List String → Except Refusal Invocation
  | [] => .ok inv
  | argument :: rest => match Argument.ofText argument.toList with
    | .separator => if rest.isEmpty then .ok inv else .error .usage
    | .help => .error .help
    | .memory => if inv.memory then .error .usage else { inv with memory := true }.takeOn rest
    | .parameter p (some value) => match inv.assign p (String.ofList value) with
      | .error r => .error r
      | .ok inv => inv.takeOn rest
    | .parameter p none => match rest with
      | [] => .error .usage
      | value :: rest =>
        if Argument.isValue value.toList then
          match inv.assign p value with
          | .error r => .error r
          | .ok inv => inv.takeOn rest
        else .error .usage
    | .stray => .error .usage

/-- The invocation that arguments write. -/
def ofArguments (arguments : List String) : Except Refusal Invocation :=
  ({} : Invocation).takeOn arguments

end Invocation

end SmallSql
