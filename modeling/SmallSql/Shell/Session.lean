/-
  SmallSql.Shell.Session
  ────────────────────────────────
  The shell: lines in, text out.  A line that begins with a point is a command of the shell, any
  other is a statement.  A line that ends with a backslash goes on with the next one.

  A session holds no channel: `Session.feed` takes one line and gives the text to be shown, and
  whether the session goes on.
-/
import SmallSql.Shell.Completion
import SmallSql.Shell.Grid
import SmallSql.Workbench

namespace SmallSql.Shell

/-- A shell that is open: the workbench, where its store is, and the lines that wait for more. -/
structure Session (σ : Type) where
  bench : Workbench σ
  /-- Where the store is, in words for the user. -/
  location : String
  /-- The lines so far of a statement that goes on. -/
  pending : Option (List Char) := none

/-! ## §1. Texts. -/

/-- The version that the banner shows. -/
def version : String := "0.9.0"

/-- One line, with its end. -/
def textLine (text : String) : String := text ++ "\n"

def banner (colour : Bool) : String :=
  textLine ("  " ++ Style.white.bold.paintString colour "SQL Playground" ++ " "
      ++ Style.dimmed.paintString colour version)
    ++ textLine ("  Type " ++ Style.yellow.paintString colour ".help" ++ " for help, "
      ++ Style.yellow.paintString colour ".exit" ++ " to quit\n")

/-- The text that takes leave. -/
def farewell (colour : Bool) : String := textLine (Style.dimmed.paintString colour "Goodbye!")

/-- A text in a column of this width, filled up inside its style. -/
def inColumn (s : Style) (colour : Bool) (width : Nat) (text : String) : String :=
  String.ofList (s.paint colour (padRight width text.toList))

def helpText (colour : Bool) : String :=
  textLine ("\n" ++ Style.white.bold.paintString colour "Commands:")
    ++ String.join (DotCommand.all.map fun d =>
      textLine ("  " ++ inColumn .yellow colour 10 d.name ++ " " ++ d.description))
    ++ textLine ("\nEnd a line with " ++ Style.yellow.paintString colour "\\"
      ++ " to continue on the next one.")
    ++ textLine ("Type " ++ Style.yellow.paintString colour ".commands"
      ++ " to see the SQL this shell understands.\n")

def commandsText (colour : Bool) : String :=
  textLine ("\n" ++ Style.white.bold.paintString colour "Supported SQL:")
    ++ String.join (Command.all.map fun k =>
      textLine ("  " ++ inColumn .cyan colour 16 k.keyword ++ " " ++ purpose k)
        ++ textLine ("  " ++ String.ofList (padRight 16 []) ++ " "
          ++ Style.green.paintString colour (sampleOf k)))
    ++ textLine ""

/-- The outcome of a statement in one word. -/
def outcomeWord (colour : Bool) (outcome : Outcome) : String :=
  if outcome.isSuccess then inColumn .green colour 5 "ok" else inColumn .red colour 5 "error"

/-- The two lines of a logged statement, which is the `number`th. -/
def logEntryText (colour : Bool) (number : Nat) (entry : LogEntry) : String :=
  textLine ("  " ++ String.ofList (padLeft 3 (toString number).toList) ++ "  "
      ++ outcomeWord colour entry.outcome ++ "  " ++ entry.statement)
    ++ textLine ("        " ++ Style.dimmed.paintString colour entry.outcome.message)

/-- Logged statements, the first being the `number`th. -/
def logTextFrom (colour : Bool) (number : Nat) : List LogEntry → String
  | [] => ""
  | entry :: rest => logEntryText colour number entry ++ logTextFrom colour (number + 1) rest

def historyText (colour : Bool) (log : List LogEntry) : String :=
  if log.isEmpty then textLine ("  " ++ Style.dimmed.paintString colour "No statements yet")
  else logTextFrom colour 1 log

/-- The control sequences that clear a terminal. -/
def clearScreen : String := "\x1b[2J\x1b[1;1H"

/-- The name in the place of a selected database when there is none. -/
def nothingSelected : String := "(none)"

/-! ## §2. Sessions. -/

namespace Session

variable {σ : Type}

/-- The name of the selected database, for the prompt and the status. -/
def databaseShown (s : Session σ) : String :=
  s.bench.state.selection.name?.getD nothingSelected

/-- The prompt of the next line. -/
def prompt (s : Session σ) (colour : Bool) : String :=
  match s.pending with
  | some _ => Style.dimmed.paintString colour "..." ++ " "
  | none =>
    Style.cyan.paintString colour s.databaseShown ++ Style.white.paintString colour ">" ++ " "

def statusText (s : Session σ) (colour : Bool) : String :=
  textLine ("  " ++ Style.dimmed.paintString colour "Database:" ++ " "
      ++ Style.cyan.paintString colour s.databaseShown)
    ++ textLine ("  " ++ Style.dimmed.paintString colour "Databases:" ++ " "
      ++ toString s.bench.state.catalog.databases.length)
    ++ textLine ("  " ++ Style.dimmed.paintString colour "Storage:" ++ " "
      ++ Style.white.paintString colour s.location)

/-- The names that can be completed: the databases, then the tables of the selected one. -/
def knownNames (s : Session σ) : List String :=
  let state := s.bench.state
  state.catalog.databaseNames
    ++ ((state.selection.current? state.catalog).map Database.tableNames).getD []

/-- The completions of the word before a position of a line that is being typed. -/
def complete (s : Session σ) (line : List Char) (position : Nat) : Except CutFault Completion :=
  Shell.complete s.knownNames line position

/-- How a line that is being typed would go on. -/
def hint (s : Session σ) (line : List Char) (position : Nat) : Except CutFault (Option String) :=
  Shell.hint s.knownNames line position

/-- What a shell command shows. -/
def commandText (s : Session σ) (colour : Bool) : DotCommand → String
  | .help => helpText colour
  | .commands => commandsText colour
  | .history => historyText colour s.bench.log
  | .status => s.statusText colour
  | .clear => clearScreen ++ banner colour
  | .exit => farewell colour

/-- The answer to a text that begins with a point, and whether the session goes on. -/
def runDotCommand (s : Session σ) (colour : Bool) (input : List Char) : String × Bool :=
  match DotCommand.ofText? input with
  | some d => (s.commandText colour d, d ≠ .exit)
  | none =>
    (textLine ("  " ++ Style.red.paintString colour "Unknown command:" ++ " "
        ++ String.ofList input)
      ++ textLine ("  Type " ++ Style.yellow.paintString colour ".help" ++ " for help"), true)

variable [KeyValueStore σ]

/-- The answer to a statement. -/
def runStatement (s : Session σ) (colour : Bool) (input : List Char) : String × Session σ :=
  match s.bench.run (String.ofList input) with
  | (.ok reply, bench) => (textLine (renderReply colour reply), { s with bench })
  | (.error e, bench) => (textLine (renderError colour e), { s with bench })

/-- The answer to a whole input, and whether the session goes on. -/
def runInput (s : Session σ) (colour : Bool) (input : List Char) : String × Session σ × Bool :=
  if Text.allBlank input then ("", s, true)
  else if input.head? = some '.' then
    let (text, goesOn) := s.runDotCommand colour input
    (text, s, goesOn)
  else
    let (text, after) := s.runStatement colour input
    (text, after, true)

/-- The answer to one line, and whether the session goes on. -/
def feed (s : Session σ) (colour : Bool) (line : List Char) : String × Session σ × Bool :=
  let line := Text.trim line
  let sofar := s.pending.getD []
  if line.getLast? = some '\\' then
    ("", { s with pending := some (sofar ++ line.dropLast ++ ['\n']) }, true)
  else { s with pending := none }.runInput colour (sofar ++ line)

/-- The prompt of the next line, where prompts are shown. -/
def promptIf (s : Session σ) (colour prompts : Bool) : String :=
  if prompts then s.prompt colour else ""

/-- The prompts of the lines and the answers to them, up to a line that ends the session or to the
end of the lines. -/
def dialogue (s : Session σ) (colour prompts : Bool) : List (List Char) → String × Session σ
  | [] => (s.promptIf colour prompts ++ farewell colour, s)
  | line :: rest =>
    let (text, after, goesOn) := s.feed colour line
    if goesOn then
      let (more, last) := after.dialogue colour prompts rest
      (s.promptIf colour prompts ++ text ++ more, last)
    else (s.promptIf colour prompts ++ text, after)

/-- Runs statements one after the other, up to the first that fails: the text of the replies, and
the error. -/
def runAll (s : Session σ) (colour : Bool) : List String → String × Option SqlError × Session σ
  | [] => ("", none, s)
  | sql :: rest => match s.bench.run sql with
    | (.ok reply, bench) =>
      let (text, failure, last) := { s with bench }.runAll colour rest
      (textLine (renderReply colour reply) ++ text, failure, last)
    | (.error e, bench) => ("", some e, { s with bench })

end Session

end SmallSql.Shell
