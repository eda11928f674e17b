/-
  SmallSql.Program
  ────────────────────────────────
  A run of the program, from its arguments to its exit code, over a tree of files.  The settings are
  loaded, the store is opened, and then either the statements of the command line are run, up to the
  first that fails, or the shell answers the lines of the input.
-/
import SmallSql.CommandLine
import SmallSql.Settings
import SmallSql.Shell.Session
import SmallSql.Text.Erasure

namespace SmallSql.Program

open Shell (Session)

/-! ## §1. Before the store is opened. -/

/-- Why a run ends before anything is run. -/
inductive Stop where
  | refused (r : Refusal)
  | settings (f : Settings.Fault)
  | store (e : SqlError)
deriving DecidableEq, Repr

def usageText : String :=
  "Usage: sqlplay [--data-dir FOLDER] [--config FILE] [--memory] [-e SQL]...\n"

/-- A failure and what is behind it. -/
def failureText (message : String) (cause : Option String) : String :=
  "Error: " ++ message
    ++ (match cause with
      | some text => "\n\nCaused by:\n    " ++ text
      | none => "")
    ++ "\n"

namespace Stop

/-- The exit code. -/
def code : Stop → Nat
  | refused .help => 0
  | refused .usage => 2
  | settings _ | store _ => 1

/-- What is shown. -/
def output : Stop → String
  | refused .help => usageText
  | _ => ""

/-- What is shown as an error. -/
def errors : Stop → String
  | refused .help => ""
  | refused .usage => usageText
  | settings f => failureText f.message (some f.cause)
  | store e => failureText e.message e.cause?

end Stop

/-- Terminals on which lines are read without editing. -/
def plainTerminals : List String := ["dumb", "cons25", "emacs"]

/-- Output is coloured where the environment asks for it. -/
def usesColour (env : Environment) : Bool :=
  (env.get? "CLICOLOR_FORCE").any (fun text => text ≠ "0")

/-- Whether the terminal that the environment names is plain, so that prompts are written even where
no one is there to see them. -/
def hasPlainTerminal (env : Environment) : Bool :=
  (env.get? "TERM").any fun text =>
    plainTerminals.contains (String.ofList (Settings.smallLetters text.toList))

/-- What is known before the store is opened. -/
structure Plan where
  settings : Settings
  colour : Bool
  prompts : Bool
  /-- The statements of the command line. -/
  statements : List String
deriving DecidableEq, Repr

/-- The settings with what the command line says instead. -/
def applyInvocation (inv : Invocation) (s : Settings) : Settings :=
  { s with
    dataFolder := inv.dataFolder.getD s.dataFolder
    persist := s.persist && !inv.memory }

/-- The plan of a run.  `shown` is the working folder as messages name it. -/
def plan (fs : Files) (shown : String) (env : Environment) (arguments : List String) :
    Except Stop Plan := do
  let inv ← (Invocation.ofArguments arguments).mapError .refused
  let env := Settings.extendedBy env fs []
  let settings ← (match inv.configFile with
    | some file => Settings.loadFile fs file env
    | none => Settings.load fs [] shown env).mapError .settings
  return {
    settings := applyInvocation inv settings
    colour := usesColour env
    prompts := hasPlainTerminal env
    statements := inv.statements }

/-! ## §2. The run. -/

/-- How a run ended. -/
structure Report where
  code : Nat
  output : String
  errors : String
  /-- The files that the run left behind. -/
  files : Files

/-- The line behind what was typed, its end included. -/
def lineTyped (typed : List Char) : List Char := Text.typedLine (Text.withoutEnd typed)

/-- What a session shows, with its exit code, and the session after it. -/
def converse {σ : Type} [KeyValueStore σ] (p : Plan) (s : Session σ) (input : String) :
    Nat × String × String × Session σ :=
  if p.statements.isEmpty then
    let (text, last) := s.dialogue p.colour p.prompts ((Text.lines input.toList).map lineTyped)
    (0, Shell.banner p.colour ++ text, "", last)
  else match s.runAll p.colour p.statements with
    | (text, none, last) => (0, text, "", last)
    | (text, some e, last) => (1, text, Shell.textLine (Shell.renderError p.colour e), last)

/-- A session over a store. -/
def openSession {σ : Type} [KeyValueStore σ] (store : σ) (location : String) :
    Except Stop (Session σ) := do
  let bench ← (Workbench.openStore store).mapError .store
  return { bench, location }

/-- The session of a plan that keeps nothing. -/
def openInMemory : Except Stop (Session MemoryStore) := openSession ({} : MemoryStore) "memory"

/-- The session of a plan that keeps the catalog in its data folder. -/
def openInFolder (p : Plan) (fs : Files) : Except Stop (Session FileStore) := do
  let store ← (FileStore.openIn p.settings.dataFolder fs).mapError .store
  openSession store store.shown

/-- The files when the data folder of a plan has been made. -/
def preparedFiles (p : Plan) (fs : Files) : Files :=
  if p.settings.persist then (fs.makeWritten p.settings.dataFolder).2 else fs

/-- The report of a run that ends early. -/
def Stop.report (s : Stop) (files : Files) : Report where
  code := s.code
  output := s.output
  errors := s.errors
  files

/-- Carries out a plan. -/
def carryOut (p : Plan) (fs : Files) (input : String) : Except Stop Report :=
  if p.settings.persist then do
    let (code, output, errors, last) := converse p (← openInFolder p fs) input
    return { code, output, errors, files := last.bench.store.files }
  else do
    let (code, output, errors, _) := converse p (← openInMemory) input
    return { code, output, errors, files := fs }

/-- A whole run. -/
def run (fs : Files) (shown : String) (env : Environment) (arguments : List String)
    (input : String) : Report :=
  match plan fs shown env arguments with
  | .error stop => stop.report fs
  | .ok p => match carryOut p fs input with
    | .error stop => stop.report (preparedFiles p fs)
    | .ok report => report

end SmallSql.Program
