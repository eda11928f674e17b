/-
  SmallSql.Settings
  ────────────────────────────────
  What can be set: where data are kept, where the lines that were typed are kept, whether anything
  is kept at all, and what is logged.  Each source counts for more than the one before it:

      built-in values  ──▶  settings file  ──▶  environment  ──▶  command line

  Before the environment is asked, a file beside the settings can add to it.
-/
import SmallSql.Settings.Environment
import SmallSql.Settings.Toml
import SmallSql.Storage.Route

namespace SmallSql

/-- The settings of a program run. -/
structure Settings where
  /-- The folder of the store. -/
  dataFolder : String := ".sqlplay"
  /-- The file of typed lines, if it is not the one in the data folder. -/
  historyFile : Option String := none
  /-- Whether the catalog is kept in the data folder. -/
  persist : Bool := true
  logFilter : String := "sqlplay=warn"
deriving DecidableEq, Repr

namespace Settings

/-- Why settings could not be read; files are named as the user wrote them. -/
inductive Fault where
  | unreadable (shown : String) (cause : FileFault)
  | invalid (shown : String)
deriving DecidableEq, Repr

def Fault.message : Fault → String
  | unreadable shown _ => "Failed to read " ++ shown
  | invalid shown => "Invalid config " ++ shown

/-- The reason behind a fault, in words. -/
def Fault.cause : Fault → String
  | unreadable _ cause => cause.message
  | invalid _ => "not a document of settings"

/-- The file of typed lines. -/
def historyPath (s : Settings) : String := s.historyFile.getD (joinWritten s.dataFolder "history")

/-! ## §1. From a document. -/

/-- The value of a key as `view` sees it: none inside if the key is missing, none outside if it has
another sort of value or is a section. -/
def field {α : Type} (view : Toml.Value → Option α) (doc : Toml.Document) (name : String) :
    Option (Option α) :=
  if doc.isSection name then none
  else match doc.value? name with
    | none => some none
    | some value => (view value).map some

def textOf? : Toml.Value → Option String
  | .text content => some content
  | _ => none

def truthOf? : Toml.Value → Option Bool
  | .truth value => some value
  | _ => none

/-- The settings that a document gives, with the built-in values for those it leaves out.  Keys that
mean nothing are passed over. -/
def ofDocument (doc : Toml.Document) : Option Settings := do
  let builtIn : Settings := {}
  let dataFolder ← field textOf? doc "data_dir"
  let historyFile ← field textOf? doc "history_file"
  let persist ← field truthOf? doc "persist"
  let logFilter ← field textOf? doc "log_filter"
  return {
    dataFolder := dataFolder.getD builtIn.dataFolder
    historyFile
    persist := persist.getD builtIn.persist
    logFilter := logFilter.getD builtIn.logFilter }

/-- The settings in a file, by what reading it gave. -/
def ofFile (reading : Except FileFault String) (shown : String) : Except Fault Settings :=
  match reading with
  | .error cause => .error (.unreadable shown cause)
  | .ok text => match (Toml.Document.ofText text).bind ofDocument with
    | some settings => .ok settings
    | none => .error (.invalid shown)

/-! ## §2. From the environment. -/

/-- The capital letters of ASCII made small. -/
def smallLetters (cs : List Char) : List Char := cs.map Char.toLower

/-- The words for yes. -/
def yesWords : List String := ["1", "true", "yes", "on"]

/-- The words for no. -/
def noWords : List String := ["0", "false", "no", "off"]

/-- What a switch is set to; none if the text says neither yes nor no. -/
def readSwitch (text : String) : Option Bool :=
  let word := String.ofList (smallLetters (Text.trim text.toList))
  if yesWords.contains word then some true
  else if noWords.contains word then some false
  else none

/-- The text of a name, if it is there and not empty. -/
def givenText (env : Environment) (name : String) : Option String :=
  (env.get? name).filter (fun text => text ≠ "")

/-- The settings as far as the environment does not say otherwise. -/
def overriddenBy (s : Settings) (env : Environment) : Settings where
  dataFolder := (givenText env "SQLPLAY_DATA_DIR").getD s.dataFolder
  historyFile := s.historyFile
  persist := ((env.get? "SQLPLAY_PERSIST").bind readSwitch).getD s.persist
  logFilter := (givenText env "SQLPLAY_LOG").getD s.logFilter

/-! ## §3. Loading. -/

/-- The name of the settings file in a folder. -/
def fileName : String := "sqlplay.toml"

/-- The name of the file that adds to the environment. -/
def environmentFileName : String := ".env"

/-- The environment with what the file in a folder adds to it. -/
def extendedBy (env : Environment) (fs : Files) (folder : Path) : Environment :=
  match fs.readText (folder ++ [environmentFileName]) with
  | .ok text => env.readText text
  | .error _ => env

/-- The settings of a folder, whose settings file may be missing.  `shown` is the folder as messages
name it. -/
def load (fs : Files) (folder : Path) (shown : String) (env : Environment) :
    Except Fault Settings := do
  let path := folder ++ [fileName]
  let settings ← if fs.holds path then ofFile (fs.readText path) (joinWritten shown fileName)
    else pure {}
  return settings.overriddenBy env

/-- The settings of a file that must be there. -/
def loadFile (fs : Files) (file : String) (env : Environment) : Except Fault Settings := do
  let settings ← ofFile (fs.readWritten file) file
  return settings.overriddenBy env

end Settings

end SmallSql
