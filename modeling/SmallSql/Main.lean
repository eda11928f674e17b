/-
  SmallSql.Main
  ────────────────────────────────
  The program itself: it looks at the files that matter, lets `Program.plan` and the session decide,
  writes what they answer, and keeps the store file on disk as the session has it.
-/
import SmallSql.Program

namespace SmallSql.Main

open Program Shell

/-- The variables that are looked at. -/
def variableNames : List String :=
  ["SQLPLAY_DATA_DIR", "SQLPLAY_PERSIST", "SQLPLAY_LOG", "CLICOLOR_FORCE", "TERM"]

/-- The texts of the variables that are set. -/
def environment : IO Environment :=
  variableNames.filterMapM fun name => do return (← IO.getEnv name).map fun text => (name, text)

/-- The fault behind an error of a file operation. -/
def faultOf : IO.Error → FileFault
  | .noFileOrDirectory .. => .notFound
  | .alreadyExists .. => .alreadyExists
  | .inappropriateType _ code _ => if code = 20 then .notFolder else .isFolder
  | e => .other (toString e)

/-- What stands at a written path. -/
def nodeAt (written : String) : IO (Option Node) := do
  try
    return some (.text (← IO.FS.readFile written))
  catch e =>
    return if faultOf e = .isFolder then some .folder else none

/-- The written form of a place. -/
def textOf (place : Path) : String := place.foldl joinWritten ""

/-- Adds what stands at a written path, and at the places on the way to it. -/
def look (fs : Files) (written : String) : IO Files := do
  match Route.ofText written with
  | .error _ => return fs
  | .ok r =>
    let mut fs := fs
    let mut place := r.start
    for step in r.steps do
      place := place.enter step
      if let some node ← nodeAt (textOf place) then fs := fs.put place node
    return fs

/-- Makes the folder of a store on disk; what is to be made there is what the files say. -/
def prepare (fs : Files) (folder : String) : IO (Except FileFault Unit) := do
  let (made, after) := fs.makeWritten folder
  try
    for (place, _) in after.nodes.reverse do
      if (fs.node? place).isNone then IO.FS.createDir (textOf place)
    return made
  catch e => return .error (faultOf e)

/-- Replaces the store file by the text that a session has for it. -/
def writeStore (store : FileStore) : IO Unit := do
  if let some text := store.fileText? then
    IO.FS.writeFile store.spareShown text
    IO.FS.rename store.spareShown store.shown

/-- Keeps a store, whose file had the text `before`, on disk. -/
def keep (before : Option String) (store : FileStore) : IO (Option SqlError) := do
  if store.fileText? = before then return none
  try
    writeStore store
    return none
  catch e =>
    return some (.storage ("Failed to replace " ++ store.shown ++ ": " ++ (faultOf e).message))

/-- Writes a text and lets it be seen at once. -/
def say (text : String) : IO Unit := do
  let out ← IO.getStdout
  out.putStr text
  out.flush

/-- Answers lines until the session ends.  `save` keeps what a line changed. -/
partial def answer {σ : Type} [KeyValueStore σ] (p : Plan) (prompts : Bool)
    (save : Session σ → Session σ → IO (Option SqlError)) (s : Session σ) : IO Unit := do
  say (s.promptIf p.colour prompts)
  let line ← (← IO.getStdin).getLine
  if line.isEmpty then say (farewell p.colour)
  else
    let (text, after, goesOn) := s.feed p.colour (lineTyped line.toList)
    match ← save s after with
    | none =>
      say text
      if goesOn then answer p prompts save after
    | some e =>
      say (textLine (renderError p.colour e))
      if goesOn then answer p prompts save { s with pending := after.pending }

/-- Runs statements up to the first that fails; the exit code. -/
def runEach {σ : Type} [KeyValueStore σ] (p : Plan)
    (save : Session σ → Session σ → IO (Option SqlError)) (s : Session σ) : List String → IO UInt32
  | [] => return 0
  | sql :: rest => do
    let (text, failure, after) := s.runAll p.colour [sql]
    let refusal ← save s after
    match failure.or refusal with
    | none =>
      say text
      runEach p save after rest
    | some e =>
      IO.eprint (textLine (renderError p.colour e))
      return 1

/-- Runs what the plan asks for. -/
def converse {σ : Type} [KeyValueStore σ] (p : Plan)
    (save : Session σ → Session σ → IO (Option SqlError)) (s : Session σ) : IO UInt32 := do
  if p.statements.isEmpty then
    say (banner p.colour)
    answer p (p.prompts || (← (← IO.getStdin).isTty)) save s
    return 0
  else runEach p save s p.statements

/-- Ends a run early. -/
def stop (s : Stop) : IO UInt32 := do
  say s.output
  IO.eprint s.errors
  return s.code.toUInt32

/-- Runs a plan that keeps the catalog in its data folder. -/
def runInFolder (p : Plan) : IO UInt32 := do
  let folder := p.settings.dataFolder
  if let .error fault ← prepare (← look {} folder) folder then
    return ← stop (.store (.io fault.message))
  let shown := joinWritten folder storeFileName
  let fs ← look (← look {} shown) (shown ++ ".tmp")
  match openInFolder p fs with
  | .error s => stop s
  | .ok s =>
    converse p (fun before after => keep before.bench.store.fileText? after.bench.store) s

/-- Runs with these arguments; the exit code. -/
def run (arguments : List String) : IO UInt32 := do
  let shown := (← IO.currentDir).toString
  let written := match Invocation.ofArguments arguments with
    | .ok inv => inv.configFile.toList
    | .error _ => []
  let mut fs : Files := {}
  for file in [Settings.environmentFileName, Settings.fileName] ++ written do
    fs ← look fs file
  match plan fs shown (← environment) arguments with
  | .error s => stop s
  | .ok p =>
    if p.settings.persist then runInFolder p
    else match openInMemory with
      | .error s => stop s
      | .ok s => converse p (fun _ _ => return none) s

end SmallSql.Main

/-- Runs the program. -/
def main (arguments : List String) : IO UInt32 := SmallSql.Main.run arguments
