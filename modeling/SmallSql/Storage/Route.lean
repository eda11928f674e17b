/-
  SmallSql.Storage.Route
  ────────────────────────────────
  Paths as they are written, and where they lead.

      "a/./b/../c/"  ──▶  steps a · . · b · .. · c, into a folder  ──▶  a place

  A way is walked step by step, and every step but the last has to lead into a folder that is there,
  also where a later step leaves it again: "a/.." is nowhere if "a" is missing.
-/
import SmallSql.Storage.Files
import SmallSql.Text.Pieces

namespace SmallSql

/-- A path as it is written. -/
structure Route where
  /-- Where the way begins. -/
  start : Path := []
  /-- The steps: names, a point to stay, two points to go out. -/
  steps : List String
  /-- Whether the end has to be a folder, as a slash behind the last step says. -/
  intoFolder : Bool := false
deriving DecidableEq, Repr

/-! ## §1. Reading. -/

namespace Route

/-- The step that stays where it is. -/
def stay : String := "."

/-- The most bytes that a name has. -/
def nameLimit : Nat := 255

/-- What the number of bytes of a written path stays below. -/
def lengthLimit : Nat := 4096

/-- Whether a written path is longer than paths can be. -/
def isTooLong (written : String) : Bool := lengthLimit ≤ written.utf8ByteSize

/-- The way that a text writes. -/
def ofText (written : String) : Except FileFault Route :=
  if written.toList.contains '\x00' then .error .nameCut
  else if isTooLong written then .error .nameTooLong
  else if written = "" then .error .notFound
  else .ok {
    start := if written.startsWith Path.outermost then [Path.outermost] else []
    steps := ((Text.pieces '/' written.toList).map String.ofList).filter (· ≠ "")
    intoFolder := written.endsWith "/" }

/-- Whether a step is the name of something. -/
def isName (step : String) : Bool := step ≠ stay && step ≠ Path.out

/-- The way to the folder around the end, in which steps that stay do not count. -/
def parent (r : Route) : Route where
  start := r.start
  steps := (r.steps.filter (· ≠ stay)).dropLast

/-- The way around the end is shorter. -/
theorem parent_length {r : Route} (h : r.steps ≠ []) :
    r.parent.steps.length < r.steps.length := by
  have h₁ := List.length_filter_le (· ≠ stay) r.steps
  have h₂ := List.length_pos_iff.2 h
  simp only [parent, List.length_dropLast]
  omega

end Route

/-- The place that a step leads to, if it leads anywhere. -/
def Path.enter (path : Path) (step : String) : Path :=
  if step = Route.stay then path
  else if step = Path.out then path.parent
  else path ++ [step]

/-- The written path of a name in a folder. -/
def joinWritten (folder name : String) : String :=
  if folder.isEmpty || folder.endsWith "/" then folder ++ name else folder ++ "/" ++ name

namespace Files

/-! ## §2. Walking. -/

/-- One step from a folder into a folder. -/
def step (fs : Files) (path : Path) (step : String) : Except FileFault Path :=
  if Route.isName step then
    if Route.nameLimit < step.utf8ByteSize then .error .nameTooLong
    else match fs.node? (path ++ [step]) with
      | some .folder => .ok (path ++ [step])
      | some (.text _) => .error .notFolder
      | none => .error .notFound
  else .ok (path.enter step)

/-- The folder that steps lead to. -/
def walk (fs : Files) (path : Path) : List String → Except FileFault Path
  | [] => .ok path
  | s :: rest => do fs.walk (← fs.step path s) rest

/-- The place at the end of a way, where nothing needs to stand unless it has to be a folder. -/
def locate (fs : Files) (r : Route) : Except FileFault Path :=
  match r.steps.getLast? with
  | none => .ok r.start
  | some last => do
    let folder ← fs.walk r.start r.steps.dropLast
    if r.intoFolder || !Route.isName last then fs.step folder last
    else if Route.nameLimit < last.utf8ByteSize then .error .nameTooLong
    else .ok (folder ++ [last])

/-- The text at a written path. -/
def readWritten (fs : Files) (written : String) : Except FileFault String := do
  fs.readText (← fs.locate (← Route.ofText written))

/-- Whether a way leads to a folder. -/
def leadsToFolder (fs : Files) (r : Route) : Bool := (fs.walk r.start r.steps).isOk

/-! ## §3. Making folders. -/

/-- Makes a folder at the end of a way, where nothing stands yet. -/
def makeFolder (fs : Files) (r : Route) : Except FileFault Files :=
  match r.steps.getLast? with
  | none => .error .alreadyExists
  | some last => do
    let folder ← fs.walk r.start r.steps.dropLast
    if !Route.isName last then .error .alreadyExists
    else if Route.nameLimit < last.utf8ByteSize then .error .nameTooLong
    else match fs.node? (folder ++ [last]) with
      | some _ => .error .alreadyExists
      | none => .ok (fs.put (folder ++ [last]) .folder)

/-- Makes a folder at the end of a way, unless there is one. -/
def ensureFolder (fs : Files) (r : Route) : Except FileFault Files :=
  match fs.makeFolder r with
  | .ok fs' => .ok fs'
  | .error fault => if fs.leadsToFolder r then .ok fs else .error fault

/-- Makes the folder at the end of a way and, where they are missing, the folders before it.  The
files are those after the attempt; a failure takes no folder away again. -/
def makeFolders (fs : Files) (r : Route) : Except FileFault Unit × Files :=
  if _h : r.steps = [] then (.ok (), fs)
  else match fs.ensureFolder r with
    | .ok fs' => (.ok (), fs')
    | .error .notFound => match fs.makeFolders r.parent with
      | (.error fault, fs') => (.error fault, fs')
      | (.ok (), fs') => match fs'.ensureFolder r with
        | .ok fs'' => (.ok (), fs'')
        | .error fault => (.error fault, fs')
    | .error fault => (.error fault, fs)
termination_by r.steps.length
decreasing_by exact Route.parent_length _h

/-- Makes the folders of a written path; the empty path needs none. -/
def makeWritten (fs : Files) (written : String) : Except FileFault Unit × Files :=
  if written = "" then (.ok (), fs)
  else match Route.ofText written with
    | .error fault => (.error fault, fs)
    | .ok r => fs.makeFolders r

/-- The folder of a written path; the empty path is the working folder. -/
def folderAt (fs : Files) (written : String) : Except FileFault Path := do
  if written = "" then return []
  let r ← Route.ofText written
  fs.walk r.start r.steps

end Files

end SmallSql
