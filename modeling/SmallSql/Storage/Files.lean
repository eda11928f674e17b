/-
  SmallSql.Storage.Files
  ────────────────────────────────
  Files by path: each path holds a text or is a folder, and a path leads anywhere only through
  folders.  The operations are those that keeping a store and reading settings need, with the ways
  in which each can fail.  How a path is written is the matter of `Storage.Route`.
-/

namespace SmallSql

/-- A place in a tree of folders: the names on the way from the working folder or, behind
`Path.outermost`, from the folder that holds all others.  A name of two points stands in front only,
for the folder around the working folder. -/
abbrev Path := List String

namespace Path

/-- The name that stands in front of a path from the outermost folder. -/
def outermost : String := "/"

/-- The step out of a folder. -/
def out : String := ".."

/-- A place that every other way begins with: the outermost folder, the working folder and the
folders around it. -/
def isOrigin (path : Path) : Bool := path = [outermost] || path.all (· = out)

/-- The folder around a place; there is none around the outermost. -/
def parent (path : Path) : Path :=
  if path = [outermost] then path
  else if path.isOrigin then path ++ [out]
  else path.dropLast

end Path

/-- What stands at a path. -/
inductive Node where
  | text (content : String)
  | folder
deriving DecidableEq, Repr

/-- Why a file operation failed. -/
inductive FileFault where
  | notFound
  | alreadyExists
  | notFolder
  | isFolder
  | nameTooLong
  /-- A path has the character with the number zero in it, which ends paths. -/
  | nameCut
  /-- Any other failure, in the words of whoever reports it. -/
  | other (detail : String)
deriving DecidableEq, Repr

/-- The wording of a failed file operation. -/
def FileFault.message : FileFault → String
  | notFound => "No such file or directory (os error 2)"
  | alreadyExists => "File exists (os error 17)"
  | notFolder => "Not a directory (os error 20)"
  | isFolder => "Is a directory (os error 21)"
  | nameTooLong => "File name too long (os error 36)"
  | nameCut => "file name contained an unexpected NUL byte"
  | other detail => detail

/-- A tree of files.  Of several nodes at one path the first counts. -/
structure Files where
  nodes : List (Path × Node) := []
deriving DecidableEq, Repr

namespace Files

/-- What stands at a path. -/
def node? (fs : Files) (path : Path) : Option Node :=
  if path.isOrigin then some .folder else fs.nodes.lookup path

/-- Puts a node at a path. -/
def put (fs : Files) (path : Path) (node : Node) : Files where
  nodes := (path, node) :: fs.nodes.filter (fun p => p.1 != path)

/-- Takes away what stands at a path. -/
def remove (fs : Files) (path : Path) : Files where
  nodes := fs.nodes.filter (fun p => p.1 != path)

/-- All but the last step of a path, taken from `base`, lead through folders. -/
def reach (fs : Files) (base : Path) : Path → Except FileFault Unit
  | [] | [_] => .ok ()
  | name :: rest => match fs.node? (base ++ [name]) with
    | some .folder => fs.reach (base ++ [name]) rest
    | some (.text _) => .error .notFolder
    | none => .error .notFound

/-- The text at a path. -/
def readText (fs : Files) (path : Path) : Except FileFault String := do
  fs.reach [] path
  match fs.node? path with
  | some (.text content) => return content
  | some .folder => throw .isFolder
  | none => throw .notFound

/-- Whether anything stands at a path. -/
def holds (fs : Files) (path : Path) : Bool :=
  match fs.reach [] path with
  | .ok () => (fs.node? path).isSome
  | .error _ => false

/-- Makes an empty text at a path, in place of a text that is there. -/
def create (fs : Files) (path : Path) : Except FileFault Files := do
  fs.reach [] path
  match fs.node? path with
  | some .folder => throw .isFolder
  | _ => return fs.put path (.text "")

/-- Moves the text at one path to another, in place of a text that is there. -/
def rename (fs : Files) (source target : Path) : Except FileFault Files := do
  let content ← fs.readText source
  fs.reach [] target
  match fs.node? target with
  | some .folder => throw .isFolder
  | _ => return (fs.remove source).put target (.text content)

end Files

end SmallSql
