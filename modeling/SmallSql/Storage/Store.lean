/-
  SmallSql.Storage.Store
  ────────────────────────────────
  Stores of texts under keys.  A store answers what is under a key and takes batches of writes; a
  batch is applied as a whole or refused, and a refused batch changes no answer.

  There are two: `MemoryStore` refuses nothing, `FileStore` keeps its entries in a file and writes
  the whole file anew for every batch that changes something.  `Guarded` is a store whose writes can
  be made to fail.
-/
import SmallSql.Error
import SmallSql.Storage.EntriesText
import SmallSql.Storage.Route

namespace SmallSql

/-- A store of texts under keys. -/
class KeyValueStore (σ : Type) where
  /-- The text under a key. -/
  get? : σ → String → Option String
  /-- Applies a batch, or says why it is refused; in both cases the store goes on. -/
  apply : σ → Batch → Except SqlError Unit × σ

namespace KeyValueStore

variable {σ : Type} [KeyValueStore σ]

/-- Puts a text under a key, in place of what is there. -/
def set (store : σ) (key value : String) : Except SqlError Unit × σ := apply store [.set key value]

/-- Takes away what is under a key; it is no error if nothing is. -/
def remove (store : σ) (key : String) : Except SqlError Unit × σ := apply store [.remove key]

end KeyValueStore

/-! ## §1. In memory. -/

/-- Entries that are kept nowhere else. -/
structure MemoryStore where
  entries : Entries := .empty
deriving DecidableEq

instance : KeyValueStore MemoryStore where
  get? s key := s.entries.get? key
  apply s batch := (.ok (), { entries := (s.entries.applyBatch batch).1 })

/-! ## §2. In a file. -/

/-- Entries that are kept in a file of a folder. -/
structure FileStore where
  /-- The folder. -/
  folder : Path
  /-- The store file as messages name it. -/
  shown : String
  entries : Entries
  /-- The files around the store, its own among them. -/
  files : Files

/-- The name of the store file in its folder. -/
def storeFileName : String := "store.json"

/-- The name of the file that is written first and then renamed. -/
def spareFileName : String := "store.json.tmp"

namespace FileStore

/-- The store file. -/
def path (s : FileStore) : Path := s.folder ++ [storeFileName]

/-- The file that is written first and then takes the place of the store file. -/
def sparePath (s : FileStore) : Path := s.folder ++ [spareFileName]

/-- The steps in which the store file is replaced. -/
inductive Step where
  /-- Makes an empty spare file. -/
  | create
  /-- Writes the text into it. -/
  | fill
  /-- Waits until it is safely kept. -/
  | sync
  /-- Gives it the name of the store file. -/
  | rename
deriving DecidableEq, Repr

/-- The steps in their order.  The store file itself is touched by the last one only. -/
def steps : List Step := [.create, .fill, .sync, .rename]

/-- The spare file as messages name it. -/
def spareShown (s : FileStore) : String := s.shown ++ ".tmp"

/-- Makes the spare file, unless its written path is too long for that. -/
def createSpare (s : FileStore) (fs : Files) : Except FileFault Files :=
  if Route.isTooLong s.spareShown then .error .nameTooLong else fs.create s.sparePath

/-- Takes one step of writing `text`. -/
def perform (s : FileStore) (text : String) (fs : Files) : Step → Except SqlError Files
  | .create => (s.createSpare fs).mapError fun f =>
      .storage ("Failed to create " ++ s.spareShown ++ ": " ++ f.message)
  | .fill => .ok (fs.put s.sparePath (.text text))
  | .sync => .ok fs
  | .rename => (fs.rename s.sparePath s.path).mapError fun f =>
      .storage ("Failed to replace " ++ s.shown ++ ": " ++ f.message)

/-- Takes steps up to the first that fails; the files are left as the steps before it made them. -/
def performAll (s : FileStore) (text : String) (fs : Files) :
    List Step → Except SqlError Unit × Files
  | [] => (.ok (), fs)
  | step :: rest => match s.perform text fs step with
    | .error e => (.error e, fs)
    | .ok fs' => s.performAll text fs' rest

/-- Applies a batch: a batch that changes nothing writes nothing, and the entries take on a batch
only after its file is in place. -/
def apply (s : FileStore) (batch : Batch) : Except SqlError Unit × FileStore :=
  let (next, changed) := s.entries.applyBatch batch
  if changed then
    match s.performAll next.render s.files steps with
    | (.ok (), files) => (.ok (), { s with entries := next, files })
    | (.error e, files) => (.error e, { s with files })
  else (.ok (), s)

/-- The entries of a store file: none if there is no file. -/
def load (fs : Files) (path : Path) : Except SqlError Entries :=
  if fs.holds path then
    match fs.readText path with
    | .error f => .error (.io f.message)
    | .ok text => (Entries.parse text).mapError .json
  else .ok .empty

/-- Opens the store of a folder that is there.  A file whose written path is too long counts as
missing. -/
def openAt (folder : Path) (shown : String) (fs : Files) : Except SqlError FileStore := do
  let entries ←
    if Route.isTooLong shown then pure .empty else load fs (folder ++ [storeFileName])
  return { folder, shown, entries, files := fs }

/-- Opens the store of a folder, which is made if it is missing. -/
def openIn (folder : String) (fs : Files) : Except SqlError FileStore := do
  let (made, fs) := fs.makeWritten folder
  made.mapError fun f => .io f.message
  let place ← (fs.folderAt folder).mapError fun f => .io f.message
  openAt place (joinWritten folder storeFileName) fs

/-- Opens the same store once more, from its file. -/
def reopen (s : FileStore) : Except SqlError FileStore := openAt s.folder s.shown s.files

/-- The text of the store file, if there is one. -/
def fileText? (s : FileStore) : Option String := (s.files.readText s.path).toOption

end FileStore

instance : KeyValueStore FileStore where
  get? s key := s.entries.get? key
  apply := FileStore.apply

/-! ## §3. With refusals. -/

/-- A store whose writes are refused as long as there is a reason to. -/
structure Guarded (σ : Type) where
  store : σ
  refusal : Option SqlError := none

instance {σ : Type} [KeyValueStore σ] : KeyValueStore (Guarded σ) where
  get? g key := KeyValueStore.get? g.store key
  apply g batch := match g.refusal with
    | some e => (.error e, g)
    | none =>
      let (result, store) := KeyValueStore.apply g.store batch
      (result, { g with store })

end SmallSql
