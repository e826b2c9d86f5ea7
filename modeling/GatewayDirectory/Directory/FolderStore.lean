import GatewayDirectory.Decoding.Json
import GatewayDirectory.Directory.Basic
import GatewayDirectory.Name
import GatewayDirectory.Part
import GatewayDirectory.Storage.Folder
import GatewayDirectory.Text.Percent

/-!
# The store in a folder

Each entry is one JSON document in a folder. Its file is named by the percent-encoded gateway name,
so that no separator or colon reaches the file system. A write goes to a second file, which is then
renamed over the first: reading, writing and renaming are three steps, and the file of an entry is
always whole.
-/

namespace GatewayDirectory.FolderStore

open Directory Storage

/-- The end of every document's file name. -/
def objectSuffix : String := ".json"

/-- The file that holds a gateway's document. -/
def objectName (name : String) : String := Text.Percent.encode name ++ objectSuffix

/-- The file that a document is written to before it takes its place. Its suffix replaces the one
that the object's name has, unless that is the whole of it; of a lone dot no stem is left, and the
name is that of the folder around. -/
def tempName (name : String) : String :=
  if name = "" then objectSuffix ++ ".json.tmp"
  else if name = "." then ".."
  else Text.Percent.encode name ++ ".json.tmp"

/-- The bytes of an entry's document. -/
def document (e : Entry) : ByteArray := (Json.indented e.toJson).toUTF8

/-- The entry that a document holds. -/
def readDocument (content : ByteArray) : Result Entry :=
  match Json.decode Entry.decode content with
  | .ok e => .ok e
  | .error e => .error (.malformed e)

/-- The entry of a gateway, as its file has it. -/
def readObject (f : Folder) (name : String) : Result Entry :=
  match f.read (objectName name) with
  | .ok content => readDocument content
  | .error .notFound => .error (.notFound name)
  | .error e => .error (.io e)

/-- Whether a file counts as a document. -/
def isObject (fileName : String) : Bool := objectSuffix.toList.isSuffixOf fileName.toList

/-- The entries of documents, or the error of the first that cannot be read. -/
def readAll (f : Folder) : List String → Result (List Entry)
  | [] => .ok []
  | fileName :: rest =>
    match f.read fileName with
    | .error e => .error (.io e)
    | .ok content =>
      match readDocument content with
      | .error e => .error e
      | .ok e =>
        match readAll f rest with
        | .error e => .error e
        | .ok es => .ok (e :: es)

/-- Every entry of a folder, in the order of the names that the documents give. -/
def dump (f : Folder) : Result (List Entry) :=
  (readAll f (f.keys.filter isObject)).map fun es => es.mergeSort fun a b => a.name ≤ b.name

/-- Keeps the folder that an operation leaves, or the folder as it was when the operation fails. -/
def attempt (op : Folder → Except OsError Folder) (f : Folder) : Except OsError Unit × Folder :=
  match op f with
  | .ok f' => (.ok (), f')
  | .error e => (.error e, f)

variable {σ : Type}

/-- Writes an entry's document under the name that the document gives: beside its place, then into
it. -/
def writeObject (folder : Part σ Folder) (e : Entry) : Timed σ (Result Unit) := do
  match ← Timed.update (folder.run (attempt (·.write (tempName e.name) (document e)))) with
  | .error cause => return .error (.io cause)
  | .ok () =>
    let move (f : Folder) := f.rename (tempName e.name) (objectName e.name)
    match ← Timed.update (folder.run (attempt move)) with
    | .error cause => return .error (.io cause)
    | .ok () => return .ok ()

/-- Writes an id. The name must be valid and the id not empty. -/
def put (clock : σ → Instant) (folder : Part σ Folder) (name id : String) :
    Timed σ (Result Entry) :=
  if !isValidName name then return .error (.invalidName name)
  else if id = "" then return .error .emptyId
  else do
    let (found, now) ← Timed.read fun s => (readObject (folder.get s) name, clock s)
    -- a document that cannot be read is not written over
    let entry : Result Entry :=
      match found with
      | .ok e => .ok (e.update id now)
      | .error (.notFound _) => .ok (.create name id now)
      | .error e => .error e
    match entry with
    | .error e => return .error e
    | .ok e =>
      match ← writeObject folder e with
      | .error err => return .error err
      | .ok () => return .ok e

/-- Binds a token to an entry that exists. -/
def putToken (folder : Part σ Folder) (name token : String) : Timed σ (Result Unit) := do
  match ← Timed.read fun s => readObject (folder.get s) name with
  | .error e => return .error e
  | .ok e => writeObject folder (e.bind token)

/-- The directory over a folder that is part of a state with a clock. -/
def directory (clock : σ → Instant) (folder : Part σ Folder) : Directory σ
  | .get name => Timed.read fun s => readObject (folder.get s) name
  | .put name id | .putAuthorized name id _ => put clock folder name id
  | .putToken name token | .putTokenAuthorized name token _ => putToken folder name token
  | .dump => Timed.read fun s => dump (folder.get s)

end GatewayDirectory.FolderStore
