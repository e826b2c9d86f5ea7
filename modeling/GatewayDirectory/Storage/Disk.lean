import GatewayDirectory.Part
import GatewayDirectory.Storage.Folder
import GatewayDirectory.Text.Blank

/-!
# Disks

A disk is the folder that all paths start from. A path is read as its names; empty ones and single
dots do not count.
-/

namespace GatewayDirectory.Storage

/-- The folder at the root of all paths. -/
abbrev Disk := Folder

/-- The names along a path. -/
def pathNames (path : String) : List String :=
  ((Text.splitAt '/' path.toList).map String.ofList).filter fun name => name != "" && name != "."

namespace Disk

/-- The node at the end of a path, or the cause why there is none. -/
def find (disk : Folder) : List String → Except OsError Node
  | [] => .ok disk.toNode
  | name :: rest =>
    if isTooLong name then .error .nameTooLong
    else
      match disk.get? name, rest with
      | none, _ => .error .notFound
      | some node, [] => .ok node
      | some (.file _), _ :: _ => .error .notDirectory
      | some (.folder children), rest => find (.ofChildren children) rest

/-- The folder at the end of a path. -/
def folder? (disk : Disk) (path : List String) : Option Folder :=
  match find disk path with
  | .ok (.folder children) => some (.ofChildren children)
  | _ => none

/-- The disk with `node` at the end of a path, folders along the way made where missing. -/
def put (disk : Folder) (node : Node) : List String → Folder
  | [] => disk
  | [name] => disk.insert name node
  | name :: rest =>
    let inner := match disk.get? name with
      | some (.folder children) => Folder.ofChildren children
      | _ => .empty
    disk.insert name (put inner node rest).toNode

/-- The disk without the node at the end of a path. -/
def remove (disk : Folder) : List String → Folder
  | [] => disk
  | [name] => disk.erase name
  | name :: rest =>
    match disk.get? name with
    | some (.folder children) => disk.insert name (remove (.ofChildren children) rest).toNode
    | _ => disk

/-- The disk with every folder along a path made. -/
def makeFolders (disk : Folder) : List String → Except OsError Folder
  | [] => .ok disk
  | name :: rest =>
    if isTooLong name then .error .nameTooLong
    else
      match disk.get? name with
      | some (.file _) => .error (if rest.isEmpty then .exists else .notDirectory)
      | some (.folder children) =>
        (makeFolders (.ofChildren children) rest).map fun inner => disk.insert name inner.toNode
      | none => (makeFolders .empty rest).map fun inner => disk.insert name inner.toNode

/-- The text of the file at the end of a path. -/
def readText (disk : Disk) (path : String) : Except OsError String :=
  match find disk (pathNames path) with
  | .error e => .error e
  | .ok (.folder _) => .error .isDirectory
  | .ok (.file content) =>
    match String.fromUTF8? content with
    | some text => .ok text
    | none => .error .notText

/-- The folder at the end of a path as a part of the disk, empty where there is none. -/
def part (path : List String) : Part Disk Folder :=
  ⟨fun disk => (folder? disk path).getD .empty,
    fun folder disk => if path.isEmpty then folder else put disk folder.toNode path⟩

end Disk

end GatewayDirectory.Storage
