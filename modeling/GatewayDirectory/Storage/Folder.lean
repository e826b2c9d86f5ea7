import GatewayDirectory.Storage.OsError
import GatewayDirectory.Table

/-!
# Folders of files

A folder holds files and further folders under names of at most 255 bytes. Reading, writing and
renaming fail with the cause that an operating system reports, and then leave the folder as it was.
There are no links, and a write is made as a whole or not at all.
-/

namespace GatewayDirectory.Storage

/-- What a folder holds under a name. -/
inductive Node where
  | file (content : ByteArray)
  | folder (children : List (String × Node))
deriving Inhabited

/-- A folder, by the names in it. Links are not modelled: a name leads to what the folder holds. Nor
are writes that fail half way: a file has either the bytes that were there before or all of the
bytes that are written. -/
abbrev Folder := Table Node

/-- The longest file name, in bytes. -/
def maxFileNameBytes : Nat := 255

/-- Whether a name is too long for a file. -/
def isTooLong (name : String) : Bool := decide (maxFileNameBytes < name.utf8ByteSize)

/-- Whether a name stands for the folder itself or the one around it. -/
def isDots (name : String) : Bool := name == "." || name == ".."

/-- The names and nodes of a folder's children as a folder. -/
def Folder.ofChildren (children : List (String × Node)) : Folder := Table.ofList children

/-- The folder as a node. -/
def Folder.toNode (f : Folder) : Node := .folder f.toList

/-- The bytes of a file. -/
def Folder.read (f : Folder) (name : String) : Except OsError ByteArray :=
  if isTooLong name then .error .nameTooLong
  else if isDots name then .error .isDirectory
  else
    match f.get? name with
    | none => .error .notFound
    | some (.folder _) => .error .isDirectory
    | some (.file content) => .ok content

/-- The folder with a file of these bytes, made or replaced. -/
def Folder.write (f : Folder) (name : String) (content : ByteArray) : Except OsError Folder :=
  if isTooLong name then .error .nameTooLong
  else if isDots name then .error .isDirectory
  else
    match f.get? name with
    | some (.folder _) => .error .isDirectory
    | _ => .ok (f.insert name (.file content))

/-- The folder with a file moved to another name, where it replaces a file. -/
def Folder.rename (f : Folder) (source target : String) : Except OsError Folder :=
  if isTooLong source || isTooLong target then .error .nameTooLong
  else
    match f.get? source with
    | none => .error .notFound
    | some node =>
      match f.get? target with
      | some (.folder _) => .error .isDirectory
      | _ => .ok ((f.erase source).insert target node)

end GatewayDirectory.Storage
