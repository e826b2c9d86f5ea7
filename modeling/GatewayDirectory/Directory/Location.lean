import GatewayDirectory.Directory.FolderStore
import GatewayDirectory.Directory.Remote
import GatewayDirectory.Directory.Store
import GatewayDirectory.Storage.Disk

/-!
# Locations of directories

Where a directory lives: in memory, in a folder, or at another registry. `Location.directory` turns
a location into the directory, given the parts of the state that it works on.
-/

namespace GatewayDirectory.Directory

open Storage

/-- Where a directory lives. -/
inductive Location where
  | memory
  | file (path : String)
  | http (address : String)
deriving DecidableEq, Inhabited

namespace Location

/-- The text behind `start`, if a text starts with it. -/
def after? (start s : String) : Option String :=
  if start.toList.isPrefixOf s.toList then
    some (String.ofList (s.toList.drop start.toList.length))
  else none

/-- Reads `memory`, `memory://`, `file://` with a path, or an address of a registry. -/
def read (s : String) : Result Location :=
  if s = "memory" ∨ s = "memory://" then .ok .memory
  else
    match after? "file://" s with
    | some "" => .error (.backend "file location needs a path")
    | some path => .ok (.file path)
    | none =>
      if (after? "http://" s).isSome || (after? "https://" s).isSome then
        .ok (.http (Text.dropTrailing '/' s))
      else .error (.backend ("unsupported directory location: " ++ s))

/-- What directories work on: a clock, a store in memory, a disk, and the network. -/
structure Surroundings (σ : Type) where
  clock : σ → Instant
  store : Part σ Store
  disk : Part σ Disk
  network : Http.Network σ

variable {σ : Type}

/-- Makes the folder of a file location and reports it. -/
def openFolder (around : Surroundings σ) (path : String) : Timed σ (Result (Directory σ)) := do
  let names := pathNames path
  let make (disk : Disk) := Disk.makeFolders disk names
  match ← Timed.update (around.disk.run (FolderStore.attempt make)) with
  | .error cause => return .error (.io cause)
  | .ok () =>
    Timed.report (.folderOpened path)
    return .ok (FolderStore.directory around.clock (around.disk.within (Disk.part names)))

/-- The directory at a location. `timeout` and `writeToken` are for registries only. -/
def directory (around : Surroundings σ) (timeout : Nat) (writeToken : Option String) :
    Location → Timed σ (Result (Directory σ))
  | .memory => return .ok (Store.directory around.clock around.store)
  | .file path => openFolder around path
  | .http address =>
    return .ok ((Remote.create around.network address timeout writeToken).directory around.clock)

end Location

end GatewayDirectory.Directory
