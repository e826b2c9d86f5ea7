import GatewayDirectory.Cli.Agent
import GatewayDirectory.Cli.Log
import GatewayDirectory.Cli.RegistryServer
import GatewayDirectory.Timed.Pool
import Std.Time.DateTime.Timestamp

/-!
# The commands

`main` runs the command that its first argument names: `registry` or `agent`. Between two waits a
command is a function of the files it can see, so it is run in bursts: the files are read, the burst
is computed, its events are printed, and the files it changed are written. No sockets are opened, so
no address can be listened on and no registry be reached.
-/

namespace GatewayDirectory.Cli

open Directory Storage

/-- What a command works on. -/
structure World where
  now : Instant
  disk : Disk
  store : Store

/-- The parts of the world that directories work on. -/
def surroundings : Location.Surroundings World where
  clock := World.now
  store := ⟨World.store, fun store w => { w with store }⟩
  disk := ⟨World.disk, fun disk w => { w with disk }⟩
  network := .unreachable

/-- The time of the system. -/
def systemTime : IO Instant := do
  let nanos := (← Std.Time.Timestamp.now).toNanosecondsSinceUnixEpoch.val
  return ⟨Int.fdiv nanos 1000000000, (Int.fmod nanos 1000000000).toNat⟩

/-- The places that a command may use: files that it reads, and the folder of its directory. -/
structure Places where
  files : List String
  folder : Option String

/-- The disk with a file as the system has it; a path where no file can be read stays as it is. -/
def loadFile (disk : Disk) (path : String) : IO Disk := do
  match ← (IO.FS.readBinFile path).toBaseIO with
  | .ok content => return Disk.put disk (.file content) (pathNames path)
  | .error _ => return disk

/-- The paths of the folders along a path, itself last. -/
def pathsAlong (path : String) : List String :=
  let cs := path.toList
  (List.range (cs.length + 1)).filterMap fun n =>
    if (cs.drop n).head?.getD '/' = '/' ∧ 0 < n then some (String.ofList (cs.take n)) else none

/-- The disk with the files of a command, among them the documents with these names. -/
def loadDisk (places : Places) (documents : List String) : IO Disk := do
  let folders := (places.folder.map pathsAlong).getD []
  let inFolder := places.folder.toList.flatMap fun folder => documents.map (folder ++ "/" ++ ·)
  (places.files ++ folders ++ inFolder).foldlM loadFile Table.empty

/-- The documents that a disk holds in a folder. -/
def documentsOf (places : Places) (disk : Disk) : Folder :=
  match places.folder with
  | some folder => (Disk.folder? disk (pathNames folder)).getD .empty
  | none => .empty

/-- Writes the documents of a folder, each beside its place and then into it. -/
def saveFolder (path : String) (documents : Folder) : IO Unit := do
  IO.FS.createDirAll path
  for (name, node) in documents.toList do
    match node with
    | .file content =>
      let place := path ++ "/" ++ name
      IO.FS.writeBinFile (place ++ ".tmp") content
      IO.FS.rename (place ++ ".tmp") place
    | .folder _ => pure ()

/-- Computes a command up to its next wait. The documents that it writes are those that it needs to
see, so it is computed anew until it has seen them all. -/
partial def burst {α : Type} (places : Places) (work : Timed World α) (time : Nat) (store : Store)
    (seen : List String) : IO (Timed.Paused World α × World × List Event) := do
  let world : World := ⟨← systemTime, ← loadDisk places seen, store⟩
  let (paused, after, events) := work.advance time world
  let written := (documentsOf places after.disk).keys
  if written.all seen.contains then return (paused, after, events)
  else burst places work time store written

/-- Runs a command to its end. -/
partial def perform {α : Type} (places : Places) (isVerbose : Bool) (work : Timed World α)
    (time : Nat) (store : Store) : IO (Timed.Ending α) := do
  let (paused, world, events) ← burst places work time store []
  for e in shownEvents isVerbose events do
    IO.println (logLine world.now e)
  match places.folder with
  | some path =>
    if (Disk.folder? world.disk (pathNames path)).isSome then
      saveFolder path (documentsOf places world.disk)
  | none => pure ()
  match paused with
  | .ended ending => return ending
  | .waiting ms next =>
    IO.sleep ms.toUInt32
    perform places isVerbose next (time + ms) world.store

/-- The folder of a location that is one. -/
def folderOf (location : Option String) : Option String :=
  match location.map Location.read with
  | some (.ok (.file path)) => some path
  | _ => none

/-- Prints what is left to say and answers the exit code. -/
def finish (outcome : Outcome) : IO UInt32 := do
  for line in outcome.printed do IO.println line
  for line in outcome.complaints do IO.eprintln line
  return outcome.code.toUInt32

/-- Runs a command whose work depends on its values and flags. -/
def execute (spec : CommandSpec) (args : List String)
    (work : Table String → List String → Places × Timed World Outcome) : IO UInt32 := do
  let environment ← (spec.options.filterMap (·.environment?)).filterMapM fun name => do
    return (← IO.getEnv name).map fun value => (name, value)
  match spec.read (fun name => (environment.find? (·.1 == name)).map (·.2)) args with
  | .error e => finish (.usage e)
  | .ok .version => finish (.version spec)
  | .ok (.run values flags) =>
    let (places, work) := work values flags
    match ← perform places (flags.contains "verbose") work 0 .empty with
    | .value outcome => finish outcome
    | _ => return 1

/-- The work of the agent. -/
def agentWork (values : Table String) (flags : List String) : Places × Timed World Outcome :=
  let settings := Agent.Settings.ofValues values flags
  (⟨[settings.credentials, settings.inventoryFile], folderOf settings.directory⟩,
    Agent.run surroundings 1000000000 settings)

/-- The work of the registry up to its first request. -/
def registryWork (values : Table String) (flags : List String) : Places × Timed World Outcome :=
  let settings := RegistryServer.Settings.ofValues values flags
  (⟨[], folderOf (some settings.backend)⟩,
    RegistryServer.start surroundings (fun _ => .error .permissionDenied) settings)

end GatewayDirectory.Cli

open GatewayDirectory.Cli in
/-- Runs the command that the first argument names with the arguments that follow. -/
def main (args : List String) : IO UInt32 :=
  match args with
  | "registry" :: rest => execute RegistryServer.spec rest registryWork
  | "agent" :: rest => execute Agent.spec rest agentWork
  | _ => do
    IO.eprintln "error: a command is required: registry or agent"
    return 2
