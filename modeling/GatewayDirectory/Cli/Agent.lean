import GatewayDirectory.Cli.Outcome
import GatewayDirectory.Sync.Schedule
import GatewayDirectory.Sync.Settings

/-!
# The agent command

`gateway-sync-agent` loads credentials and an inventory, builds a sink, and propagates what it
finds, once or in repeated cycles. Nothing is scanned unless all of the configuration can be used.
-/

namespace GatewayDirectory.Cli.Agent

open Directory Storage Sync

/-- The command line of the agent. -/
def spec : CommandSpec where
  name := "gateway-sync-agent"
  version := "0.1.0"
  options := [
    ⟨"credentials", .path, some "CREDENTIALS_FILE", none, true⟩,
    ⟨"inventory-file", .path, some "INVENTORY_FILE", none, true⟩,
    ⟨"sink", .choice (SinkKind.all.map SinkKind.text), some "SYNC_SINK", some "direct", false⟩,
    ⟨"directory", .text, some "DIRECTORY_URL", none, false⟩,
    ⟨"sink-url", .text, some "SINK_URL", none, false⟩,
    ⟨"topic", .text, some "SINK_TOPIC", none, false⟩,
    ⟨"write-token", .text, some "DIRECTORY_WRITE_TOKEN", none, false⟩,
    ⟨"retry", .positive, some "SYNC_RETRY", some "3", false⟩,
    ⟨"retry-interval", .natural, some "SYNC_RETRY_INTERVAL", some "2", false⟩,
    ⟨"interval", .natural, some "SYNC_INTERVAL", some "0", false⟩,
    ⟨"timeout", .natural, some "SYNC_TIMEOUT", some "10", false⟩]
  flags := [⟨"dry-run", none⟩, ⟨"verbose", some 'v'⟩]

/-- What the agent is asked to do. Times are in seconds. -/
structure Settings where
  credentials : String
  inventoryFile : String
  sink : SinkKind
  directory : Option String
  sinkUrl : Option String
  topic : Option String
  writeToken : Option String
  retry : Nat
  retryInterval : Nat
  interval : Nat
  timeout : Nat
  dryRun : Bool
  verbose : Bool
deriving DecidableEq, Inhabited

/-- The settings that checked values and flags stand for. -/
def Settings.ofValues (values : Table String) (flags : List String) : Settings :=
  let text (name : String) : String := (values.get? name).getD ""
  let number (name : String) : Nat := Text.digitsValue (text name).toList
  { credentials := text "credentials"
    inventoryFile := text "inventory-file"
    sink := (SinkKind.read? false (text "sink")).getD .direct
    directory := values.get? "directory"
    sinkUrl := values.get? "sink-url"
    topic := values.get? "topic"
    writeToken := values.get? "write-token"
    retry := number "retry"
    retryInterval := number "retry-interval"
    interval := number "interval"
    timeout := number "timeout"
    dryRun := flags.contains "dry-run"
    verbose := flags.contains "verbose" }

/-- The causes behind a configuration error, itself first. -/
def configCauses (e : ConfigError) : List String :=
  e.message :: match e with
    | .unread _ cause => [cause.message]
    | .malformed cause => [cause.message]
    | _ => []

/-- The causes behind a sink error, itself first. -/
def sinkCauses (e : SinkError) : List String :=
  e.message :: match e with
    | .directory cause => directoryCauses cause
    | _ => []

variable {σ : Type}

/-- Loads the credentials of a file and reports how many there are. -/
def loadCredentials (disk : Part σ Disk) (path : String) :
    Timed σ (Except ConfigError (List Credential)) := do
  match ← Timed.read fun s => Disk.readText (disk.get s) path with
  | .error cause => return .error (.unread path cause)
  | .ok yaml =>
    match parseCredentials yaml with
    | .error e => return .error e
    | .ok credentials =>
      Timed.report (.credentialsLoaded path credentials.length)
      return .ok credentials

/-- Loads the inventory of a file. -/
def loadInventory (disk : Disk) (path : String) : Except InventoryError Listing :=
  match Disk.readText disk path with
  | .error cause => .error (.snapshotUnread path cause)
  | .ok yaml => Listing.ofYaml yaml

/-- The settings of the agent's sink. -/
def Settings.sinkSettings (s : Settings) : SinkSettings :=
  ⟨s.sink, s.directory, s.sinkUrl, s.topic, s.writeToken, s.timeout * 1000⟩

/-- The pages of a scan after which it is given up as endless. -/
def pageBudget : Nat := 1000000

/-- The agent's propagator. -/
def Settings.propagator (s : Settings) (around : Location.Surroundings σ) (listing : Listing)
    (sink : Sink σ) : Propagator σ where
  accounts := .arn
  inventory := listing.inventory
  sink := sink
  options := ⟨s.retry, s.retryInterval * 1000, s.timeout * 1000, s.dryRun⟩
  clock := around.clock
  pageBudget := pageBudget

/-- Runs the agent; `cycles` bounds the number of repeated cycles. -/
def run (around : Location.Surroundings σ) (cycles : Nat) (s : Settings) : Timed σ Outcome := do
  Timed.report (.agentStarted s.credentials s.sink.text s.interval s.dryRun)
  match ← loadCredentials around.disk s.credentials with
  | .error e => return .failure "Invalid credential configuration" (configCauses e)
  | .ok credentials =>
    match loadInventory (← Timed.read around.disk.get) s.inventoryFile with
    | .error e => return .failure "Failed to load inventory snapshot" [e.message]
    | .ok listing =>
      match ← s.sinkSettings.build around with
      | .error e => return .failure "Failed to build sink" (sinkCauses e)
      | .ok sink =>
        let p := s.propagator around listing sink
        let reload := loadCredentials around.disk s.credentials
        let report ← p.run (s.interval * 1000) reload cycles credentials
        let o := report.outcome
        Timed.report (.agentFinished o.saved o.failed o.scanErrors)
        return .success

end GatewayDirectory.Cli.Agent
