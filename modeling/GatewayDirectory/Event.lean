/-!
# Events

What the program reports while it works, one constructor for each kind of report. An event has a
level, a message, and named fields in a fixed order; `Event.text` is its line.
-/

namespace GatewayDirectory

/-- How much an event matters. -/
inductive Level where
  | debug
  | info
  | warn
  | error
deriving DecidableEq, Inhabited

/-- The name of a level. -/
def Level.text : Level → String
  | .debug => "DEBUG"
  | .info => "INFO"
  | .warn => "WARN"
  | .error => "ERROR"

/-- The value of a field. -/
inductive FieldValue where
  | text (value : String)
  | count (value : Nat)
  | flag (value : Bool)
deriving DecidableEq, Inhabited

/-- The value as it stands in a line. -/
def FieldValue.shown : FieldValue → String
  | .text s => s
  | .count n => toString n
  | .flag true => "true"
  | .flag false => "false"

/-- The phases of a discovery cycle, in order. -/
inductive Phase where
  | idle
  | scanning
  | deduping
  | filtering
  | saving
  | done
deriving DecidableEq, Inhabited

/-- The name of a phase. -/
def Phase.text : Phase → String
  | .idle => "idle"
  | .scanning => "scanning"
  | .deduping => "deduping"
  | .filtering => "filtering"
  | .saving => "saving"
  | .done => "done"

/-- Every phase, in order. -/
def Phase.all : List Phase := [.idle, .scanning, .deduping, .filtering, .saving, .done]

/-- The counts of a finished discovery cycle. -/
structure Totals where
  scanned : Nat
  duplicates : Nat
  filtered : Nat
  saved : Nat
  failed : Nat
  scanErrors : Nat
deriving DecidableEq, Inhabited

/-- A report of the program. -/
inductive Event where
  | folderOpened (root : String)
  | remoteWrite (gateway url : String)
  | authorizationUnread (gateway error : String)
  | writeRejected (gateway : String)
  | readFailed (gateway error : String)
  | gatewayUpdated (gateway id : String) (changes : Nat)
  | writeFailed (gateway error : String)
  | tokenWriteFailed (gateway error : String)
  | dumpFailed (error : String)
  | cacheLookup (gateway : String) (hit : Bool)
  | replicated (gateway id : String)
  | replicationFailed (gateway error : String)
  | primaryMissed (gateway : String)
  | primaryFailed (gateway error : String)
  | resolveFailed (gateway error : String)
  | fallbackUnusable (gateway error : String)
  | credentialsLoaded (path : String) (credentials : Nat)
  | reloadFailed (error : String)
  | duplicateDropped (gateway : String) (occurrences : Nat)
  | notListed (gateway credential : String)
  | directWrite (gateway : String) (changes : Nat)
  | envelopeDelivered (gateway sink : String)
  | webhookAccepted (gateway status : String)
  | cycleStarted (credentials : Nat) (sink : String) (dryRun : Bool)
  | cycleFinished (totals : Totals)
  | cycleTroubled (failed scanErrors : Nat)
  | cycleDone
  | phaseEntered (credential : String) (phase : Phase)
  | savingItems (credential : String) (items : Nat)
  | accountFailed (credential error : String)
  | accountTimedOut (credential : String)
  | scanAborted (credential error : String) (partialItems : Nat)
  | wouldSave (gateway id : String)
  | saved (gateway id : String) (attempts : Nat)
  | abandoned (gateway : String) (attempts : Nat) (error : String)
  | saveRetried (gateway : String) (attempt retry : Nat) (error : String)
  | agentStarted (credentials sink : String) (interval : Nat) (dryRun : Bool)
  | agentFinished (savedItems failed scanErrors : Nat)
  | registryStarted (backend : String) (hasToken : Bool)
  | registryListening (address : String)
deriving DecidableEq, Inhabited

namespace Event

/-- How much the event matters. -/
def level : Event → Level
  | folderOpened .. | remoteWrite .. | cacheLookup .. | primaryMissed .. | fallbackUnusable ..
  | notListed .. | directWrite .. | envelopeDelivered .. | webhookAccepted .. | cycleDone
  | phaseEntered .. | savingItems .. => .debug
  | gatewayUpdated .. | replicated .. | credentialsLoaded .. | cycleStarted .. | cycleFinished ..
  | wouldSave .. | saved .. | agentStarted .. | agentFinished .. | registryStarted ..
  | registryListening .. => .info
  | writeRejected .. | replicationFailed .. | primaryFailed .. | resolveFailed ..
  | duplicateDropped .. | cycleTroubled .. | saveRetried .. => .warn
  | authorizationUnread .. | readFailed .. | writeFailed .. | tokenWriteFailed .. | dumpFailed ..
  | reloadFailed .. | accountFailed .. | accountTimedOut .. | scanAborted .. | abandoned .. =>
    .error

/-- What the event says; some say all in their fields. -/
def message : Event → Option String
  | folderOpened .. => some "Opened file directory"
  | remoteWrite .. => some "Writing gateway to remote registry"
  | authorizationUnread .. => some "Failed to read gateway for authorization"
  | writeRejected .. => some "Rejected write with missing or incorrect token"
  | readFailed .. => some "Directory read failed"
  | gatewayUpdated .. => some "Gateway updated"
  | writeFailed .. => some "Directory write failed"
  | tokenWriteFailed .. => some "Token write failed"
  | dumpFailed .. => some "Directory dump failed"
  | cacheLookup .. => some "Cache lookup"
  | replicated .. => some "Refreshed and replicated"
  | replicationFailed .. => some "Replication to fallback failed"
  | primaryMissed .. => some "Primary miss, trying fallback"
  | primaryFailed .. => some "Primary read failed, trying fallback"
  | resolveFailed .. => some "Primary read failed during resolve"
  | fallbackUnusable .. => some "Fallback has no usable entry"
  | credentialsLoaded .. => some "Loaded credential configuration"
  | reloadFailed .. => some "Credential reload failed, keeping previous configuration"
  | duplicateDropped .. => some "Dropping gateway reported more than once"
  | notListed .. => some "Not in allow-list"
  | directWrite .. => some "Direct write applied"
  | envelopeDelivered .. => some "Envelope delivered"
  | webhookAccepted .. => some "Webhook accepted gateway"
  | cycleStarted .. => some "Starting discovery cycle"
  | cycleFinished .. => some "Discovery cycle complete"
  | cycleTroubled .. => some "Cycle finished with errors"
  | cycleDone => none
  | phaseEntered .. => none
  | savingItems .. => none
  | accountFailed .. => some "Account resolution failed, skipping credential"
  | accountTimedOut .. => some "Account resolution timed out, skipping credential"
  | scanAborted .. => some "Inventory scan aborted"
  | wouldSave .. => some "Would save"
  | saved .. => some "Saved gateway"
  | abandoned .. => some "Abandoning gateway after retries"
  | saveRetried .. => some "Save failed, retrying"
  | agentStarted .. => some "Starting Gateway Sync Agent"
  | agentFinished .. => some "Gateway sync finished"
  | registryStarted .. => some "Starting Gateway Registry"
  | registryListening address => some ("Registry listening on " ++ address)

/-- The fields of the event, in order. -/
def fields : Event → List (String × FieldValue)
  | folderOpened root => [("root", .text root)]
  | remoteWrite gateway url => [("gateway", .text gateway), ("url", .text url)]
  | authorizationUnread gateway error | readFailed gateway error | writeFailed gateway error
  | tokenWriteFailed gateway error | replicationFailed gateway error | primaryFailed gateway error
  | resolveFailed gateway error | fallbackUnusable gateway error =>
    [("gateway", .text gateway), ("error", .text error)]
  | writeRejected gateway | primaryMissed gateway => [("gateway", .text gateway)]
  | gatewayUpdated gateway id changes =>
    [("gateway", .text gateway), ("gateway_id", .text id), ("changes", .count changes)]
  | dumpFailed error | reloadFailed error => [("error", .text error)]
  | cacheLookup gateway hit => [("gateway", .text gateway), ("hit", .flag hit)]
  | replicated gateway id | wouldSave gateway id =>
    [("gateway", .text gateway), ("gateway_id", .text id)]
  | credentialsLoaded path credentials =>
    [("path", .text path), ("credentials", .count credentials)]
  | duplicateDropped gateway occurrences =>
    [("gateway", .text gateway), ("occurrences", .count occurrences)]
  | notListed gateway credential => [("gateway", .text gateway), ("credential", .text credential)]
  | directWrite gateway changes => [("gateway", .text gateway), ("changes", .count changes)]
  | envelopeDelivered gateway sink => [("gateway", .text gateway), ("sink", .text sink)]
  | webhookAccepted gateway status => [("gateway", .text gateway), ("status", .text status)]
  | cycleStarted credentials sink dryRun =>
    [("credentials", .count credentials), ("sink", .text sink), ("dry_run", .flag dryRun)]
  | cycleFinished t =>
    [("scanned", .count t.scanned), ("duplicates", .count t.duplicates),
      ("filtered", .count t.filtered), ("saved", .count t.saved), ("failed", .count t.failed),
      ("scan_errors", .count t.scanErrors)]
  | cycleTroubled failed scanErrors =>
    [("failed", .count failed), ("scan_errors", .count scanErrors)]
  | cycleDone => [("phase", .text Phase.done.text)]
  | phaseEntered credential phase => [("credential", .text credential), ("phase", .text phase.text)]
  | savingItems credential items =>
    [("credential", .text credential), ("phase", .text Phase.saving.text), ("items", .count items)]
  | accountFailed credential error => [("credential", .text credential), ("error", .text error)]
  | accountTimedOut credential => [("credential", .text credential)]
  | scanAborted credential error partialItems =>
    [("credential", .text credential), ("error", .text error), ("partial", .count partialItems)]
  | saved gateway id attempts =>
    [("gateway", .text gateway), ("gateway_id", .text id), ("attempts", .count attempts)]
  | abandoned gateway attempts error =>
    [("gateway", .text gateway), ("attempts", .count attempts), ("error", .text error)]
  | saveRetried gateway attempt retry error =>
    [("gateway", .text gateway), ("attempt", .count attempt), ("retry", .count retry),
      ("error", .text error)]
  | agentStarted credentials sink interval dryRun =>
    [("credentials", .text credentials), ("sink", .text sink), ("interval", .count interval),
      ("dry_run", .flag dryRun)]
  | agentFinished savedItems failed scanErrors =>
    [("saved", .count savedItems), ("failed", .count failed), ("scan_errors", .count scanErrors)]
  | registryStarted backend hasToken =>
    [("backend", .text backend), ("write_token", .flag hasToken)]
  | registryListening _ => []

/-- The line of the event: level, message, then each field with its name. -/
def text (e : Event) : String :=
  (e.fields.foldl (fun line (name, value) => line ++ " " ++ name ++ "=" ++ value.shown)
    (e.level.text ++ " " ++ e.message.getD ""))

end Event

end GatewayDirectory
