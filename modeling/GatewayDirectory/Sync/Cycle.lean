import GatewayDirectory.Sync.Account
import GatewayDirectory.Sync.Inventory
import GatewayDirectory.Sync.Pipeline
import GatewayDirectory.Sync.Sink

/-!
# Discovery cycles

A cycle goes through the credentials in order. For each it finds the account, collects the pages of
the inventory, prepares the items and saves them, with a limited number of attempts each. A failure
stays with the item or credential that met it. What came of a credential is an `Outcome`; outcomes
add up to the report of the cycle.
-/

namespace GatewayDirectory.Sync

/-- How items are propagated. Times are in milliseconds. -/
structure Options where
  /-- Attempts to save an item; zero counts as one. -/
  retry : Nat
  /-- Pause between attempts. -/
  retryInterval : Nat
  /-- How long a page, an account or a save may take. -/
  callTimeout : Nat
  /-- Whether everything is done but the saves. -/
  dryRun : Bool
deriving DecidableEq, Inhabited

/-- The usual options. -/
def Options.usual : Options := ⟨3, 2000, 10000, false⟩

/-- What finds accounts. -/
abbrev AccountResolver (σ : Type) := Credential → Timed σ (Except AccountError String)

/-- Finds the account in the role's resource name. -/
def AccountResolver.arn {σ : Type} : AccountResolver σ := fun c => return accountOfArn c.role

/-- What propagates items. -/
structure Propagator (σ : Type) where
  accounts : AccountResolver σ
  inventory : Inventory σ
  sink : Sink σ
  options : Options
  clock : σ → Instant
  /-- The pages of a scan after which it is given up as endless. -/
  pageBudget : Nat

/-- What came of some credentials or items. -/
structure Outcome where
  scanned : Nat
  duplicates : Nat
  filtered : Nat
  saved : Nat
  failed : Nat
  scanErrors : Nat
  /-- What went wrong, in order. -/
  errors : List String
deriving DecidableEq, Inhabited

namespace Outcome

/-- Nothing happened. -/
def none : Outcome := ⟨0, 0, 0, 0, 0, 0, []⟩

/-- What came of two parts, one after the other. -/
def add (a b : Outcome) : Outcome :=
  ⟨a.scanned + b.scanned, a.duplicates + b.duplicates, a.filtered + b.filtered, a.saved + b.saved,
    a.failed + b.failed, a.scanErrors + b.scanErrors, a.errors ++ b.errors⟩

/-- An item was saved. -/
def ofSaved : Outcome := { none with saved := 1 }

/-- An item was given up. -/
def ofFailed (error : String) : Outcome := { none with failed := 1, errors := [error] }

/-- A credential could not be scanned, or not in full. -/
def ofScanError (error : String) : Outcome := { none with scanErrors := 1, errors := [error] }

/-- The counts alone. -/
def totals (o : Outcome) : Totals :=
  ⟨o.scanned, o.duplicates, o.filtered, o.saved, o.failed, o.scanErrors⟩

end Outcome

/-- The report of a cycle. -/
structure Report where
  startedAt : Instant
  /-- How many credentials were gone through. -/
  credentials : Nat
  outcome : Outcome
deriving DecidableEq, Inhabited

namespace Report

/-- Whether nothing failed. -/
def success (r : Report) : Bool := r.outcome.failed == 0 && r.outcome.scanErrors == 0

/-- The report as an object. -/
def toJson (r : Report) : Json :=
  let count (n : Nat) : Json := .number (.int n)
  .object [("started_at", .string r.startedAt.text), ("credentials", count r.credentials),
    ("scanned", count r.outcome.scanned), ("duplicates", count r.outcome.duplicates),
    ("filtered", count r.outcome.filtered), ("saved", count r.outcome.saved),
    ("failed", count r.outcome.failed), ("scan_errors", count r.outcome.scanErrors),
    ("errors", .array (r.outcome.errors.map .string))]

end Report

namespace Propagator

variable {σ : Type}

/-- Attempts to save an item until one succeeds, `left` more after this one. -/
def attemptSave (p : Propagator σ) (item : SyncItem) :
    (left attempt : Nat) → Timed σ (Except SinkError Nat)
  | left, attempt => do
    let answer ← Timed.bounded p.options.callTimeout (p.sink.save item.key item.id item.token)
    -- a save that is cut off is a failed attempt like any other
    match answer.getD (.error .timeout) with
    | .ok () => return .ok attempt
    | .error e =>
      match left with
      | 0 => return .error e
      | left + 1 =>
        Timed.report (.saveRetried item.key attempt (max p.options.retry 1) e.message)
        Timed.sleep p.options.retryInterval
        attemptSave p item left (attempt + 1)

/-- Saves an item, and answers the number of the attempt that succeeded. -/
def saveWithRetry (p : Propagator σ) (item : SyncItem) : Timed σ (Except SinkError Nat) :=
  p.attemptSave item (max p.options.retry 1 - 1) 1

/-- Saves an item, or only says so on a dry run. -/
def saveItem (p : Propagator σ) (item : SyncItem) : Timed σ Outcome :=
  if p.options.dryRun then do
    Timed.report (.wouldSave item.key item.id)
    return .ofSaved
  else do
    match ← p.saveWithRetry item with
    | .ok attempts =>
      Timed.report (.saved item.key item.id attempts)
      return .ofSaved
    | .error e =>
      Timed.report (.abandoned item.key (max p.options.retry 1) e.message)
      return .ofFailed (item.key ++ ": " ++ e.message)

/-- Saves items in order. -/
def saveItems (p : Propagator σ) : List SyncItem → Timed σ Outcome
  | [] => return .none
  | item :: rest => do
    let first ← p.saveItem item
    return first.add (← saveItems p rest)

/-- What a scan collected, and why it ended early if it did. -/
structure Scan where
  items : List Item
  error : Option InventoryError
deriving DecidableEq, Inhabited

/-- Collects pages from the one that `token` names; the page after it must have another token. -/
def scanFrom (p : Propagator σ) (c : Credential) :
    (budget : Nat) → (token : Option String) → Timed σ Scan
  | 0, _ => Timed.endless
  | budget + 1, token => do
    match ← Timed.bounded p.options.callTimeout (p.inventory c token) with
    | none => return ⟨[], some .timeout⟩
    | some (.error e) => return ⟨[], some e⟩
    | some (.ok page) =>
      match page.next with
      | none => return ⟨page.items, none⟩
      | some next =>
        -- the same page would come again and again
        if token = some next then
          let message := "page token " ++ Text.quoted next ++ " repeated"
          return ⟨page.items, some (.page c.role message)⟩
        else
          let rest ← scanFrom p c budget (some next)
          return { rest with items := page.items ++ rest.items }

/-- Collects all pages of a credential. -/
def scan (p : Propagator σ) (c : Credential) : Timed σ Scan := p.scanFrom c p.pageBudget none

/-- Prepares and saves what a scan of a credential found. -/
def propagateItems (p : Propagator σ) (c : Credential) (account : String) (items : List Item) :
    Timed σ Outcome := do
  Timed.report (.phaseEntered c.role .deduping)
  let deduped := dedup items
  Timed.reportAll (dedupEvents items)
  Timed.report (.phaseEntered c.role .filtering)
  let (prepared, filtered) := prepare deduped.unique c account
  Timed.reportAll (prepareEvents deduped.unique c)
  Timed.report (.savingItems c.role prepared.length)
  let outcome ← p.saveItems prepared
  return { Outcome.none with
    scanned := items.length, duplicates := deduped.duplicates.length, filtered }.add outcome

/-- Scans a credential and propagates what it found. -/
def propagateScan (p : Propagator σ) (c : Credential) (account : String) : Timed σ Outcome := do
  Timed.report (.phaseEntered c.role .scanning)
  let found ← p.scan c
  match found.error with
  | none => p.propagateItems c account found.items
  | some e =>
    Timed.report (.scanAborted c.role e.message found.items.length)
    -- the pages before the fault are propagated all the same
    return (Outcome.ofScanError (c.role ++ ": " ++ e.message)).add
      (← p.propagateItems c account found.items)

/-- Propagates a credential. -/
def propagate (p : Propagator σ) (c : Credential) : Timed σ Outcome := do
  match ← Timed.bounded p.options.callTimeout (p.accounts c) with
  | some (.ok account) => p.propagateScan c account
  | some (.error e) =>
    Timed.report (.accountFailed c.role e.message)
    return .ofScanError (c.role ++ ": " ++ e.message)
  | none =>
    Timed.report (.accountTimedOut c.role)
    return .ofScanError (c.role ++ ": account resolution timed out")

/-- Propagates credentials in order, and counts them. -/
def propagateAll (p : Propagator σ) : List Credential → Timed σ (Nat × Outcome)
  | [] => return (0, .none)
  | c :: rest => do
    let first ← p.propagate c
    let (passed, others) ← propagateAll p rest
    return (passed + 1, first.add others)

/-- One pass over the credentials. -/
def runCycle (p : Propagator σ) (credentials : List Credential) : Timed σ Report := do
  let startedAt ← Timed.read p.clock
  Timed.report (.cycleStarted credentials.length p.sink.kind.text p.options.dryRun)
  let (passed, outcome) ← p.propagateAll credentials
  Timed.report (.cycleFinished outcome.totals)
  Timed.report .cycleDone
  return ⟨startedAt, passed, outcome⟩

end Propagator

end GatewayDirectory.Sync
