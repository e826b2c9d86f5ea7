import GatewayDirectory.Sync.Cycle

/-!
# Repeated cycles

Cycles start one period apart, counted from the start of the one before. A cycle that lasts longer
than the period delays the next, which then starts at once; if that is more than `tolerance` late,
the periods are counted from it. Credentials are reloaded before every cycle but the first, and a
reload that fails keeps those of before.
-/

namespace GatewayDirectory.Sync

/-- How late a start may be, in milliseconds, for the periods to be kept. -/
def tolerance : Nat := 5

/-- When the next cycle is due, given when this one was due and when it started. -/
def nextDue (period due started : Nat) : Nat :=
  if due + tolerance < started then started + period else due + period

namespace Propagator

variable {σ : Type}

/-- The credentials after a reload. -/
def reloaded (reload : Timed σ (Except ConfigError (List Credential)))
    (credentials : List Credential) : Timed σ (List Credential) := do
  match ← reload with
  | .ok fresh => return fresh
  | .error e =>
    Timed.report (.reloadFailed e.message)
    return credentials

/-- Runs cycles from the one that is due at a time; `budget` cycles are run before the computation
is given up as endless. -/
def repeatCycles (p : Propagator σ) (period : Nat)
    (reload : Timed σ (Except ConfigError (List Credential))) :
    (budget due : Nat) → (first : Bool) → List Credential → Timed σ Report
  | 0, _, _, _ => Timed.endless
  | budget + 1, due, first, credentials =>
    .clock fun now => do
      if now < due then Timed.sleep (due - now)
      let credentials ← if first then pure credentials else reloaded reload credentials
      let report ← p.runCycle credentials
      if !report.success then
        Timed.report (.cycleTroubled report.outcome.failed report.outcome.scanErrors)
      repeatCycles p period reload budget (nextDue period due (max now due)) false credentials

/-- Runs one cycle if the period is zero, and cycles without end otherwise. -/
def run (p : Propagator σ) (period : Nat) (reload : Timed σ (Except ConfigError (List Credential)))
    (budget : Nat) (credentials : List Credential) : Timed σ Report :=
  if period = 0 then p.runCycle credentials
  else .clock fun now => p.repeatCycles period reload budget now true credentials

end Propagator

end GatewayDirectory.Sync
