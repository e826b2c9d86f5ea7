import GatewayDirectory.Directory.Basic
import GatewayDirectory.Part
import GatewayDirectory.Resolution.Cache

/-!
# Resolving names

A client answers names from a cache, which it fills from a primary directory or, failing that, from
a fallback. `lookup` looks into the cache only. `resolve` goes on to the directories when the cache
has nothing fresh. `refreshNow` goes to the directories always and copies what the primary holds
into the fallback. Every call to a directory is bounded in time, and no failure of one is passed on.
-/

namespace GatewayDirectory.Resolution

open Directory

/-- A client over a state that holds its cache. -/
structure Client (σ : Type) where
  primary : Directory σ
  fallback : Directory σ
  cache : Part σ Cache
  clock : σ → Instant
  /-- How long a call to a directory may take, in milliseconds. -/
  callTimeout : Nat

/-- A time as text: seconds if there are any, else milliseconds; no time at all is `0ns`. -/
def durationText (ms : Nat) : String :=
  if ms = 0 then "0ns"
  else if ms < 1000 then toString ms ++ "ms"
  else if ms % 1000 = 0 then toString (ms / 1000) ++ "s"
  else
    let digits := (Text.zeroPadded 3 (ms % 1000)).toList.reverse.dropWhile (· == '0')
    toString (ms / 1000) ++ "." ++ String.ofList digits.reverse ++ "s"

namespace Client

variable {σ : Type}

/-- A call cut off after the client's limit. -/
def bounded (c : Client σ) {α : Type} (call : Timed σ (Result α)) : Timed σ (Result α) := do
  match ← Timed.bounded c.callTimeout call with
  | some result => return result
  | none =>
    return .error (.backend ("directory call timed out after " ++ durationText c.callTimeout))

/-- The fresh id that the cache holds for a name. -/
def lookup (c : Client σ) (name : String) : Timed σ (Option String) := do
  let hit ← Timed.read fun s => (c.cache.get s).get? (c.clock s) name
  Timed.report (.cacheLookup name hit.isSome)
  return hit

/-- Holds an id in the cache. -/
def remember (c : Client σ) (name id : String) : Timed σ Unit :=
  Timed.modify fun s => c.cache.set ((c.cache.get s).insert (c.clock s) name id) s

/-- Fills the cache from the fallback. -/
def fillFromFallback (c : Client σ) (name : String) : Timed σ (Option String) := do
  match ← c.bounded (c.fallback (.get name)) with
  | .ok e =>
    c.remember name e.id
    return some e.id
  | .error e =>
    Timed.report (.fallbackUnusable name e.message)
    return none

/-- Fills the cache from the primary, which is then copied into the fallback, or else from the
fallback. Answers the id that the cache now holds. -/
def refreshNow (c : Client σ) (name : String) (token : Option String) :
    Timed σ (Option String) := do
  match ← c.bounded (c.primary (.get name)) with
  | .ok e =>
    c.remember name e.id
    match ← c.bounded (c.fallback (.putAuthorized name e.id token)) with
    | .ok _ => Timed.report (.replicated name e.id)
    | .error err => Timed.report (.replicationFailed name err.message)
    return some e.id
  | .error e =>
    Timed.report (if e.isNotFound then .primaryMissed name else .primaryFailed name e.message)
    c.fillFromFallback name

/-- The id of a name from the cache, the primary or the fallback, whichever has it first. -/
def resolve (c : Client σ) (name : String) : Timed σ (Option String) := do
  match ← c.lookup name with
  | some id => return some id
  | none =>
    match ← c.bounded (c.primary (.get name)) with
    | .ok e =>
      c.remember name e.id
      return some e.id
    | .error e =>
      if !e.isNotFound then Timed.report (.resolveFailed name e.message)
      c.fillFromFallback name

/-- Drops the stale ids of the cache and tells how many there were. -/
def purge (c : Client σ) : Timed σ Nat :=
  Timed.update fun s => c.cache.run (·.purge (c.clock s)) s

end Client

end GatewayDirectory.Resolution
