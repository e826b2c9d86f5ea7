import GatewayDirectory.Instant
import GatewayDirectory.Table

/-!
# The cache of ids

A cache holds the id last seen for a name and when it was seen. An id is fresh while its age is
below the time to live; a stale one reads as absent and stays until it is replaced or purged.
-/

namespace GatewayDirectory.Resolution

/-- An id and when it was seen. -/
structure Cached where
  id : String
  since : Instant
deriving DecidableEq, Inhabited

/-- Ids by name. -/
structure Cache where
  /-- How long an id stays fresh, in nanoseconds. -/
  ttl : Nat
  entries : Table Cached
deriving DecidableEq, Inhabited

namespace Cache

/-- The cache without ids. -/
def empty (ttl : Nat) : Cache := ⟨ttl, .empty⟩

/-- Whether an id seen at some time is fresh now. -/
def isFresh (c : Cache) (now : Instant) (x : Cached) : Bool := now.nanos - x.since.nanos < c.ttl

/-- The fresh id of a name. -/
def get? (c : Cache) (now : Instant) (name : String) : Option String :=
  match c.entries.get? name with
  | some x => if c.isFresh now x then some x.id else none
  | none => none

/-- Holds an id as seen now. -/
def insert (c : Cache) (now : Instant) (name id : String) : Cache :=
  { c with entries := c.entries.insert name ⟨id, now⟩ }

/-- The number of ids held, stale ones included. -/
def size (c : Cache) : Nat := c.entries.size

/-- Whether no id is held. -/
def isEmpty (c : Cache) : Bool := c.size == 0

/-- Drops the stale ids and tells how many there were. -/
def purge (c : Cache) (now : Instant) : Nat × Cache :=
  let kept : Cache := { c with entries := c.entries.filter fun _ x => c.isFresh now x }
  (c.size - kept.size, kept)

end Cache

end GatewayDirectory.Resolution
