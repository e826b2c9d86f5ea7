import GatewayDirectory.Directory.Basic
import GatewayDirectory.Name
import GatewayDirectory.Part
import GatewayDirectory.Table

/-!
# The store in memory

A `Store` is a table of entries by name. Every call is one step on it. It leaves authorization to
others, so the tokens of authorized calls are not looked at.
-/

namespace GatewayDirectory

/-- Entries by gateway name. -/
abbrev Store := Table Entry

namespace Store

open Directory

/-- The entry of a gateway. -/
def get (s : Store) (name : String) : Result Entry :=
  match s.get? name with
  | some e => .ok e
  | none => .error (.notFound name)

/-- The entry that a write of an id leaves for a gateway. -/
def written (s : Store) (now : Instant) (name id : String) : Entry :=
  match s.get? name with
  | some e => e.update id now
  | none => .create name id now

/-- Writes an id. The name must be valid and the id not empty. -/
def put (s : Store) (now : Instant) (name id : String) : Result Entry × Store :=
  if !isValidName name then (.error (.invalidName name), s)
  else if id = "" then (.error .emptyId, s)
  else
    let e := s.written now name id
    (.ok e, s.insert name e)

/-- Binds a token to an entry that exists. -/
def putToken (s : Store) (name token : String) : Result Unit × Store :=
  match s.get? name with
  | some e => (.ok (), s.insert name (e.bind token))
  | none => (.error (.notFound name), s)

/-- Every entry, in the order of the names. -/
def dump (s : Store) : List Entry := s.values

/-- Answers a call at a point of time. -/
def answer (now : Instant) (c : Call) (s : Store) : Result c.Answer × Store :=
  match c with
  | .get name => (s.get name, s)
  | .put name id | .putAuthorized name id _ => s.put now name id
  | .putToken name token | .putTokenAuthorized name token _ => s.putToken name token
  | .dump => (.ok s.dump, s)

/-- The directory over a store that is part of a state with a clock. -/
def directory {σ : Type} (clock : σ → Instant) (store : Part σ Store) : Directory σ := fun c =>
  Timed.update fun s => store.run (answer (clock s) c) s

end Store

end GatewayDirectory
