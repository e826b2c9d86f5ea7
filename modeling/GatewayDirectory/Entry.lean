import GatewayDirectory.Decoding.Basic
import GatewayDirectory.Instant
import GatewayDirectory.Json.Writer

/-!
# Entries and what is sent about them

An `Entry` is what a directory holds for a gateway. `Payload`, `TokenUpdate` and `Reply` are the
bodies of requests and answers. Each is written as a JSON object that leaves out what is not set,
and read from any `Source`.
-/

namespace GatewayDirectory

open Decoding

/-- What a directory holds for a gateway. -/
structure Entry where
  name : String
  id : String
  /-- How many writes of an id made the entry what it is, counted in a word of 64 bits. -/
  counter : UInt64
  lastUpdate : Instant
  /-- The token that authorizes writes to this entry; readers never see it. -/
  token : Option String
deriving DecidableEq, Inhabited

/-- What is written for a gateway: its name, its id and the token that authorizes the write. -/
structure Payload where
  name : String
  id : String
  token : Option String
deriving DecidableEq, Inhabited

/-- A token to bind to a gateway, and the token that authorizes it. -/
structure TokenUpdate where
  token : String
  writeToken : Option String
deriving DecidableEq, Inhabited

/-- The answer about a gateway. -/
structure Reply where
  name : String
  id : String
  error : Option String
deriving DecidableEq, Inhabited

/-- A member of an object, left out when there is no value. -/
def optionalMember (name : String) : Option String → List (String × Json)
  | some s => [(name, .string s)]
  | none => []

/-- A text, or null. -/
def Json.ofOption : Option String → Json
  | some s => .string s
  | none => .null

namespace Entry

/-- The number of writes that the counter shows. -/
def changes (e : Entry) : Nat := e.counter.toNat

/-- The entry that the first write of an id makes. -/
def create (name id : String) (now : Instant) : Entry := ⟨name, id, 1, now, none⟩

/-- The entry after a further write of an id. -/
def update (e : Entry) (id : String) (now : Instant) : Entry :=
  { e with id, counter := e.counter + 1, lastUpdate := now }

/-- The entry with `token` bound to it. -/
def bind (e : Entry) (token : String) : Entry := { e with token := some token }

/-- What readers may see of the entry. -/
def redacted (e : Entry) : Entry := { e with token := none }

/-- The entry as an object. -/
def toJson (e : Entry) : Json :=
  .object ([("gateway_name", .string e.name), ("gateway_id", .string e.id),
    ("changes", .number (.int e.changes)), ("last_update", .string e.lastUpdate.text)] ++
    optionalMember "token" e.token)

/-- An instant in RFC 3339 form. -/
def readInstant {V : Type} [Source V] (v : V) : Except Decoding.Error Instant := do
  match Instant.read? (← Source.text .instant v) with
  | some t => .ok t
  | none => .error .malformed

/-- Reads an entry. -/
def decode {V : Type} [Source V] (v : V) : Except Decoding.Error Entry := do
  let fs ← record "DirectoryEntry"
    [.string "gateway_name", .string "gateway_id",
      ⟨"changes", fun v => do discard (Source.count v)⟩,
      ⟨"last_update", fun v => do discard (readInstant v)⟩, .optionalString "token"] v
  let required {α : Type} (name : String) (read : V → Except Decoding.Error α) :=
    fs.required "DirectoryEntry" 5 name read
  return {
    name := ← required "gateway_name" string
    id := ← required "gateway_id" string
    counter := UInt64.ofNat (← required "changes" Source.count)
    lastUpdate := ← required "last_update" readInstant
    token := ← fs.default none "token" optionalString }

end Entry

namespace Payload

/-- The payload as an object. -/
def toJson (p : Payload) : Json :=
  .object ([("gateway_name", .string p.name), ("gateway_id", .string p.id)] ++
    optionalMember "token" p.token)

/-- Reads a payload; every field may be left out. -/
def decode {V : Type} [Source V] (v : V) : Except Decoding.Error Payload := do
  let fs ← record "GatewayPayload"
    [.string "gateway_name", .string "gateway_id", .optionalString "token"] v
  return {
    name := ← fs.default "" "gateway_name" string
    id := ← fs.default "" "gateway_id" string
    token := ← fs.default none "token" optionalString }

end Payload

namespace TokenUpdate

/-- The update as an object. -/
def toJson (u : TokenUpdate) : Json :=
  .object ([("token", .string u.token)] ++ optionalMember "write_token" u.writeToken)

/-- Reads an update; the token must be given. -/
def decode {V : Type} [Source V] (v : V) : Except Decoding.Error TokenUpdate := do
  let fs ← record "TokenUpdate" [.string "token", .optionalString "write_token"] v
  return {
    token := ← fs.required "TokenUpdate" 2 "token" string
    writeToken := ← fs.default none "write_token" optionalString }

end TokenUpdate

namespace Reply

/-- The answer that a gateway is known under an id. -/
def found (name id : String) : Reply := ⟨name, id, none⟩

/-- The answer that something went wrong. -/
def failure (name message : String) : Reply := ⟨name, "", some message⟩

/-- The reply as an object. -/
def toJson (r : Reply) : Json :=
  .object ([("gateway_name", .string r.name), ("gateway_id", .string r.id)] ++
    optionalMember "error" r.error)

/-- Reads a reply; the name must be given. -/
def decode {V : Type} [Source V] (v : V) : Except Decoding.Error Reply := do
  let fs ← record "GatewayReply"
    [.string "gateway_name", .string "gateway_id", .optionalString "error"] v
  return {
    name := ← fs.required "GatewayReply" 3 "gateway_name" string
    id := ← fs.default "" "gateway_id" string
    error := ← fs.default none "error" optionalString }

end Reply

end GatewayDirectory
