import GatewayDirectory.Decoding.Json
import GatewayDirectory.Directory.Basic
import GatewayDirectory.Http.Client

/-!
# The directory of another registry

A `Remote` makes each call a request to a registry and reads its reply. A reply tells name and id
only, so an entry that it stands for has no history of its own. A write carries the caller's token,
or else the remote's own.
-/

namespace GatewayDirectory

open Directory Http

/-- A registry reached over a network. -/
structure Remote (σ : Type) where
  network : Network σ
  /-- The address of the registry, without a slash at its end. -/
  base : String
  /-- How long a request may take, in milliseconds. -/
  timeout : Nat
  /-- The token sent with writes for which the caller gives none. -/
  writeToken : Option String

/-- The address of a gateway at a registry. -/
def gatewayAddress (base name : String) : String :=
  base ++ "/gateway/" ++ Text.Percent.encode name

/-- The message in the body of a failed response: the error of a reply, or all of the text. -/
def failureMessage (r : Response) : String :=
  match Json.decode Reply.decode r.text.toUTF8 with
  | .ok { error := some message, .. } => message
  | _ => r.text

namespace Remote

variable {σ : Type}

/-- A registry at an address; slashes at its end do not count. -/
def create (network : Network σ) (address : String) (timeout : Nat) (writeToken : Option String) :
    Remote σ :=
  ⟨network, Text.dropTrailing '/' address, timeout, writeToken⟩

/-- The error that a failed response stands for. -/
def errorOf (name : String) (r : Response) : Error :=
  if r.status = 404 then .notFound name
  else if r.status = 401 then .unauthorized
  else .backend ("registry returned " ++ statusText r.status ++ ": " ++ failureMessage r)

/-- A request whose response must succeed. -/
def request (r : Remote σ) (name method address : String) (body : Option Json) :
    Timed σ (Result Response) := do
  let (contentTypes, bytes) := match body with
    | some v => (["application/json"], (Json.compact v).toUTF8)
    | none => ([], ByteArray.empty)
  match ← r.network.exchange r.timeout method address contentTypes bytes with
  | .error failure => return .error (.http failure)
  | .ok response =>
    return if response.isSuccess then .ok response else .error (errorOf name response)

/-- What the body of a successful response denotes. -/
def readBody {α : Type} (read : Json → Except Decoding.Error α) (r : Response) : Result α :=
  match Json.decode read r.body with
  | .ok a => .ok a
  | .error _ => .error (.http .undecodableBody)

/-- The entry that a reply stands for. -/
def entryOf (now : Instant) (reply : Reply) : Entry := .create reply.name reply.id now

/-- The entry of a gateway. -/
def get (r : Remote σ) (clock : σ → Instant) (name : String) : Timed σ (Result Entry) := do
  match ← r.request name "GET" (gatewayAddress r.base name) none with
  | .error e => return .error e
  | .ok response =>
    match readBody Reply.decode response with
    | .error e => return .error e
    | .ok reply =>
      if reply.id = "" then return .error (.notFound name)
      else
        let now ← Timed.read clock
        return .ok { entryOf now reply with counter := 0 }

/-- Writes an id. -/
def put (r : Remote σ) (clock : σ → Instant) (name id : String) (token : Option String) :
    Timed σ (Result Entry) := do
  let payload : Payload := ⟨name, id, token.or r.writeToken⟩
  Timed.report (.remoteWrite name r.base)
  match ← r.request name "PUT" (gatewayAddress r.base name) (some payload.toJson) with
  | .error e => return .error e
  | .ok response =>
    match readBody Reply.decode response with
    | .error e => return .error e
    | .ok reply => return .ok (entryOf (← Timed.read clock) reply)

/-- Binds a token. -/
def putToken (r : Remote σ) (name token : String) (authorization : Option String) :
    Timed σ (Result Unit) := do
  let update : TokenUpdate := ⟨token, authorization.or r.writeToken⟩
  match ← r.request name "PUT" (gatewayAddress r.base name ++ "/token") (some update.toJson) with
  | .error e => return .error e
  | .ok _ => return .ok ()

/-- Every entry that the registry shows. -/
def dump (r : Remote σ) : Timed σ (Result (List Entry)) := do
  match ← r.request "*" "GET" (r.base ++ "/gateways") none with
  | .error e => return .error e
  | .ok response => return readBody (Decoding.list Entry.decode) response

/-- The directory of the registry. -/
def directory (r : Remote σ) (clock : σ → Instant) : Directory σ
  | .get name => r.get clock name
  | .put name id => r.put clock name id none
  | .putAuthorized name id token => r.put clock name id token
  | .putToken name token => r.putToken name token none
  | .putTokenAuthorized name token authorization => r.putToken name token authorization
  | .dump => r.dump

end Remote

end GatewayDirectory
