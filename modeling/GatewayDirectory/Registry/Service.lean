import GatewayDirectory.Decoding.Json
import GatewayDirectory.Decoding.Yaml
import GatewayDirectory.Directory.Basic
import GatewayDirectory.Name
import GatewayDirectory.Registry.Authorization
import GatewayDirectory.Registry.Route

/-!
# The registry

The registry answers requests about gateways from a directory. `Service.handle` is its whole
behaviour: the route, the body, the authorization and the directory's answer decide the response. A
write first reads the entry to authorize, and then makes one further call.
-/

namespace GatewayDirectory.Registry

open Directory Http

/-- A registry over a directory. -/
structure Service (σ : Type) where
  directory : Directory σ
  /-- The token that authorizes every write. -/
  sharedToken : Option String

/-- The longest body of a request, in bytes. -/
def maxBodyBytes : Nat := 2097152

/-- The version that the registry reports. -/
def version : String := "0.1.0"

/-- The message for a name that is not valid. -/
def malformedName : String := "malformed gateway name"

/-- The response that reports what went wrong with a gateway. -/
def failure (status : Nat) (name message : String) : Response :=
  .json status (Json.compact (Reply.failure name message).toJson)

/-- The response that reports the id of a gateway. -/
def found (name id : String) : Response := .json 200 (Json.compact (Reply.found name id).toJson)

/-- Whether the Content-Type of a request names YAML. Only the first header counts, if it is visible
ASCII, up to a semicolon. -/
def isYaml (contentTypes : List String) : Bool :=
  match contentTypes with
  | [] => false
  | value :: _ =>
    let cs := value.toList
    if cs.all fun c => c = '\t' || (0x20 ≤ c.toNat && c.toNat < 0x7f) then
      let kind := Text.skipBlanks (cs.takeWhile (· != ';'))
      let kind := String.ofList (Text.skipBlanks kind.reverse).reverse
      kind == "application/yaml" || kind == "application/x-yaml" || kind == "text/yaml"
    else false

/-- What the body of a request denotes. -/
def decodeBody {α : Type} (fromYaml : Yaml.Place → Except Decoding.Error α)
    (fromJson : Json → Except Decoding.Error α) (r : Request) : Except Decoding.Error α :=
  if isYaml r.contentTypes then Yaml.decodeBytes fromYaml r.body else Json.decode fromJson r.body

namespace Service

variable {σ : Type}

/-- A registry whose shared token counts only if it is not empty. -/
def create (directory : Directory σ) (sharedToken : Option String) : Service σ :=
  ⟨directory, effective sharedToken⟩

/-- The response to a question about the registry's health. -/
def health : Response :=
  .json 200 (Json.compact (.object [("service", .string "gateway-registry"),
    ("status", .string "healthy"), ("version", .string version)]))

/-- Answers with the id of a gateway. -/
def getGateway (s : Service σ) (name : String) : Timed σ Response :=
  if !isValidName name then return failure 400 name malformedName
  else do
    match ← s.directory (.get name) with
    | .ok e => return found e.name e.id
    | .error (.notFound n) => return failure 404 name (Error.notFound n).message
    | .error e =>
      Timed.report (.readFailed name e.message)
      return failure 500 name e.message

/-- Reads the entry of a gateway and decides whether a write may go on; `some` is the refusal. -/
def authorize (s : Service σ) (name : String) (supplied : Option String) :
    Timed σ (Option Response) := do
  let entry ← s.directory (.get name)
  -- a gateway that is not there yet has no token of its own
  let token : Result (Option String) :=
    match entry with
    | .ok e => .ok e.token
    | .error (.notFound _) => .ok none
    | .error e => .error e
  match token with
  | .error e =>
    Timed.report (.authorizationUnread name e.message)
    return some (failure 500 name e.message)
  | .ok token =>
    if isAuthorized s.sharedToken token supplied then return none
    else
      Timed.report (.writeRejected name)
      return some (failure 401 name Error.unauthorized.message)

/-- Writes the id of a gateway. The name is that of the path, whatever the body says. -/
def putGateway (s : Service σ) (name : String) (r : Request) : Timed σ Response :=
  if !isValidName name then return failure 400 name malformedName
  else
    match decodeBody Payload.decode Payload.decode r with
    | .error e => return failure 400 name ("malformed body: " ++ e.message)
    | .ok payload =>
      if payload.id = "" then return failure 400 name Error.emptyId.message
      else do
        match ← s.authorize name payload.token with
        | some refusal => return refusal
        | none =>
          match ← s.directory (.put name payload.id) with
          | .ok e =>
            Timed.report (.gatewayUpdated name e.id e.changes)
            return found e.name e.id
          | .error e =>
            Timed.report (.writeFailed name e.message)
            return failure 500 name e.message

/-- Binds a token to a gateway. -/
def putToken (s : Service σ) (name : String) (r : Request) : Timed σ Response :=
  if !isValidName name then return failure 400 name malformedName
  else
    match decodeBody TokenUpdate.decode TokenUpdate.decode r with
    | .error e => return failure 400 name ("malformed body: " ++ e.message)
    | .ok update =>
      if update.token = "" then return failure 400 name "token must not be empty"
      else do
        match ← s.authorize name update.writeToken with
        | some refusal => return refusal
        | none =>
          match ← s.directory (.putToken name update.token) with
          | .ok () => return .empty 204
          | .error (.notFound n) => return failure 404 name (Error.notFound n).message
          | .error e =>
            Timed.report (.tokenWriteFailed name e.message)
            return failure 500 name e.message

/-- Answers with every entry, without its token. -/
def dump (s : Service σ) : Timed σ Response := do
  match ← s.directory .dump with
  | .ok entries => return .json 200 (Json.compact (.array (entries.map fun e => e.redacted.toJson)))
  | .error e =>
    Timed.report (.dumpFailed e.message)
    return .json 500 (Json.compact (.object [("error", .string e.message)]))

/-- Goes on with the name that a segment stands for. -/
def withName (segment : String) (next : String → Timed σ Response) : Timed σ Response :=
  match segmentName? segment with
  | some name => next name
  | none => return .plain 400 "Invalid URL: Invalid UTF-8 in \x60name\x60"

/-- Goes on unless the body is too long. -/
def withBody (r : Request) (next : Timed σ Response) : Timed σ Response :=
  if maxBodyBytes < r.body.size then
    return .plain 413 "Failed to buffer the request body: length limit exceeded"
  else next

/-- Answers a request other than HEAD. -/
def dispatch (s : Service σ) (route : Route) (r : Request) : Timed σ Response :=
  match route with
  | .health => if r.method = "GET" then return health else return .methodNotAllowed route.allow
  | .gateways => if r.method = "GET" then s.dump else return .methodNotAllowed route.allow
  | .gateway segment =>
    if r.method = "GET" then withName segment s.getGateway
    else if r.method = "PUT" then withName segment fun name => withBody r (s.putGateway name r)
    else return .methodNotAllowed route.allow
  | .gatewayToken segment =>
    if r.method = "PUT" then withName segment fun name => withBody r (s.putToken name r)
    else return .methodNotAllowed route.allow

/-- Answers a request. HEAD is answered as GET, without the body. -/
def handle (s : Service σ) (r : Request) : Timed σ Response :=
  match Route.ofPath? (targetPath r.target) with
  | none => return .empty 404
  | some route =>
    if r.method = "HEAD" then do
      let response ← s.dispatch route { r with method := "GET" }
      return { response with body := ByteArray.empty }
    else s.dispatch route r

end Service

end GatewayDirectory.Registry
