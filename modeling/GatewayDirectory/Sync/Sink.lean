import GatewayDirectory.Directory.Location

/-!
# Sinks

A sink takes the key, id and token of a gateway and stores or forwards them. The direct sink writes
into a directory, the webhook sink into a registry; the others hand an envelope to a transport,
which only delivers it.
-/

namespace GatewayDirectory.Sync

open Http

/-- Why a save failed. -/
inductive SinkError where
  | transport (message : String)
  | rejected (status : Nat) (message : String)
  | timeout
  | directory (cause : Directory.Error)
  | config (message : String)
deriving DecidableEq, Inhabited

/-- The message of a sink error. -/
def SinkError.message : SinkError → String
  | .transport text => "transport error: " ++ text
  | .rejected status text => "rejected with status " ++ toString status ++ ": " ++ text
  | .timeout => "save timed out"
  | .directory cause => "directory error: " ++ cause.message
  | .config text => "sink misconfigured: " ++ text

/-- The error of a sink whose exchange failed. -/
def SinkError.ofFailure (f : Failure) : SinkError :=
  if f.isTimeout then .timeout else .transport f.message

/-- The kinds of sinks. -/
inductive SinkKind where
  | direct
  | webhook
  | queue
  | topic
  | function
deriving DecidableEq, Inhabited

namespace SinkKind

/-- The name of a kind. -/
def text : SinkKind → String
  | direct => "direct"
  | webhook => "webhook"
  | queue => "queue"
  | topic => "topic"
  | function => "function"

/-- Every kind. -/
def all : List SinkKind := [direct, webhook, queue, topic, function]

/-- The kind with a name, in which the case of ASCII letters may be ignored. -/
def read? (ignoreCase : Bool) (s : String) : Option SinkKind :=
  let fold (s : String) : String := if ignoreCase then s.map Char.toLower else s
  all.find? fun k => k.text == fold s

end SinkKind

/-- A sink whose saves work on a state. -/
structure Sink (σ : Type) where
  kind : SinkKind
  save : (key id : String) → (token : Option String) → Timed σ (Except SinkError Unit)

namespace Sink

variable {σ : Type}

/-- Writes into a directory: first the id, then a token that is not empty. -/
def direct (d : Directory σ) : Sink σ where
  kind := .direct
  save key id token := do
    let token := token.filter (· != "")
    match ← d (.putAuthorized key id token) with
    | .error e => return .error (.directory e)
    | .ok entry =>
      Timed.report (.directWrite key entry.changes)
      match token with
      | none => return .ok ()
      | some t =>
        match ← d (.putTokenAuthorized key t (some t)) with
        | .error e => return .error (.directory e)
        | .ok () => return .ok ()

/-- Writes into the registry at an address. -/
def webhook (network : Network σ) (address : String) (timeout : Nat) : Sink σ where
  kind := .webhook
  save key id token := do
    let base := Text.dropTrailing '/' address
    let body := (Json.compact (Payload.mk key id token).toJson).toUTF8
    match ← network.exchange timeout "PUT" (gatewayAddress base key) ["application/json"] body with
    | .error failure => return .error (.ofFailure failure)
    | .ok response =>
      if response.isSuccess then
        Timed.report (.webhookAccepted key (statusText response.status))
        return .ok ()
      else return .error (.rejected response.status (failureMessage response))

end Sink

end GatewayDirectory.Sync
