import GatewayDirectory.Sync.Envelope

/-!
# Settings of a sink

What a sink of any kind is built from. Each kind needs some of the settings and refuses to be built
without them.
-/

namespace GatewayDirectory.Sync

open Directory

/-- Settings of a sink. -/
structure SinkSettings where
  kind : SinkKind
  /-- Location of the direct sink's directory. -/
  directory : Option String
  /-- Address of the registry or of the system that takes messages. -/
  url : Option String
  topic : Option String
  /-- Token that the direct sink's directory sends with writes. -/
  writeToken : Option String
  /-- How long a request may take, in milliseconds. -/
  timeout : Nat
deriving DecidableEq, Inhabited

namespace SinkSettings

variable {σ : Type}

/-- The address, which must be set. -/
def requiredUrl (s : SinkSettings) : Except SinkError String :=
  match s.url with
  | some url => .ok url
  | none => .error (.config (s.kind.text ++ " sink needs --sink-url"))

/-- A sink that posts messages. -/
def publisher (s : SinkSettings) (network : Http.Network σ) (e : Envelope) :
    Except SinkError (Sink σ) :=
  s.requiredUrl.map fun url => .publish e (.http network url s.timeout)

/-- The sink that the settings describe. -/
def build (s : SinkSettings) (around : Location.Surroundings σ) :
    Timed σ (Except SinkError (Sink σ)) :=
  match s.kind with
  | .direct =>
    match s.directory with
    | none => return .error (.config "direct sink needs --directory")
    | some text =>
      match Location.read text with
      | .error e => return .error (.directory e)
      | .ok location => do
        match ← location.directory around s.timeout s.writeToken with
        | .error e => return .error (.directory e)
        | .ok d => return .ok (.direct d)
  | .webhook => return s.requiredUrl.map fun url => .webhook around.network url s.timeout
  | .queue => return s.publisher around.network .queue
  | .topic =>
    match s.topic with
    | none => return .error (.config "topic sink needs --topic")
    | some name => return s.publisher around.network (.topic name)
  | .function => return s.publisher around.network .function

end SinkSettings

end GatewayDirectory.Sync
