import GatewayDirectory.Sync.Sink

/-!
# Envelopes and their transports

What is handed to an external system for a gateway: the bare payload for a queue, the payload as a
JSON string beside a topic, or an invocation that holds the payload. A transport delivers the bytes,
either to an address or into a bounded queue in memory.
-/

namespace GatewayDirectory.Sync

open Http

/-- The frame of a message. -/
inductive Envelope where
  | queue
  | topic (name : String)
  | function
deriving DecidableEq, Inhabited

namespace Envelope

/-- The message that carries a payload. -/
def message (e : Envelope) (p : Payload) : Json :=
  match e with
  | queue => p.toJson
  | topic name => .object [("topic", .string name), ("message", .string (Json.compact p.toJson))]
  | function => .object [("action", .string "save"), ("payload", p.toJson)]

/-- The message as text. -/
def encode (e : Envelope) (p : Payload) : String := Json.compact (e.message p)

/-- The kind of sink that uses the frame. -/
def kind : Envelope → SinkKind
  | queue => .queue
  | topic _ => .topic
  | function => .function

end Envelope

/-- What delivers messages. -/
abbrev Transport (σ : Type) := ByteArray → Timed σ (Except SinkError Unit)

namespace Transport

variable {σ : Type}

/-- Posts messages to an address. -/
def http (network : Network σ) (address : String) (timeout : Nat) : Transport σ := fun body => do
  match ← network.exchange timeout "POST" address ["application/json"] body with
  | .error failure => return .error (.ofFailure failure)
  | .ok response =>
    return if response.isSuccess then .ok () else .error (.rejected response.status response.text)

/-- A queue that holds a limited number of messages, the earliest first. -/
structure Queue where
  messages : List ByteArray
  capacity : Nat
  /-- Whether no one will take messages any more. -/
  closed : Bool
deriving Inhabited

/-- Puts messages into a queue. No one takes any while a delivery waits, so it waits for ever at a
full queue. -/
def queue (q : Part σ Queue) : Transport σ := fun body => do
  let state ← Timed.read q.get
  if state.closed then return .error (.transport "queue consumer has gone away")
  else if state.capacity ≤ state.messages.length then Timed.hang
  else
    Timed.modify fun s => q.set { q.get s with messages := (q.get s).messages ++ [body] } s
    return .ok ()

end Transport

/-- Hands messages to a transport. -/
def Sink.publish {σ : Type} (e : Envelope) (t : Transport σ) : Sink σ where
  kind := e.kind
  save key id token := do
    match ← t (e.encode ⟨key, id, token⟩).toUTF8 with
    | .error err => return .error err
    | .ok () =>
      Timed.report (.envelopeDelivered key e.kind.text)
      return .ok ()

end GatewayDirectory.Sync
