import GatewayDirectory.Http.Failure
import GatewayDirectory.Http.Message
import GatewayDirectory.Http.Url
import GatewayDirectory.Timed

/-!
# Clients

A `Network` carries a request to an address and brings back the response, or nothing where nobody
can be reached. `Network.exchange` adds what a client does around that: it reads the address,
refuses those that requests cannot be sent to, and waits for a limited time.
-/

namespace GatewayDirectory.Http

/-- What carries requests; no response means that no connection came about. -/
abbrev Network (σ : Type) := Url → Request → Timed σ (Option Response)

/-- The network on which nobody can be reached. -/
def Network.unreachable {σ : Type} : Network σ := fun _ _ => return none

/-- A request to an address, answered within `timeout` milliseconds. -/
def Network.exchange {σ : Type} (network : Network σ) (timeout : Nat) (method address : String)
    (contentTypes : List String) (body : ByteArray) : Timed σ (Except Failure Response) :=
  match Url.read? address with
  | none => return .error (.unusableAddress none)
  | some url =>
    if !url.isHttp then return .error (.unusableAddress (some url.text))
    else do
      match ← Timed.bounded timeout (network url ⟨method, url.target, contentTypes, body⟩) with
      | none => return .error (.timedOut url.text)
      | some none => return .error (.unreachable url.text)
      | some (some response) => return .ok response

end GatewayDirectory.Http
