/-!
# Failures of exchanges

Why a request got no answer that can be used.
-/

namespace GatewayDirectory.Http

/-- A failed exchange. -/
inductive Failure where
  /-- The address is none, or none that requests can be sent to. -/
  | unusableAddress (url : Option String)
  /-- No connection, or it broke. -/
  | unreachable (url : String)
  /-- No answer in time. -/
  | timedOut (url : String)
  /-- An answer whose body does not decode. -/
  | undecodableBody
deriving DecidableEq, Inhabited

/-- The message of a failure. -/
def Failure.message : Failure → String
  | .unusableAddress none => "builder error"
  | .unusableAddress (some url) => "builder error for url (" ++ url ++ ")"
  | .unreachable url | .timedOut url => "error sending request for url (" ++ url ++ ")"
  | .undecodableBody => "error decoding response body"

/-- Whether the answer did not come in time. -/
def Failure.isTimeout : Failure → Bool
  | .timedOut _ => true
  | _ => false

end GatewayDirectory.Http
