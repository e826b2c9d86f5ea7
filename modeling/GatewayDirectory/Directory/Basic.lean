import GatewayDirectory.Entry
import GatewayDirectory.Http.Failure
import GatewayDirectory.Storage.OsError
import GatewayDirectory.Timed

/-!
# Directories

A directory answers six calls about gateways by name. Calls are data (`Directory.Call`), each with
the type of its answer, so a directory is a function from calls to timed computations and a history
of a directory is a list of calls. Backends differ only in that function.
-/

namespace GatewayDirectory

namespace Directory

/-- Why a call is refused or fails. -/
inductive Error where
  | notFound (name : String)
  | invalidName (name : String)
  | emptyId
  | unauthorized
  | backend (message : String)
  | io (cause : OsError)
  | malformed (cause : Decoding.Error)
  | http (failure : Http.Failure)
deriving DecidableEq, Inhabited

namespace Error

/-- The message of an error. -/
def message : Error → String
  | notFound name => "gateway not found: " ++ name
  | invalidName name => "invalid gateway name: " ++ Text.quoted name
  | emptyId => "gateway id must not be empty"
  | unauthorized => "write token missing or incorrect"
  | backend text => "backend error: " ++ text
  | io cause => "io error: " ++ cause.message
  | malformed cause => "serialization error: " ++ cause.message
  | http failure => "http error: " ++ failure.message

/-- Whether the gateway is simply not there. -/
def isNotFound : Error → Bool
  | notFound _ => true
  | _ => false

end Error

/-- A call to a directory. -/
inductive Call where
  /-- The entry of a gateway. -/
  | get (name : String)
  /-- Writes an id; a new entry is made where there is none. -/
  | put (name id : String)
  /-- Writes an id with the token that authorizes it. -/
  | putAuthorized (name id : String) (token : Option String)
  /-- Binds a token to an entry. -/
  | putToken (name token : String)
  /-- Binds a token with the token that authorizes it. -/
  | putTokenAuthorized (name token : String) (authorization : Option String)
  /-- Every entry. -/
  | dump
deriving DecidableEq, Inhabited

/-- What a call answers when it succeeds. -/
@[reducible] def Call.Answer : Call → Type
  | .get _ | .put .. | .putAuthorized .. => Entry
  | .putToken .. | .putTokenAuthorized .. => Unit
  | .dump => List Entry

/-- The outcome of a call. -/
abbrev Result (α : Type) := Except Error α

end Directory

/-- A directory whose calls work on a state. -/
abbrev Directory (σ : Type) := (c : Directory.Call) → Timed σ (Directory.Result c.Answer)

end GatewayDirectory
