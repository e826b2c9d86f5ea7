import GatewayDirectory.Cli.Outcome
import GatewayDirectory.Cli.SocketAddress
import GatewayDirectory.Directory.Location

/-!
# The registry command

`gateway-registry` opens the directory of a backend and listens for requests at an address. `start`
is all that happens before the first request.
-/

namespace GatewayDirectory.Cli.RegistryServer

open Directory

/-- The command line of the registry. -/
def spec : CommandSpec where
  name := "gateway-registry"
  version := "0.1.0"
  options := [
    ⟨"listen",
      .checked (fun s => (SocketAddress.read? s).map (·.text)) "invalid socket address syntax",
      some "REGISTRY_LISTEN", some "0.0.0.0:8080", false⟩,
    ⟨"backend", .text, some "REGISTRY_BACKEND", some "memory://", false⟩,
    ⟨"write-token", .text, some "REGISTRY_WRITE_TOKEN", none, false⟩,
    ⟨"timeout", .natural, some "REGISTRY_TIMEOUT", some "10", false⟩]
  flags := [⟨"verbose", some 'v'⟩]

/-- What the registry is asked to do. The timeout is in seconds. -/
structure Settings where
  listen : String
  backend : String
  writeToken : Option String
  timeout : Nat
  verbose : Bool
deriving DecidableEq, Inhabited

/-- The settings that checked values and flags stand for. -/
def Settings.ofValues (values : Table String) (flags : List String) : Settings :=
  let text (name : String) : String := (values.get? name).getD ""
  { listen := text "listen"
    backend := text "backend"
    writeToken := values.get? "write-token"
    timeout := Text.digitsValue (text "timeout").toList
    verbose := flags.contains "verbose" }

variable {σ : Type}

/-- Starts the registry, where `bind` takes hold of an address; it goes on to serve if that
succeeds. -/
def start (around : Location.Surroundings σ) (bind : String → Except OsError Unit) (s : Settings) :
    Timed σ Outcome :=
  match Location.read s.backend with
  | .error e => return .failure ("Invalid backend " ++ s.backend) (directoryCauses e)
  | .ok location => do
    match ← location.directory around (s.timeout * 1000) s.writeToken with
    | .error e => return .failure "Failed to open directory backend" (directoryCauses e)
    | .ok _ =>
      Timed.report (.registryStarted s.backend s.writeToken.isSome)
      match bind s.listen with
      | .error cause => return .failure ("Failed to bind " ++ s.listen) [cause.message]
      | .ok () =>
        Timed.report (.registryListening s.listen)
        return .success

end GatewayDirectory.Cli.RegistryServer
