import GatewayDirectory.Cli.Arguments
import GatewayDirectory.Directory.Basic
import GatewayDirectory.Event

/-!
# What a command leaves

The exit code of a command, what it prints, and the lines of its last words. A failure is shown with
its context and the chain of its causes, numbered where there is more than one.
-/

namespace GatewayDirectory.Cli

/-- The end of a command. -/
structure Outcome where
  code : Nat
  /-- Text printed beside the events. -/
  printed : List String
  /-- Lines of the error output. -/
  complaints : List String
deriving DecidableEq, Inhabited

namespace Outcome

/-- The command did what it was asked to do. -/
def success : Outcome := ⟨0, [], []⟩

/-- The command was asked for its version. -/
def version (spec : CommandSpec) : Outcome := ⟨0, [spec.name ++ " " ++ spec.version], []⟩

/-- The arguments were refused. -/
def usage (e : UsageError) : Outcome := ⟨2, [], [e.message]⟩

/-- The causes of a failure, each on a line of its own. -/
def causeLines : List String → List String
  | [] => []
  | [only] => ["    " ++ only]
  | causes => causes.mapIdx fun i cause => "    " ++ toString i ++ ": " ++ cause

/-- The command failed while it did something, for the given causes. -/
def failure (context : String) (causes : List String) : Outcome :=
  ⟨1, [], ["Error: " ++ context, "", "Caused by:"] ++ causeLines causes⟩

end Outcome

/-- The causes behind an error of a directory, itself first. -/
def directoryCauses (e : Directory.Error) : List String :=
  e.message :: match e with
    | .io cause => [cause.message]
    | .malformed cause => [cause.message]
    | .http failure => [failure.message]
    | _ => []

/-- The events that are shown: all of them, or those that matter more than details. -/
def shownEvents (verbose : Bool) (events : List Event) : List Event :=
  if verbose then events else events.filter fun e => e.level != .debug

end GatewayDirectory.Cli
