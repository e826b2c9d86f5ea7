import GatewayDirectory.Http.Message
import GatewayDirectory.Text.Blank
import GatewayDirectory.Text.Percent

/-!
# Routes of the registry

The resources that the registry serves, found by the path of a request as it was sent. A name is a
whole segment, which may not be empty, and is percent-decoded only after the route is found.
-/

namespace GatewayDirectory.Registry

open Text

/-- What a path addresses. The segment of a name is as it was sent. -/
inductive Route where
  | health
  | gateways
  | gateway (segment : String)
  | gatewayToken (segment : String)
deriving DecidableEq, Inhabited

/-- The path of a request's target: without a scheme and host, and without a query. -/
def targetPath (target : String) : List Char :=
  let cs := target.toList.takeWhile fun c => c != '?' && c != '#'
  match cs with
  | '/' :: _ => cs
  | _ =>
    match cs.dropWhile (· != ':') with
    | ':' :: '/' :: '/' :: rest =>
      match rest.dropWhile (· != '/') with
      | [] => ['/']
      | path => path
    | _ => cs

/-- The route of a path. -/
def Route.ofPath? (path : List Char) : Option Route :=
  match (splitAt '/' path).map String.ofList with
  | ["", "health"] => some .health
  | ["", "gateways"] => some .gateways
  | ["", "gateway", segment] => if segment = "" then none else some (.gateway segment)
  | ["", "gateway", segment, "token"] => if segment = "" then none else some (.gatewayToken segment)
  | _ => none

/-- The methods that a route allows, as the registry names them. -/
def Route.allow : Route → String
  | .health | .gateways => "GET,HEAD"
  | .gateway _ => "GET,HEAD,PUT"
  | .gatewayToken _ => "PUT"

/-- The name that a segment stands for; `none` if its bytes are no text. -/
def segmentName? (segment : String) : Option String :=
  String.fromUTF8? ⟨(Percent.decode segment.toUTF8.toList).toArray⟩

end GatewayDirectory.Registry
