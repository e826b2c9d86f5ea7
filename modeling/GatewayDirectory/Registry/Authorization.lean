/-!
# Authorization of writes

Writes are open while neither the registry nor the entry has a token. Otherwise the token that a
write supplies must be one of the two. An empty token of an entry and an empty supplied token count
as none.
-/

namespace GatewayDirectory.Registry

/-- A token that is set and not empty. -/
def effective (token : Option String) : Option String := token.filter (· != "")

/-- Whether a write is allowed, given the registry's token, the entry's and the one supplied. -/
def isAuthorized (shared entry supplied : Option String) : Bool :=
  let entry := effective entry
  if shared.isNone && entry.isNone then true
  else
    match effective supplied with
    | some token => shared == some token || entry == some token
    | none => false

end GatewayDirectory.Registry
