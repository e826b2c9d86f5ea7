import GatewayDirectory.Proofs.Registry.Remote

/-!
# Which names have an address

A remote and a webhook address a gateway by its name, percent-encoded, behind the address of the
registry. On the way a client resolves the dots of a path, which encoding leaves as they are, and
the registry decodes the segment it is left with. `addressed_iff` says when the name comes through:
for every valid name but the two that consist of dots alone, `.` and `..`, whose addresses lead
nowhere or to another resource.
-/

namespace GatewayDirectory.Registry

open Directory Http Text

/-- The address can be requested, and a registry takes each request to it for that route, or knows
no route for it. -/
def LeadsTo (address : String) (route : Option Route) : Prop :=
  ∃ url, Url.read? address = some url ∧ url.isHttp = true ∧
    ∀ r : Request, r.target = url.target → routeOf r = route

/-- The address leads to a resource of the gateway with that name. -/
def Addresses (address : String) (resource : String → Route) (name : String) : Prop :=
  ∃ segment, LeadsTo address (some (resource segment)) ∧ segmentName? segment = some name

section Origins

variable (o : Origin) {segments : List (List Char)} {name : String} {route route' : Option Route}

/-- An address leads to one route at most. -/
theorem LeadsTo.unique {address : String} (h : LeadsTo address route)
    (h' : LeadsTo address route') : route = route' := by
  obtain ⟨url, hurl, -, hroute⟩ := h
  obtain ⟨url', hurl', -, hroute'⟩ := h'
  obtain rfl : url = url' := Option.some.inj (hurl.symm.trans hurl')
  let r : Request := ⟨"GET", url.target, [], ByteArray.empty⟩
  exact (hroute r rfl).symm.trans (hroute' r rfl)

/-- An address below an origin leads where its resolved path does. -/
theorem leadsTo_append (hplain : Plain segments) (hne : segments ≠ [])
    (hroute : ∀ r : Request, r.target = Url.pathOf (pathChars segments) → routeOf r = route) :
    LeadsTo (o.text ++ String.ofList (pathChars segments)) route := by
  refine ⟨_, o.read?_append hplain hne, ?_, fun r hr => hroute r ?_⟩
  · rcases o.scheme_eq with h | h <;> rw [h] <;> rfl
  · rw [hr]
    exact String.append_empty

/-- An address whose path is kept as it is leads where that path does. -/
theorem leadsTo_of_verbatim (h : Verbatim segments)
    (hroute : ∀ r : Request, r.target = String.ofList (pathChars segments) → routeOf r = route) :
    LeadsTo (o.text ++ String.ofList (pathChars segments)) route :=
  leadsTo_append o h.plain h.ne_nil (h.pathOf_eq ▸ hroute)

/-- The address of a gateway that can be addressed leads to it. -/
theorem addresses_gateway (hname : Addressable name) :
    Addresses (gatewayAddress o.text name) .gateway name := by
  refine ⟨Percent.encode name, ?_, segmentName?_encode name⟩
  rw [text_gatewayPath]
  exact leadsTo_of_verbatim o (verbatim_gatewayPath hname) fun _ => routeOf_gatewayPath hname

/-- The address of its token leads to the token. -/
theorem addresses_token (hname : Addressable name) :
    Addresses (gatewayAddress o.text name ++ "/token") .gatewayToken name := by
  refine ⟨Percent.encode name, ?_, segmentName?_encode name⟩
  rw [text_tokenPath]
  exact leadsTo_of_verbatim o (verbatim_tokenPath hname) fun _ => routeOf_tokenPath hname

/-- The addresses of any name lead where their resolved paths do. -/
theorem leadsTo_resolved (name : String) :
    LeadsTo (gatewayAddress o.text name)
        (Route.ofPath? (targetPath (Url.pathOf (pathChars (gatewayPath name))))) ∧
      LeadsTo (gatewayAddress o.text name ++ "/token")
        (Route.ofPath? (targetPath (Url.pathOf (pathChars (tokenPath name))))) := by
  -- the route of a request is that of its path, whatever else it holds
  have hroute {path : String} (r : Request) (hr : r.target = path) :
      routeOf r = Route.ofPath? (targetPath path) := by
    rw [routeOf, hr]
  rw [text_tokenPath, text_gatewayPath]
  exact ⟨leadsTo_append o (plain_gatewayPath name) (List.cons_ne_nil _ _) hroute,
    leadsTo_append o (plain_tokenPath name) (List.cons_ne_nil _ _) hroute⟩

/-- The dot takes its own segment away: what follows it moves up. -/
theorem leadsTo_dot : LeadsTo (gatewayAddress o.text ".") none ∧
    LeadsTo (gatewayAddress o.text "." ++ "/token") (some (.gateway "token")) := by
  obtain ⟨hgateway, htoken⟩ := leadsTo_resolved o "."
  have hnone : Route.ofPath? (targetPath (Url.pathOf (pathChars (gatewayPath ".")))) = none := by
    decide +kernel
  have hother : Route.ofPath? (targetPath (Url.pathOf (pathChars (tokenPath ".")))) =
      some (.gateway "token") := by
    decide +kernel
  exact ⟨hnone ▸ hgateway, hother ▸ htoken⟩

/-- Two dots take away the segment before them as well. -/
theorem leadsTo_dotDot : LeadsTo (gatewayAddress o.text "..") none ∧
    LeadsTo (gatewayAddress o.text ".." ++ "/token") none := by
  obtain ⟨hgateway, htoken⟩ := leadsTo_resolved o ".."
  have hnone : Route.ofPath? (targetPath (Url.pathOf (pathChars (gatewayPath "..")))) = none := by
    decide +kernel
  have hother : Route.ofPath? (targetPath (Url.pathOf (pathChars (tokenPath "..")))) = none := by
    decide +kernel
  exact ⟨hnone ▸ hgateway, hother ▸ htoken⟩

end Origins

/-- An address that leads to no route, or to another resource, addresses no gateway. -/
theorem LeadsTo.not_addresses {address name : String} {route : Option Route}
    {resource : String → Route} (h : LeadsTo address route)
    (hother : ∀ segment, route ≠ some (resource segment)) : ¬ Addresses address resource name := by
  rintro ⟨segment, hsegment, -⟩
  exact hother segment (h.unique hsegment)

/-- **A valid name comes through to the registry unless it is dots.** Below any origin, the address
of a gateway and that of its token lead to the resources of the gateway with that very name, exactly
when the name is neither `.` nor `..`. For these two the address of the gateway leads nowhere, and
so does that of the token of `..`; that of the token of `.` leads to the gateway `token`. -/
theorem addressed_iff (o : Origin) (slashes : Nat) (name : String)
    (hvalid : isValidName name = true) :
    let base := dropTrailing '/' (o.text ++ String.ofList (List.replicate slashes '/'))
    let address := gatewayAddress base name
    (Addresses address .gateway name ↔ name ≠ "." ∧ name ≠ "..") ∧
      (Addresses (address ++ "/token") .gatewayToken name ↔ name ≠ "." ∧ name ≠ "..") ∧
      (name = "." → LeadsTo address none ∧ LeadsTo (address ++ "/token") (some (.gateway "token"))) ∧
      (name = ".." → LeadsTo address none ∧ LeadsTo (address ++ "/token") none) := by
  intro base address
  have haddress : address = gatewayAddress o.text name := by
    show gatewayAddress (dropTrailing '/' _) name = _
    rw [o.dropTrailing_text]
  rw [haddress]
  refine ⟨⟨fun h => ⟨?_, ?_⟩, fun h => addresses_gateway o ⟨hvalid, h.1, h.2⟩⟩,
    ⟨fun h => ⟨?_, ?_⟩, fun h => addresses_token o ⟨hvalid, h.1, h.2⟩⟩, ?_, ?_⟩
  · rintro rfl
    exact absurd h ((leadsTo_dot o).1.not_addresses fun _ => nofun)
  · rintro rfl
    exact absurd h ((leadsTo_dotDot o).1.not_addresses fun _ => nofun)
  · rintro rfl
    exact absurd h ((leadsTo_dot o).2.not_addresses fun _ => nofun)
  · rintro rfl
    exact absurd h ((leadsTo_dotDot o).2.not_addresses fun _ => nofun)
  · rintro rfl
    exact leadsTo_dot o
  · rintro rfl
    exact leadsTo_dotDot o

/-- The colons of a name come through a port and a slash too many; a dot does not, and what is meant
to bind a token to it is taken for a request about another gateway. -/
theorem addressed_iff_of_colons :
    let o := Remote.exampleOrigin
    let address (name : String) := gatewayAddress
      (dropTrailing '/' (o.text ++ String.ofList (List.replicate 1 '/'))) name
    isValidName "1:eu:..a" = true ∧ isValidName "." = true ∧
      Addresses (address "1:eu:..a") .gateway "1:eu:..a" ∧
      Addresses (address "1:eu:..a" ++ "/token") .gatewayToken "1:eu:..a" ∧
      ¬ Addresses (address ".") .gateway "." ∧
      LeadsTo (address "." ++ "/token") (some (.gateway "token")) := by
  intro o address
  have hname : isValidName "1:eu:..a" = true := by decide +kernel
  have hdot : isValidName "." = true := by decide +kernel
  obtain ⟨hgateway, htoken, -, -⟩ := addressed_iff o 1 "1:eu:..a" hname
  obtain ⟨hnot, -, hleads, -⟩ := addressed_iff o 1 "." hdot
  exact ⟨hname, hdot, hgateway.2 (by decide), htoken.2 (by decide), fun h => (hnot.1 h).1 rfl,
    (hleads rfl).2⟩

end GatewayDirectory.Registry
