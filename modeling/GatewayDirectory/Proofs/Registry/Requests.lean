import GatewayDirectory.Directory.Remote
import GatewayDirectory.Proofs.Entry
import GatewayDirectory.Proofs.Http.Address
import GatewayDirectory.Proofs.Registry.Handling

/-!
# Requests from a remote

What a registry makes of the requests that a `Remote` sends. The path of each is read as it stands
and leads to the route it was meant for, its segment stands for the name, and its body is read back
as the payload or the update that was written. So each request comes to the handler that answers it.
A name that is not `Addressable` is refused, or leaves a path that leads nowhere.
-/

namespace GatewayDirectory

open Directory Http Text

namespace Registry

/-! ## Routes -/

/-- The path to a gateway. -/
def gatewayPath (name : String) : List (List Char) :=
  ["gateway".toList, (Percent.encode name).toList]

/-- The path to the token of a gateway. -/
def tokenPath (name : String) : List (List Char) := gatewayPath name ++ ["token".toList]

/-- The path to the list of all gateways. -/
def listPath : List (List Char) := ["gateways".toList]

/-- A valid name that is no dots, which a path would not keep as a segment. -/
structure Addressable (name : String) : Prop where
  valid : isValidName name = true
  ne_dot : name ≠ "."
  ne_dots : name ≠ ".."

/-- The empty name is not valid, so it cannot be addressed. -/
theorem Addressable.ne_empty {name : String} (h : Addressable name) : name ≠ "" :=
  (isValidName_iff.1 h.valid).1

/-- Only dots are valid and cannot be addressed. -/
theorem invalid_of_not_addressable {name : String} (h : ¬ Addressable name) (hdot : name ≠ ".")
    (hdots : name ≠ "..") : isValidName name = false := by
  rw [← Bool.not_eq_true]
  exact fun hvalid => h ⟨hvalid, hdot, hdots⟩

/-- An encoded name has only characters that a URL takes as they are. -/
theorem plain_gatewayPath (name : String) : Plain (gatewayPath name) :=
  List.forall_mem_cons.2
    ⟨by simp [isPlain], List.forall_mem_singleton.2 fun _ => isPlain_of_mem_encode⟩

/-- The path to a gateway is kept as it is unless the name is one of dots, which a URL would
resolve. -/
theorem verbatim_of_ne_dots {name : String} (hdot : name ≠ ".") (hdots : name ≠ "..") :
    Verbatim (gatewayPath name) where
  plain := plain_gatewayPath name
  undotted := List.forall_mem_cons.2
    ⟨by decide, List.forall_mem_singleton.2 (undotted_encode hdot hdots)⟩
  ne_nil := List.cons_ne_nil _ _

/-- The path to a gateway that can be addressed is kept as it is. -/
theorem verbatim_gatewayPath {name : String} (h : Addressable name) : Verbatim (gatewayPath name) :=
  verbatim_of_ne_dots h.ne_dot h.ne_dots

/-- The path to a token has only characters that a URL takes as they are. -/
theorem plain_tokenPath (name : String) : Plain (tokenPath name) :=
  List.forall_mem_append.2 ⟨plain_gatewayPath name, by simp [isPlain]⟩

/-- The path to a token is kept as it is unless the name is one of dots. -/
theorem verbatim_token_of_ne_dots {name : String} (hdot : name ≠ ".") (hdots : name ≠ "..") :
    Verbatim (tokenPath name) where
  plain := plain_tokenPath name
  undotted := List.forall_mem_append.2 ⟨(verbatim_of_ne_dots hdot hdots).undotted, by decide⟩
  ne_nil := List.cons_ne_nil _ _

/-- The path to the token of a gateway that can be addressed is kept as it is. -/
theorem verbatim_tokenPath {name : String} (h : Addressable name) : Verbatim (tokenPath name) :=
  verbatim_token_of_ne_dots h.ne_dot h.ne_dots

/-- The path to the list of all is kept as it is. -/
theorem verbatim_listPath : Verbatim listPath where
  plain := List.forall_mem_singleton.2 (by simp [isPlain])
  undotted := List.forall_mem_singleton.2 (by decide)
  ne_nil := List.cons_ne_nil _ _

/-- The address of a gateway is the base with the path to it. -/
theorem text_gatewayPath (base name : String) :
    gatewayAddress base name = base ++ String.ofList (pathChars (gatewayPath name)) := by
  apply String.toList_injective
  simp [gatewayAddress, gatewayPath, pathChars]

/-- The address of a token is the base with the path to it. -/
theorem text_tokenPath (base name : String) :
    gatewayAddress base name ++ "/token" = base ++ String.ofList (pathChars (tokenPath name)) := by
  apply String.toList_injective
  simp [gatewayAddress, tokenPath, gatewayPath, pathChars]

/-- The address of the list is the base with the path to it. -/
theorem text_listPath (base : String) :
    base ++ "/gateways" = base ++ String.ofList (pathChars listPath) := rfl

section Routes

variable {segments : List (List Char)} {r : Request} {name : String}

/-- A registry takes the segments of a request for what was sent. -/
theorem splitAt_targetPath (h : Verbatim segments)
    (hr : r.target = String.ofList (pathChars segments)) :
    splitAt '/' (targetPath r.target) = [] :: segments := by
  -- no plain character begins a query or a fragment, so the whole target is path
  have hall : (pathChars segments).takeWhile (fun c => c != '?' && c != '#') =
      pathChars segments := by
    refine List.takeWhile_eq_self_iff.2 fun c hc => ?_
    rcases h.plain.eq_or_isPlain hc with rfl | hc
    · rfl
    · obtain ⟨-, -, -, -, hquery, hfragment, -⟩ := isPlain_spec hc
      simp [hquery, hfragment]
  have hpath : targetPath r.target = pathChars segments := by
    obtain ⟨s, rest, rfl⟩ := List.exists_cons_of_ne_nil h.ne_nil
    rw [hr, targetPath, String.toList_ofList, hall]
    rfl
  rw [hpath, ← List.nil_append (pathChars segments), h.plain.splitAt_pathChars List.not_mem_nil]

/-- The path to a gateway leads to its route, valid or not, if it is not resolved on the way. -/
theorem routeOf_of_ne_dots (hdot : name ≠ ".") (hdots : name ≠ "..") (hne : name ≠ "")
    (hr : r.target = String.ofList (pathChars (gatewayPath name))) :
    routeOf r = some (.gateway (Percent.encode name)) := by
  rw [routeOf, Route.ofPath?, splitAt_targetPath (verbatim_of_ne_dots hdot hdots) hr]
  simp [gatewayPath, encode_ne_empty hne]

/-- The path to a gateway that can be addressed leads to its route. -/
theorem routeOf_gatewayPath (hname : Addressable name)
    (hr : r.target = String.ofList (pathChars (gatewayPath name))) :
    routeOf r = some (.gateway (Percent.encode name)) :=
  routeOf_of_ne_dots hname.ne_dot hname.ne_dots hname.ne_empty hr

/-- The path to a token leads to its route if it is not resolved on the way. -/
theorem routeOf_token_of_ne_dots (hdot : name ≠ ".") (hdots : name ≠ "..") (hne : name ≠ "")
    (hr : r.target = String.ofList (pathChars (tokenPath name))) :
    routeOf r = some (.gatewayToken (Percent.encode name)) := by
  rw [routeOf, Route.ofPath?, splitAt_targetPath (verbatim_token_of_ne_dots hdot hdots) hr]
  simp [tokenPath, gatewayPath, encode_ne_empty hne]

/-- The path to the token of a gateway that can be addressed leads to its route. -/
theorem routeOf_tokenPath (hname : Addressable name)
    (hr : r.target = String.ofList (pathChars (tokenPath name))) :
    routeOf r = some (.gatewayToken (Percent.encode name)) :=
  routeOf_token_of_ne_dots hname.ne_dot hname.ne_dots hname.ne_empty hr

/-- The path to the list leads to the route of the list. -/
theorem routeOf_listPath (hr : r.target = String.ofList (pathChars listPath)) :
    routeOf r = some .gateways := by
  rw [routeOf, Route.ofPath?, splitAt_targetPath verbatim_listPath hr]
  rfl

/-- A registry reads the name back from its segment. -/
theorem segmentName?_encode (name : String) : segmentName? (Percent.encode name) = some name := by
  rw [segmentName?, Percent.decode_encode, byteArray_toList, Array.toArray_toList]
  exact fromUTF8?_toUTF8 name

end Routes

/-! ## Requests -/

/-- The request that a remote sends along a path. -/
def sent (method : String) (segments : List (List Char)) : Option Json → Request
  | some v =>
    ⟨method, String.ofList (pathChars segments), ["application/json"], (Json.compact v).toUTF8⟩
  | none => ⟨method, String.ofList (pathChars segments), [], ByteArray.empty⟩

section Requests

variable {method : String} {segments : List (List Char)} {name : String} {token : Option String}
  {h : Host}

/-- A request is sent along its path, with a body or without. -/
@[simp] theorem sent_target (body : Option Json) :
    (sent method segments body).target = String.ofList (pathChars segments) := by
  cases body <;> rfl

/-- A request is sent with its method, with a body or without. -/
@[simp] theorem sent_method (body : Option Json) : (sent method segments body).method = method := by
  cases body <;> rfl

/-- A registry reads the value back from the body. -/
theorem decodeBody_sent {α : Type} (fromYaml : Yaml.Place → Except Decoding.Error α)
    (fromJson : Json → Except Decoding.Error α) {v : Json} (hv : v.Exact) :
    decodeBody fromYaml fromJson (sent method segments (some v)) = fromJson v := by
  rw [decodeBody, if_neg (by simp only [sent]; decide)]
  exact Json.decode_compact fromJson hv

/-- The write of an id that a remote sends is a sound one, if the id is not empty. -/
theorem isWrite_sent (hname : Addressable name) {p : Payload} (hid : p.id ≠ "") :
    IsWrite (Percent.encode name) (sent "PUT" (gatewayPath name) (some p.toJson)) name p where
  segment_eq := segmentName?_encode name
  valid := hname.valid
  body_eq := (decodeBody_sent _ _ p.exact_toJson).trans p.decode_toJson
  id_ne := hid

/-- The write of a token that a remote sends is a sound one, if the token is not empty. -/
theorem isBinding_sent (hname : Addressable name) {u : TokenUpdate} (htoken : u.token ≠ "") :
    IsBinding (Percent.encode name) (sent "PUT" (tokenPath name) (some u.toJson)) name u where
  segment_eq := segmentName?_encode name
  valid := hname.valid
  body_eq := (decodeBody_sent _ _ u.exact_toJson).trans u.decode_toJson
  token_ne := htoken

/-- The question that a remote sends comes to the handler with the name that was meant. -/
theorem handle_sent_get (token : Option String) (hname : Addressable name) :
    (Host.registry token).handle (sent "GET" (gatewayPath name) none) =
      (Host.registry token).getGateway name := by
  rw [Service.handle_get_gateway (routeOf_gatewayPath hname (sent_target none)) (sent_method none),
    Service.withName_of_some (segmentName?_encode name)]

/-- The write of an id that a remote sends comes to the handler, if the registry takes its body. -/
theorem handle_sent_write (token : Option String) (hname : Addressable name) {v : Json}
    (hsize : (Json.compact v).toUTF8.size ≤ maxBodyBytes) :
    (Host.registry token).handle (sent "PUT" (gatewayPath name) (some v)) =
      (Host.registry token).putGateway name (sent "PUT" (gatewayPath name) (some v)) :=
  Service.handle_putGateway (routeOf_gatewayPath hname (sent_target _)) (sent_method _)
    (segmentName?_encode name) hsize

/-- The write of a token that a remote sends comes to the handler, if the registry takes its body.
-/
theorem handle_sent_binding (token : Option String) (hname : Addressable name) {v : Json}
    (hsize : (Json.compact v).toUTF8.size ≤ maxBodyBytes) :
    (Host.registry token).handle (sent "PUT" (tokenPath name) (some v)) =
      (Host.registry token).putToken name (sent "PUT" (tokenPath name) (some v)) :=
  Service.handle_putToken (routeOf_tokenPath hname (sent_target _)) (sent_method _)
    (segmentName?_encode name) hsize

/-- The request for the list comes to the handler. -/
theorem handle_sent_list (token : Option String) :
    (Host.registry token).handle (sent "GET" listPath none) = (Host.registry token).dump :=
  Service.handle_gateways (routeOf_listPath (sent_target none)) (sent_method none)

/-! ## Names that no request can address -/

/-- A registry refuses a name that is not valid. -/
theorem handle_sent_invalid (token : Option String) (hvalid : isValidName name = false)
    (hne : name ≠ "") (hdot : name ≠ ".") (hdots : name ≠ "..") {v : Json}
    (hsize : (Json.compact v).toUTF8.size ≤ maxBodyBytes) :
    ∃ message, (Host.registry token).handle (sent "PUT" (gatewayPath name) (some v)) =
      return failure 400 name message := by
  have htarget : (sent "PUT" (gatewayPath name) (some v)).target =
      String.ofList (pathChars (gatewayPath name)) := sent_target _
  have hroute := routeOf_of_ne_dots hdot hdots hne htarget
  have hsegment := segmentName?_encode name
  rw [Service.handle_putGateway hroute (sent_method _) hsegment hsize]
  refine Service.putGateway_of_bad _ hsegment fun p hw => ?_
  have hname := hw.valid
  rw [hvalid] at hname
  cases hname

/-- The empty name and the dots leave a path that leads nowhere. -/
theorem exists_unrouted (hname : name = "" ∨ name = "." ∨ name = "..") :
    ∃ resolved, Url.pathOf (pathChars (gatewayPath name)) = String.ofList (pathChars resolved) ∧
      ∀ method body, routeOf (sent method resolved body) = none := by
  have hroute (resolved : List (List Char))
      (h : Route.ofPath? (targetPath (String.ofList (pathChars resolved))) = none)
      (method : String) (body : Option Json) : routeOf (sent method resolved body) = none := by
    rw [routeOf, sent_target, h]
  rcases hname with rfl | rfl | rfl
  · exact ⟨["gateway".toList, []], by decide +kernel, hroute _ (by decide +kernel)⟩
  · exact ⟨["gateway".toList, []], by decide +kernel, hroute _ (by decide +kernel)⟩
  · exact ⟨[[]], by decide +kernel, hroute _ (by decide +kernel)⟩

/-- **A write under a name that cannot be addressed fails**, along the path that its address
resolves to. -/
theorem exists_refused (token : Option String) (hname : ¬ Addressable name) {v : Json}
    (hsize : (Json.compact v).toUTF8.size ≤ maxBodyBytes) :
    ∃ resolved response,
      Url.pathOf (pathChars (gatewayPath name)) = String.ofList (pathChars resolved) ∧
      response.isSuccess = false ∧
      (Host.registry token).handle (sent "PUT" resolved (some v)) = return response := by
  -- these names are lost on the way; all others arrive and are refused there
  by_cases hdots : name = "" ∨ name = "." ∨ name = ".."
  · obtain ⟨resolved, hpath, hroute⟩ := exists_unrouted hdots
    exact ⟨resolved, .empty 404, hpath, rfl, Service.handle_of_unrouted _ (hroute _ _)⟩
  · obtain ⟨hne, hdots⟩ := not_or.1 hdots
    obtain ⟨hdot, hdots⟩ := not_or.1 hdots
    have hvalid := invalid_of_not_addressable hname hdot hdots
    obtain ⟨message, hfixed⟩ := handle_sent_invalid token hvalid hne hdot hdots hsize
    exact ⟨gatewayPath name, failure 400 name message,
      (verbatim_of_ne_dots hdot hdots).pathOf_eq, rfl, hfixed⟩

end Requests

end Registry

end GatewayDirectory
