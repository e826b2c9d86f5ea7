import GatewayDirectory.Proofs.Directory.History
import GatewayDirectory.Proofs.Timed.Answers
import GatewayDirectory.Registry.Service

/-!
# What a registry in memory does with a request

A registry over a store in memory answers every request at once. Each handler has one lemma for each
way it can end, and `Service.handle_handles` sums them up: a request leaves the store as it is, or
it is an accepted write of an id or of a token, and then the response is 200 or 204 and the store is
that of the one call that was made. `Handled` lists the three ways with all that is known in each.
-/

namespace GatewayDirectory.Registry

open Directory Http

/-- What a registry in memory works on. -/
structure Host where
  /-- The time that the clock shows. -/
  now : Instant
  store : Store

namespace Host

/-- The place of the store. -/
def storePart : Part Host Store := ⟨Host.store, fun store h => { h with store }⟩

/-- The directory over the store. -/
def directory : Directory Host := Store.directory Host.now storePart

/-- The registry over the store. A token that is empty counts as none. -/
def registry (token : Option String) : Service Host := Service.create directory token

end Host

/-- The token bound to a gateway. -/
def boundToken (s : Store) (name : String) : Option String := (s.get? name).bind (·.token)

/-- What the path of a request addresses. -/
def routeOf (r : Request) : Option Route := Route.ofPath? (targetPath r.target)

/-- The request is a sound write of an id, whoever sends it: its segment stands for the valid name
`name`, and its body denotes the payload `p`, whose id is not empty. -/
structure IsWrite (segment : String) (r : Request) (name : String) (p : Payload) : Prop where
  segment_eq : segmentName? segment = some name
  valid : isValidName name = true
  body_eq : decodeBody Payload.decode Payload.decode r = .ok p
  id_ne : p.id ≠ ""

/-- The request is a sound write of a token, whoever sends it: its segment stands for the valid name
`name`, and its body denotes the update `u`, whose token is not empty. -/
structure IsBinding (segment : String) (r : Request) (name : String) (u : TokenUpdate) : Prop where
  segment_eq : segmentName? segment = some name
  valid : isValidName name = true
  body_eq : decodeBody TokenUpdate.decode TokenUpdate.decode r = .ok u
  token_ne : u.token ≠ ""

/-- A failure has the status that it was made for. -/
@[simp] theorem failure_status (status : Nat) (name message : String) :
    (failure status name message).status = status := rfl

/-- A gateway that is found is answered 200. -/
@[simp] theorem found_status (name id : String) : (found name id).status = 200 := rfl

/-- A response of JSON has its status. -/
@[simp] theorem json_status (status : Nat) (text : String) :
    (Response.json status text).status = status := rfl

/-- A response of plain text has its status. -/
@[simp] theorem plain_status (status : Nat) (text : String) :
    (Response.plain status text).status = status := rfl

/-- A method that the route does not know is answered 405, whatever others it allows. -/
@[simp] theorem methodNotAllowed_status (allow : String) :
    (Response.methodNotAllowed allow).status = 405 := rfl

/-- A response without a body has its status. -/
@[simp] theorem empty_status (status : Nat) : (Response.empty status).status = status := rfl

namespace Service

variable {token : Option String} {h : Host} {name segment : String} {r : Request}

/-! ## The directory -/

/-- A call answers as the store does, and leaves the store that the call leaves. -/
theorem directory_answers (token : Option String) (h : Host) (c : Call) :
    ((Host.registry token).directory c).Answers h (h.store.answer h.now c).1
      { h with store := (h.store.answer h.now c).2 } :=
  Timed.Answers.update _ h

/-- An entry that the store holds is found through its directory. -/
theorem get_answers_of_some {e : Entry} (he : h.store.get? name = some e) :
    ((Host.registry token).directory (.get name)).Answers h (.ok e) h := by
  have hanswer := directory_answers token h (.get name)
  simpa [Store.answer, Store.get, he] using hanswer

/-- An entry that the store does not hold is not found through its directory. -/
theorem get_answers_of_none (he : h.store.get? name = none) :
    ((Host.registry token).directory (.get name)).Answers h (.error (.notFound name)) h := by
  have hanswer := directory_answers token h (.get name)
  simpa [Store.answer, Store.get, he] using hanswer

/-! ## Reading -/

/-- A question about a bad name is answered 400, without the directory. -/
theorem getGateway_invalid (hname : isValidName name = false) :
    ((Host.registry token).getGateway name).Answers h (failure 400 name malformedName) h := by
  simp only [getGateway, hname, Bool.not_false, if_true]
  exact Timed.Answers.pure _ h

/-- A question about a gateway without an entry is answered 404. -/
theorem getGateway_absent (hname : isValidName name = true) (he : h.store.get? name = none) :
    ((Host.registry token).getGateway name).Answers h
      (failure 404 name (Error.notFound name).message) h := by
  simp only [getGateway, hname, Bool.not_true, Bool.false_eq_true, if_false]
  exact (get_answers_of_none he).bind (Timed.Answers.pure _ h)

/-- A question about a gateway is answered with the name and the id of its entry. -/
theorem getGateway_present {e : Entry} (hname : isValidName name = true)
    (he : h.store.get? name = some e) :
    ((Host.registry token).getGateway name).Answers h (found e.name e.id) h := by
  simp only [getGateway, hname, Bool.not_true, Bool.false_eq_true, if_false]
  exact (get_answers_of_some he).bind (Timed.Answers.pure _ h)

/-- The list of all is answered 200, and no entry in it has a token. -/
theorem dump_answers (token : Option String) (h : Host) :
    (Host.registry token).dump.Answers h
      (.json 200 (Json.compact (.array (h.store.dump.map fun e => e.redacted.toJson)))) h :=
  (directory_answers token h .dump).bind (Timed.Answers.pure _ _)

/-! ## Authorization -/

/-- What is decided about a write once the token of the entry is known. -/
theorem decision_answers (h : Host) (token bound supplied : Option String) (name : String) :
    (if isAuthorized (effective token) bound supplied then
        (return none : Timed Host (Option Response))
      else do
        Timed.report (.writeRejected name)
        return some (failure 401 name Error.unauthorized.message)).Answers h
      (if isAuthorized (effective token) bound supplied then none
        else some (failure 401 name Error.unauthorized.message)) h := by
  split
  · exact Timed.Answers.pure _ h
  · exact (Timed.Answers.report _ h).bind (Timed.Answers.pure _ h)

/-- **A write is authorized against the token that the entry has at that time.** -/
theorem authorize_answers (token : Option String) (h : Host) (name : String)
    (supplied : Option String) :
    ((Host.registry token).authorize name supplied).Answers h
      (if isAuthorized (effective token) (boundToken h.store name) supplied then none
        else some (failure 401 name Error.unauthorized.message)) h := by
  rw [boundToken]
  -- without an entry there is no token to ask for but the registry's
  cases he : h.store.get? name with
  | none => exact (get_answers_of_none he).bind (decision_answers h token none supplied name)
  | some e => exact (get_answers_of_some he).bind (decision_answers h token e.token supplied name)

/-- A refused write is answered 401, and the store stays as it is. -/
theorem authorize_refuses {supplied : Option String} {next : Timed Host Response}
    (hauth : isAuthorized (effective token) (boundToken h.store name) supplied = false) :
    (do match ← (Host.registry token).authorize name supplied with
        | some refusal => return refusal
        | none => next).Answers h (failure 401 name Error.unauthorized.message) h := by
  have hanswer := authorize_answers token h name supplied
  rw [hauth] at hanswer
  exact hanswer.bind (Timed.Answers.pure _ h)

/-- An authorized write goes on with the store as it is. -/
theorem authorize_allows {supplied : Option String} {next : Timed Host Response}
    {response : Response} {h' : Host}
    (hauth : isAuthorized (effective token) (boundToken h.store name) supplied = true)
    (hnext : next.Answers h response h') :
    (do match ← (Host.registry token).authorize name supplied with
        | some refusal => return refusal
        | none => next).Answers h response h' := by
  have hanswer := authorize_answers token h name supplied
  rw [hauth] at hanswer
  exact hanswer.bind hnext

/-! ## Writing an id -/

/-- A body or a name that is no sound write of an id is answered without the directory. -/
theorem putGateway_of_bad {σ : Type} (s : Service σ) (hsegment : segmentName? segment = some name)
    (hbad : ∀ p, ¬ IsWrite segment r name p) :
    ∃ message, s.putGateway name r = return failure 400 name message := by
  unfold putGateway
  split
  · exact ⟨_, rfl⟩
  · rename_i hname
    split
    · exact ⟨_, rfl⟩
    · rename_i p hp
      split
      · exact ⟨_, rfl⟩
      · rename_i hid
        exact absurd ⟨hsegment, by simpa using hname, hp, hid⟩ (hbad p)

/-- A registry in memory answers such a request at once, and its store stays. -/
theorem putGateway_bad (token : Option String) (h : Host)
    (hsegment : segmentName? segment = some name)
    (hbad : ∀ p, ¬ IsWrite segment r name p) :
    ∃ message,
      ((Host.registry token).putGateway name r).Answers h (failure 400 name message) h := by
  obtain ⟨message, hfixed⟩ := putGateway_of_bad (Host.registry token) hsegment hbad
  rw [hfixed]
  exact ⟨message, Timed.Answers.pure _ h⟩

/-- A sound write of an id that is not authorized is answered 401, and the store stays. -/
theorem putGateway_refused {p : Payload} (hw : IsWrite segment r name p)
    (hauth : isAuthorized (effective token) (boundToken h.store name) p.token = false) :
    ((Host.registry token).putGateway name r).Answers h
      (failure 401 name Error.unauthorized.message) h := by
  simp only [putGateway, hw.valid, hw.body_eq, hw.id_ne, Bool.not_true, Bool.false_eq_true,
    if_false]
  exact authorize_refuses hauth

/-- An authorized write of an id is the store's write, and the response carries what is stored. -/
theorem putGateway_written {p : Payload} (hw : IsWrite segment r name p)
    (hauth : isAuthorized (effective token) (boundToken h.store name) p.token = true) :
    ((Host.registry token).putGateway name r).Answers h
      (found (h.store.written h.now name p.id).name (h.store.written h.now name p.id).id)
      { h with store := (h.store.put h.now name p.id).2 } := by
  simp only [putGateway, hw.valid, hw.body_eq, hw.id_ne, Bool.not_true, Bool.false_eq_true,
    if_false]
  have hput := directory_answers token h (.put name p.id)
  simp only [Store.answer, Store.put_of_valid hw.valid hw.id_ne] at hput
  rw [Store.put_of_valid hw.valid hw.id_ne]
  exact authorize_allows hauth
    (hput.bind ((Timed.Answers.report _ _).bind (Timed.Answers.pure _ _)))

/-! ## Writing a token -/

/-- A body or a name that is no sound write of a token is answered without the directory. -/
theorem putToken_of_bad {σ : Type} (s : Service σ) (hsegment : segmentName? segment = some name)
    (hbad : ∀ u, ¬ IsBinding segment r name u) :
    ∃ message, s.putToken name r = return failure 400 name message := by
  unfold putToken
  split
  · exact ⟨_, rfl⟩
  · rename_i hname
    split
    · exact ⟨_, rfl⟩
    · rename_i u hu
      split
      · exact ⟨_, rfl⟩
      · rename_i htoken
        exact absurd ⟨hsegment, by simpa using hname, hu, htoken⟩ (hbad u)

/-- A registry in memory answers such a request at once, and its store stays. -/
theorem putToken_bad (token : Option String) (h : Host)
    (hsegment : segmentName? segment = some name)
    (hbad : ∀ u, ¬ IsBinding segment r name u) :
    ∃ message, ((Host.registry token).putToken name r).Answers h (failure 400 name message) h := by
  obtain ⟨message, hfixed⟩ := putToken_of_bad (Host.registry token) hsegment hbad
  rw [hfixed]
  exact ⟨message, Timed.Answers.pure _ h⟩

/-- A sound write of a token that is not authorized is answered 401, and the store stays. -/
theorem putToken_refused {u : TokenUpdate} (hb : IsBinding segment r name u)
    (hauth : isAuthorized (effective token) (boundToken h.store name) u.writeToken = false) :
    ((Host.registry token).putToken name r).Answers h
      (failure 401 name Error.unauthorized.message) h := by
  simp only [putToken, hb.valid, hb.body_eq, hb.token_ne, Bool.not_true, Bool.false_eq_true,
    if_false]
  exact authorize_refuses hauth

/-- An authorized write of a token to a gateway without an entry is answered 404. -/
theorem putToken_absent {u : TokenUpdate} (hb : IsBinding segment r name u)
    (hauth : isAuthorized (effective token) (boundToken h.store name) u.writeToken = true)
    (he : h.store.get? name = none) :
    ((Host.registry token).putToken name r).Answers h
      (failure 404 name (Error.notFound name).message) h := by
  simp only [putToken, hb.valid, hb.body_eq, hb.token_ne, Bool.not_true, Bool.false_eq_true,
    if_false]
  have hput := directory_answers token h (.putToken name u.token)
  simp only [Store.answer, Store.putToken_of_none he] at hput
  exact authorize_allows hauth (hput.bind (Timed.Answers.pure _ _))

/-- An authorized write of a token is the store's. -/
theorem putToken_bound {u : TokenUpdate} {e : Entry} (hb : IsBinding segment r name u)
    (hauth : isAuthorized (effective token) (boundToken h.store name) u.writeToken = true)
    (he : h.store.get? name = some e) :
    ((Host.registry token).putToken name r).Answers h (.empty 204)
      { h with store := h.store.insert name (e.bind u.token) } := by
  simp only [putToken, hb.valid, hb.body_eq, hb.token_ne, Bool.not_true, Bool.false_eq_true,
    if_false]
  have hput := directory_answers token h (.putToken name u.token)
  simp only [Store.answer, Store.putToken_of_some he] at hput
  exact authorize_allows hauth (hput.bind (Timed.Answers.pure _ _))

/-! ## Requests -/

/-- The computation answers, not with 500, and leaves everything as it is. -/
def Keeps (x : Timed Host Response) (h : Host) : Prop :=
  ∃ response, x.Answers h response h ∧ response.status ≠ 500

/-- A response that is fixed keeps everything. -/
theorem keeps_pure {response : Response} (hstatus : response.status ≠ 500) :
    Keeps (return response) h :=
  ⟨response, Timed.Answers.pure _ h, hstatus⟩

/-- A segment that is no text is answered 400, before the handler. -/
theorem withName_of_none {next : String → Timed Host Response}
    (hsegment : segmentName? segment = none) :
    ∃ response, (withName segment next).Answers h response h ∧ response.status = 400 := by
  simp only [withName, hsegment]
  exact ⟨_, Timed.Answers.pure _ h, rfl⟩

/-- A segment that is a text comes to the handler as that text. -/
theorem withName_of_some {next : String → Timed Host Response}
    (hsegment : segmentName? segment = some name) : withName segment next = next name := by
  simp only [withName, hsegment]

/-- A body up to the limit comes to the handler. -/
theorem withBody_of_le {next : Timed Host Response} (hsize : r.body.size ≤ maxBodyBytes) :
    withBody r next = next := by
  simp only [withBody, Nat.not_lt.2 hsize, if_false]

/-- A body beyond the limit is refused before it is looked at. -/
theorem withBody_of_lt {next : Timed Host Response} (hsize : maxBodyBytes < r.body.size) :
    Keeps (withBody r next) h := by
  simp only [withBody, hsize, if_true]
  exact keeps_pure (by simp)

/-- A question about a gateway never changes anything, be it found or not. -/
theorem getGateway_keeps : Keeps ((Host.registry token).getGateway name) h := by
  cases hname : isValidName name with
  | false => exact ⟨_, getGateway_invalid hname, by simp⟩
  | true =>
    cases he : h.store.get? name with
    | none => exact ⟨_, getGateway_absent hname he, by simp⟩
    | some e => exact ⟨_, getGateway_present hname he, by simp⟩

/-- A path that leads nowhere is answered by any registry alike. -/
theorem handle_of_unrouted {σ : Type} (s : Service σ) (hroute : routeOf r = none) :
    s.handle r = return .empty 404 := by
  simp only [handle, show Route.ofPath? (targetPath r.target) = none from hroute]

/-- A GET along the path of a gateway asks about it. -/
theorem handle_get_gateway (hroute : routeOf r = some (.gateway segment))
    (hget : r.method = "GET") :
    (Host.registry token).handle r = withName segment (Host.registry token).getGateway := by
  simp [handle, dispatch, show Route.ofPath? (targetPath r.target) = _ from hroute, hget]

/-- A GET along the path of the list asks for all entries. -/
theorem handle_gateways (hroute : routeOf r = some .gateways) (hget : r.method = "GET") :
    (Host.registry token).handle r = (Host.registry token).dump := by
  simp [handle, dispatch, show Route.ofPath? (targetPath r.target) = _ from hroute, hget]

/-- A PUT along the path of a gateway writes an id, once segment and body are taken. -/
theorem handle_put_gateway {s : Service Host} (hroute : routeOf r = some (.gateway segment))
    (hput : r.method = "PUT") :
    s.handle r = withName segment fun name => withBody r (s.putGateway name r) := by
  simp [handle, dispatch, show Route.ofPath? (targetPath r.target) = _ from hroute, hput]

/-- A PUT along the path of the token of a gateway binds one, once segment and body are taken. -/
theorem handle_put_token {s : Service Host} (hroute : routeOf r = some (.gatewayToken segment))
    (hput : r.method = "PUT") :
    s.handle r = withName segment fun name => withBody r (s.putToken name r) := by
  simp [handle, dispatch, show Route.ofPath? (targetPath r.target) = _ from hroute, hput]

/-- A request to write an id comes to the handler if its segment is a text and its body is not too
long. -/
theorem handle_putGateway {s : Service Host} (hroute : routeOf r = some (.gateway segment))
    (hput : r.method = "PUT") (hsegment : segmentName? segment = some name)
    (hsize : r.body.size ≤ maxBodyBytes) : s.handle r = s.putGateway name r := by
  rw [handle_put_gateway hroute hput, withName_of_some hsegment, withBody_of_le hsize]

/-- A request to bind a token comes to the handler under the same conditions. -/
theorem handle_putToken {s : Service Host} (hroute : routeOf r = some (.gatewayToken segment))
    (hput : r.method = "PUT") (hsegment : segmentName? segment = some name)
    (hsize : r.body.size ≤ maxBodyBytes) : s.handle r = s.putToken name r := by
  rw [handle_put_token hroute hput, withName_of_some hsegment, withBody_of_le hsize]

/-- The request asks for a write of an id or of a token. -/
def AsksWrite (r : Request) : Prop :=
  r.method = "PUT" ∧ ∃ segment,
    routeOf r = some (.gateway segment) ∨ routeOf r = some (.gatewayToken segment)

/-- A route answers a method that it has no write for from the store as it is. -/
theorem dispatch_keeps (token : Option String) (h : Host) {route : Route} {r : Request}
    (hwrite : r.method = "PUT" →
      ∀ segment, route ≠ .gateway segment ∧ route ≠ .gatewayToken segment) :
    Keeps ((Host.registry token).dispatch route r) h := by
  -- each route by the methods that it knows; PUT is left out where it writes
  cases route with
  | health =>
    simp only [dispatch]
    split <;> exact keeps_pure (by decide)
  | gateways =>
    simp only [dispatch]
    split
    · exact ⟨_, dump_answers token h, by simp⟩
    · exact keeps_pure (by decide)
  | gateway segment =>
    have hput : r.method ≠ "PUT" := fun hput => (hwrite hput segment).1 rfl
    simp only [dispatch, hput, if_false]
    split
    · cases hsegment : segmentName? segment with
      | none =>
        obtain ⟨response, hanswer, hstatus⟩ := withName_of_none (h := h) hsegment
        exact ⟨response, hanswer, by simp [hstatus]⟩
      | some name =>
        rw [withName_of_some hsegment]
        exact getGateway_keeps
    · exact keeps_pure (by simp)
  | gatewayToken segment =>
    have hput : r.method ≠ "PUT" := fun hput => (hwrite hput segment).2 rfl
    simp only [dispatch, hput, if_false]
    exact keeps_pure (by simp)

/-- **A request that asks for no write leaves the store as it is.** -/
theorem handle_keeps (hwrite : ¬ AsksWrite r) : Keeps ((Host.registry token).handle r) h := by
  unfold handle
  split
  · exact keeps_pure (by decide)
  · rename_i route hroute
    split
    · obtain ⟨response, hanswer, hstatus⟩ := dispatch_keeps token h
        (fun hput => absurd hput (by simp)) (r := { r with method := "GET" })
      exact ⟨_, hanswer.bind (Timed.Answers.pure _ h), hstatus⟩
    · refine dispatch_keeps token h fun hput segment => ⟨fun heq => ?_, fun heq => ?_⟩
      · exact hwrite ⟨hput, segment, .inl (hroute.trans (congrArg some heq))⟩
      · exact hwrite ⟨hput, segment, .inr (hroute.trans (congrArg some heq))⟩

/-! ## What a request does -/

/-- The three ways in which a registry handles a request, with what is known in each. -/
inductive Handled (token : Option String) (h : Host) (r : Request) : Response → Store → Prop
  /-- The store is as it was. -/
  | kept {response : Response} (hstatus : response.status ≠ 500) :
    Handled token h r response h.store
  /-- An id was written. -/
  | written {segment name : String} {p : Payload} (hroute : routeOf r = some (.gateway segment))
    (hput : r.method = "PUT") (hw : IsWrite segment r name p)
    (hauth : isAuthorized (effective token) (boundToken h.store name) p.token = true) :
    Handled token h r
      (found (h.store.written h.now name p.id).name (h.store.written h.now name p.id).id)
      (h.store.put h.now name p.id).2
  /-- A token was bound. -/
  | bound {segment name : String} {u : TokenUpdate} {e : Entry}
    (hroute : routeOf r = some (.gatewayToken segment)) (hput : r.method = "PUT")
    (hb : IsBinding segment r name u)
    (hauth : isAuthorized (effective token) (boundToken h.store name) u.writeToken = true)
    (he : h.store.get? name = some e) :
    Handled token h r (.empty 204) (h.store.insert name (e.bind u.token))

/-- The computation handles the request in one of the three ways. -/
def Handles (token : Option String) (h : Host) (r : Request) (x : Timed Host Response) : Prop :=
  ∃ response s, x.Answers h response { h with store := s } ∧ Handled token h r response s

/-- A request that keeps everything is handled in the first of the three ways. -/
theorem Keeps.handles {x : Timed Host Response} (hx : Keeps x h) : Handles token h r x := by
  obtain ⟨response, hanswer, hstatus⟩ := hx
  exact ⟨response, h.store, hanswer, .kept hstatus⟩

/-- A segment that is no text and a body that is too long are answered before the handler runs. -/
theorem handles_withName {next : String → Timed Host Response}
    (hnext : ∀ name, segmentName? segment = some name → Handles token h r (next name)) :
    Handles token h r (withName segment fun name => withBody r (next name)) := by
  cases hsegment : segmentName? segment with
  | none =>
    obtain ⟨response, hanswer, hstatus⟩ := withName_of_none (h := h) hsegment
    exact Keeps.handles ⟨response, hanswer, by simp [hstatus]⟩
  | some name =>
    rw [withName_of_some hsegment]
    -- the segment is looked at before the body
    rcases Nat.lt_or_ge maxBodyBytes r.body.size with hsize | hsize
    · exact (withBody_of_lt hsize).handles
    · rw [withBody_of_le hsize]
      exact hnext name hsegment

/-- A request to write an id is refused, or it is an accepted write. -/
theorem handles_putGateway (hroute : routeOf r = some (.gateway segment)) (hput : r.method = "PUT")
    (hsegment : segmentName? segment = some name) :
    Handles token h r ((Host.registry token).putGateway name r) := by
  by_cases hw : ∃ p, IsWrite segment r name p
  · obtain ⟨p, hw⟩ := hw
    cases hauth : isAuthorized (effective token) (boundToken h.store name) p.token with
    | false => exact Keeps.handles ⟨_, putGateway_refused hw hauth, by simp⟩
    | true => exact ⟨_, _, putGateway_written hw hauth, .written hroute hput hw hauth⟩
  · -- what is no sound write is refused before the directory is asked
    obtain ⟨message, hanswer⟩ := putGateway_bad token h hsegment fun p hp => hw ⟨p, hp⟩
    exact Keeps.handles ⟨_, hanswer, by simp⟩

/-- A request to bind a token is refused, or it is an accepted write. -/
theorem handles_putToken (hroute : routeOf r = some (.gatewayToken segment))
    (hput : r.method = "PUT") (hsegment : segmentName? segment = some name) :
    Handles token h r ((Host.registry token).putToken name r) := by
  by_cases hb : ∃ u, IsBinding segment r name u
  · obtain ⟨u, hb⟩ := hb
    cases hauth : isAuthorized (effective token) (boundToken h.store name) u.writeToken with
    | false => exact Keeps.handles ⟨_, putToken_refused hb hauth, by simp⟩
    | true =>
      cases he : h.store.get? name with
      | none => exact Keeps.handles ⟨_, putToken_absent hb hauth he, by simp⟩
      | some e => exact ⟨_, _, putToken_bound hb hauth he, .bound hroute hput hb hauth he⟩
  · obtain ⟨message, hanswer⟩ := putToken_bad token h hsegment fun u hu => hb ⟨u, hu⟩
    exact Keeps.handles ⟨_, hanswer, by simp⟩

/-- **Every request is answered at once, in one of three ways.** -/
theorem handle_handles (token : Option String) (h : Host) (r : Request) :
    Handles token h r ((Host.registry token).handle r) := by
  by_cases hwrite : AsksWrite r
  · obtain ⟨hput, segment, hroute | hroute⟩ := hwrite
    · rw [handle_put_gateway hroute hput]
      exact handles_withName fun name => handles_putGateway hroute hput
    · rw [handle_put_token hroute hput]
      exact handles_withName fun name => handles_putToken hroute hput
  · exact (handle_keeps hwrite).handles

end Service

end GatewayDirectory.Registry
