import GatewayDirectory.Proofs.Registry.Requests
import GatewayDirectory.Proofs.Timed.Limits

/-!
# A remote stands for the directory behind it

A `Remote` whose requests all come to one registry in memory, and whose responses all come back in
time, answers as the directory behind that registry would (`stands_for_directory`). It tells name
and id of an entry; it writes an id or a token exactly where the registry allows it, and then leaves
the store that the write itself leaves; and it lists every entry, without its token. A request is
answered as the registry answers it at some time (`PointsAt.request_served`), and each status stands
for one outcome.
-/

namespace GatewayDirectory

open Directory Http Text Registry

namespace Remote

/-! ## A registry within reach -/

/-- What is sent to the host comes to the registry, once, and its response is back within the limit.
The registry's clock goes on meanwhile; nobody else writes. -/
def Reaches (network : Network Host) (authority : String) (token : Option String)
    (timeout : Nat) : Prop :=
  ∀ url r t h, url.authority = some authority → ∃ now response s' later t',
    (network url r).Ends t h (some response) t' ⟨later, s'⟩ ∧ t' ≤ t + timeout ∧
      ((Host.registry token).handle r).Answers ⟨now, h.store⟩ response ⟨now, s'⟩

/-- The remote is one of the registry with that token, which is reached at the origin. -/
structure PointsAt (remote : Remote Host) (o : Origin) (token : Option String) : Prop where
  base_eq : remote.base = o.text
  reaches : Reaches remote.network o.authority token remote.timeout

/-- A remote that is created for the address of a registry points at it, however many slashes end
the address. -/
theorem create_pointsAt {network : Network Host} {o : Origin} {token : Option String}
    {timeout : Nat} (h : Reaches network o.authority token timeout) (slashes : Nat)
    (own : Option String) :
    PointsAt (create network (o.text ++ String.ofList (List.replicate slashes '/')) timeout own) o
      token :=
  ⟨o.dropTrailing_text slashes, h⟩

/-- Run from the time `t`, the computation ends within the limit. The law holds of the time at which
the registry handled the request, of the answer and of the store that is left. -/
def Served {α : Type} (timeout t : Nat) (h : Host) (x : Timed Host α)
    (law : Instant → α → Store → Prop) : Prop :=
  ∃ now a s' later t', x.Ends t h a t' ⟨later, s'⟩ ∧ t' ≤ t + timeout ∧ law now a s'

section Served

variable {α β : Type} {timeout timeout' t : Nat} {h : Host} {x : Timed Host α}
  {f : α → Timed Host β} {law : Instant → α → Store → Prop} {law' : Instant → β → Store → Prop}

/-- What needs no request is served at any time. -/
theorem Served.pure {a : α} (now : Instant) (hlaw : law now a h.store) :
    Served timeout t h (return a) law :=
  ⟨now, a, h.store, h.now, t, Timed.Ends.pure a t h, Nat.le_add_right t timeout, hlaw⟩

/-- What is served under a law is served under every law that follows from it. -/
theorem Served.imp {law' : Instant → α → Store → Prop} (hx : Served timeout t h x law)
    (himp : ∀ now a s', law now a s' → law' now a s') : Served timeout t h x law' := by
  obtain ⟨now, a, s', later, t', hends, hle, hlaw⟩ := hx
  exact ⟨now, a, s', later, t', hends, hle, himp now a s' hlaw⟩

/-- What is made of a response at once is served as the response is. -/
theorem Served.andThen (hx : Served timeout t h x law)
    (hf : ∀ now a s', law now a s' → ∀ later,
      ∃ b, (f a).Answers ⟨later, s'⟩ b ⟨later, s'⟩ ∧ law' now b s') :
    Served timeout t h (x >>= f) law' := by
  obtain ⟨now, a, s', later, t', hends, hle, hlaw⟩ := hx
  obtain ⟨b, hanswer, hlaw'⟩ := hf now a s' hlaw later
  exact ⟨now, b, s', later, t', hends.bind (hanswer.ends t'), hle, hlaw'⟩

/-- Served computations follow each other, and the limit of the whole is the sum of the two. -/
theorem Served.followed (hx : Served timeout t h x law)
    (hf : ∀ now a s', law now a s' → ∀ later t', Served timeout' t' ⟨later, s'⟩ (f a) law') :
    Served (timeout + timeout') t h (x >>= f) law' := by
  obtain ⟨now, a, s', later, t', hends, hle, hlaw⟩ := hx
  obtain ⟨now', b, s'', later', t'', hends', hle', hlaw'⟩ := hf now a s' hlaw later t'
  refine ⟨now', b, s'', later', t'', hends.bind hends', ?_, hlaw'⟩
  omega

/-- What is reported before does not matter. -/
theorem Served.report (hx : Served timeout t h x law) (e : Event) :
    Served timeout t h (Timed.report e >>= fun _ => x) law := by
  obtain ⟨now, a, s', later, t', hends, hle, hlaw⟩ := hx
  exact ⟨now, a, s', later, t', hends.reported e, hle, hlaw⟩

end Served

section Request

variable {remote : Remote Host} {o : Origin} {token : Option String} {h : Host}
  {segments : List (List Char)} {method : String} {body : Option Json}
  {response : Instant → Response} {after : Instant → Store}

/-- What is sent to an address of the origin ends as the network ends, if that is in time. -/
theorem exchange_ends {network : Network Host} {timeout t t' : Nat} {h' : Host}
    {address path : String}
    (hread : Url.read? address = some ⟨o.scheme, some o.authority, path, none, none⟩)
    {contentTypes : List String} {bytes : ByteArray} {response : Response}
    (hends : (network ⟨o.scheme, some o.authority, path, none, none⟩
      ⟨method, path, contentTypes, bytes⟩).Ends t h (some response) t' h')
    (hle : t' ≤ t + timeout) :
    (network.exchange timeout method address contentTypes bytes).Ends t h (.ok response) t' h' := by
  have hhttp : Url.isHttp ⟨o.scheme, some o.authority, path, none, none⟩ = true := by
    rcases o.scheme_eq with hs | hs <;> simp [Url.isHttp, hs]
  have htarget : Url.target ⟨o.scheme, some o.authority, path, none, none⟩ = path := by
    simp [Url.target]
  simp only [Network.exchange, hread, hhttp, htarget, Bool.not_true, Bool.false_eq_true, if_false]
  exact (hends.bounded hle).bind ((Timed.Answers.pure _ _).ends t')

/-- **A request is answered by the registry**, as the registry answers it at some time. -/
theorem PointsAt.exchange_served (hp : PointsAt remote o token) {address path : String}
    (hread : Url.read? address = some ⟨o.scheme, some o.authority, path, none, none⟩)
    {contentTypes : List String} {bytes : ByteArray}
    (hanswer : ∀ now,
      ((Host.registry token).handle ⟨method, path, contentTypes, bytes⟩).Answers
        ⟨now, h.store⟩ (response now) ⟨now, after now⟩) (t : Nat) :
    Served remote.timeout t h
      (remote.network.exchange remote.timeout method address contentTypes bytes)
      fun now a s' => a = .ok (response now) ∧ s' = after now := by
  obtain ⟨now, r, s', later, t', hends, hle, hr⟩ :=
    hp.reaches ⟨o.scheme, some o.authority, path, none, none⟩ ⟨method, path, contentTypes, bytes⟩
      t h rfl
  -- the registry has one answer to the request at that time
  obtain ⟨rfl, heq⟩ := hr.unique (hanswer now)
  cases heq
  exact ⟨now, .ok (response now), after now, later, t', exchange_ends hread hends hle, hle, rfl,
    rfl⟩

/-- What a remote makes of a response. -/
def judge (name : String) (r : Response) : Result Response :=
  if r.isSuccess then .ok r else .error (errorOf name r)

/-- The registry is asked along the path that an address resolves to. -/
theorem PointsAt.resolved_served (hp : PointsAt remote o token) {resolved : List (List Char)}
    (hplain : Plain segments) (hne : segments ≠ [])
    (hpath : Url.pathOf (pathChars segments) = String.ofList (pathChars resolved))
    (hanswer : ∀ now, ((Host.registry token).handle (sent method resolved body)).Answers
      ⟨now, h.store⟩ (response now) ⟨now, after now⟩) (name : String) (t : Nat) :
    Served remote.timeout t h
      (remote.request name method (remote.base ++ String.ofList (pathChars segments)) body)
      fun now a s' => a = judge name (response now) ∧ s' = after now := by
  have hread := o.read?_append hplain hne
  rw [hpath] at hread
  rw [hp.base_eq]
  -- a request without a body is sent with an empty one
  cases body with
  | none | some v =>
    refine (hp.exchange_served hread hanswer t).andThen fun now a s' ha later => ?_
    obtain ⟨rfl, rfl⟩ := ha
    exact ⟨_, Timed.Answers.pure _ _, rfl, rfl⟩

/-- A request along a path that is kept as it is comes to the registry as it was meant. -/
theorem PointsAt.request_served (hp : PointsAt remote o token) (hsegments : Verbatim segments)
    (hanswer : ∀ now, ((Host.registry token).handle (sent method segments body)).Answers
      ⟨now, h.store⟩ (response now) ⟨now, after now⟩) (name : String) (t : Nat) :
    Served remote.timeout t h
      (remote.request name method (remote.base ++ String.ofList (pathChars segments)) body)
      fun now a s' => a = judge name (response now) ∧ s' = after now :=
  hp.resolved_served hsegments.plain hsegments.ne_nil hsegments.pathOf_eq hanswer name t

end Request

/-! ## Outcomes -/

/-- A response that is no success is an error. -/
theorem judge_of_not_isSuccess {name : String} {r : Response} (h : r.isSuccess = false) :
    judge name r = .error (errorOf name r) := by
  simp [judge, h]

/-- A gateway that is found is a success. -/
@[simp] theorem judge_found (name id other : String) :
    judge other (found name id) = .ok (found name id) := by
  simp [judge, Response.isSuccess]

/-- A token that was bound is a success. -/
@[simp] theorem judge_empty (name : String) : judge name (.empty 204) = .ok (.empty 204) := by
  simp [judge, Response.isSuccess]

/-- A list is a success. -/
@[simp] theorem judge_json (name text : String) :
    judge name (.json 200 text) = .ok (.json 200 text) := by
  simp [judge, Response.isSuccess]

/-- A 404 stands for a gateway that is not found. -/
@[simp] theorem judge_absent (name other message : String) :
    judge name (failure 404 other message) = .error (.notFound name) := by
  simp [judge, Response.isSuccess, errorOf]

/-- A 401 stands for a write that is not authorized. -/
@[simp] theorem judge_refused (name other message : String) :
    judge name (failure 401 other message) = .error .unauthorized := by
  simp [judge, Response.isSuccess, errorOf]

/-- A 400 stands for no outcome of a directory; it is told as a failure of the backend. -/
theorem judge_bad (name other message : String) :
    ∃ text, judge name (failure 400 other message) = .error (.backend text) := by
  simp [judge, Response.isSuccess, errorOf]

/-- A remote reads the reply of a registry back. -/
theorem readBody_found (name id : String) :
    readBody Reply.decode (found name id) = .ok (Reply.found name id) := by
  simp only [readBody, found, Response.json]
  rw [Json.decode_compact Reply.decode (Reply.exact_toJson _), Reply.decode_toJson]

/-- How the entry of a gateway is told: `s` is the store behind, and `s'` the store that is left. -/
structure GetLaw (s : Store) (name : String) (a : Result Entry) (s' : Store) : Prop where
  kept : s' = s
  ok_iff : (∃ e, a = .ok e) ↔ ∃ e, s.get name = .ok e
  tells : ∀ e e', s.get name = .ok e → a = .ok e' → e'.name = e.name ∧ e'.id = e.id
  absent_iff : a = .error (.notFound name) ↔ s.get name = .error (.notFound name)

/-- How a write of an id comes out, with the token that was sent. -/
structure PutLaw (shared supplied : Option String) (s : Store) (name id : String) (now : Instant)
    (a : Result Entry) (s' : Store) : Prop where
  ok_iff : (∃ e, a = .ok e) ↔
    id ≠ "" ∧ isAuthorized (effective shared) (boundToken s name) supplied = true
  refused_iff : a = .error .unauthorized ↔
    id ≠ "" ∧ isAuthorized (effective shared) (boundToken s name) supplied = false
  bad_iff : (∃ message, a = .error (.backend message)) ↔ id = ""
  written : ∀ e, a = .ok e → e.name = name ∧ e.id = id ∧
    s.put now name id = (.ok (s.written now name id), s')
  kept : ∀ e, a = .error e → s' = s

/-- How a write of a token comes out, with the authorization that was sent. -/
structure BindLaw (shared supplied : Option String) (s : Store) (name token : String)
    (a : Result Unit) (s' : Store) : Prop where
  ok_iff : a = .ok () ↔ token ≠ "" ∧
    isAuthorized (effective shared) (boundToken s name) supplied = true ∧ ∃ e, s.get name = .ok e
  refused_iff : a = .error .unauthorized ↔
    token ≠ "" ∧ isAuthorized (effective shared) (boundToken s name) supplied = false
  absent_iff : a = .error (.notFound name) ↔ token ≠ "" ∧
    isAuthorized (effective shared) (boundToken s name) supplied = true ∧
      s.get name = .error (.notFound name)
  bad_iff : (∃ message, a = .error (.backend message)) ↔ token = ""
  bound : a = .ok () → s.putToken name token = (.ok (), s')
  kept : ∀ e, a = .error e → s' = s

section Laws

variable {remote : Remote Host} {o : Origin} {token : Option String} {h : Host}
  {name : String}

/-! ## Questions -/

/-- A gateway without an entry is told as not found. -/
theorem GetLaw.absent {s : Store} (he : s.get? name = none) :
    GetLaw s name (.error (.notFound name)) s where
  kept := rfl
  ok_iff := by simp [Store.get, he]
  tells e e' _ ha := by cases ha
  absent_iff := by simp [Store.get, he]

/-- A gateway with an entry is told with its name and its id. -/
theorem GetLaw.present {s : Store} {e e' : Entry} (he : s.get? name = some e)
    (hname : e'.name = e.name) (hid : e'.id = e.id) : GetLaw s name (.ok e') s where
  kept := rfl
  ok_iff := by simp [Store.get, he]
  tells e₁ e₂ h₁ h₂ := by
    cases h₂
    obtain rfl := Option.some.inj (he.symm.trans (Store.get_eq_ok_iff.1 h₁))
    exact ⟨hname, hid⟩
  absent_iff := by simp [Store.get, he]

/-- What a remote is told of a gateway: name and id, and nothing else. -/
theorem PointsAt.get_told (hp : PointsAt remote o token) (hs : h.store.Sound)
    (hname : Addressable name) (t : Nat) :
    Served remote.timeout t h (remote.get Host.now name) fun _ a s' => s' = h.store ∧
      ((h.store.get? name = none ∧ a = .error (.notFound name)) ∨
        ∃ e later, h.store.get? name = some e ∧
          a = .ok { Entry.create e.name e.id later with counter := 0 }) := by
  rw [Remote.get, text_gatewayPath]
  cases he : h.store.get? name with
  | none =>
    have hanswer (now : Instant) := handle_sent_get token hname ▸
      Service.getGateway_absent (h := ⟨now, h.store⟩) hname.valid he
    refine (hp.request_served (verbatim_gatewayPath hname) hanswer name t).andThen ?_
    rintro now _ _ ⟨rfl, rfl⟩ later
    rw [judge_absent]
    exact ⟨_, Timed.Answers.pure _ _, rfl, .inl ⟨rfl, rfl⟩⟩
  | some e =>
    have hfits := hs name e he
    have hanswer (now : Instant) := handle_sent_get token hname ▸
      Service.getGateway_present (h := ⟨now, h.store⟩) hname.valid he
    refine (hp.request_served (verbatim_gatewayPath hname) hanswer name t).andThen ?_
    rintro now _ _ ⟨rfl, rfl⟩ later
    refine ⟨.ok { Entry.create e.name e.id later with counter := 0 }, ?_, rfl,
      .inr ⟨e, later, rfl, rfl⟩⟩
    simp only [judge_found, readBody_found, Reply.found, if_neg hfits.id_ne]
    exact (Timed.Answers.read _ _).bind (Timed.Answers.pure _ _)

/-- **A question about a gateway** is answered as the directory behind answers it. -/
theorem PointsAt.get_served (hp : PointsAt remote o token) (hs : h.store.Sound)
    (hname : Addressable name) (t : Nat) :
    Served remote.timeout t h (remote.get Host.now name) fun _ => GetLaw h.store name := by
  refine (hp.get_told hs hname t).imp ?_
  rintro _ _ _ ⟨rfl, ⟨he, rfl⟩ | ⟨e, later, he, rfl⟩⟩
  · exact .absent he
  · exact .present he rfl rfl

/-! ## Writes of an id -/

section Writes

variable {shared supplied : Option String} {s : Store} {now : Instant} {id : String}

/-- An empty id is refused by the registry, and nothing is written. -/
theorem PutLaw.empty {message : String} :
    PutLaw shared supplied s name "" now (.error (.backend message)) s where
  ok_iff := by simp
  refused_iff := by simp
  bad_iff := by simp
  written e he := by cases he
  kept _ _ := rfl

/-- A write that is not authorized is told as such, and nothing is written. -/
theorem PutLaw.refused (hid : id ≠ "")
    (hauth : isAuthorized (effective shared) (boundToken s name) supplied = false) :
    PutLaw shared supplied s name id now (.error .unauthorized) s where
  ok_iff := by simp [hauth]
  refused_iff := by simp [hid, hauth]
  bad_iff := by simp [hid]
  written e he := by cases he
  kept _ _ := rfl

/-- A write that is authorized leaves the store that the write itself leaves. -/
theorem PutLaw.allowed {e : Entry} (hvalid : isValidName name = true) (hid : id ≠ "")
    (hauth : isAuthorized (effective shared) (boundToken s name) supplied = true)
    (hname : e.name = name) (hid' : e.id = id) :
    PutLaw shared supplied s name id now (.ok e) (s.put now name id).2 where
  ok_iff := by simp [hid, hauth]
  refused_iff := by simp [hauth]
  bad_iff := by simp [hid]
  written e' he' := by
    cases he'
    exact ⟨hname, hid', by rw [Store.put_of_valid hvalid hid]⟩
  kept _ he' := by cases he'

/-- The entry that a remote tells after a write, given what it made of the response. -/
def entryTold (later : Instant) : Result Response → Result Entry
  | .error e => .error e
  | .ok r =>
    match readBody Reply.decode r with
    | .error e => .error e
    | .ok reply => .ok (entryOf later reply)

/-- A write of an id comes out as the response to its request does. -/
theorem put_of_request {caller : Option String} {p : Payload}
    (hpayload : p = ⟨name, id, caller.or remote.writeToken⟩)
    {law : Instant → Result Response → Store → Prop} {timeout t : Nat}
    (hrequest : Served timeout t h
      (remote.request name "PUT" (gatewayAddress remote.base name) (some p.toJson)) law) :
    Served timeout t h (remote.put Host.now name id caller)
      fun now a s' => ∃ r later, a = entryTold later r ∧ law now r s' := by
  subst hpayload
  refine Served.report (hrequest.andThen ?_) _
  intro now r s' hlaw later
  refine ⟨_, ?_, r, later, rfl, hlaw⟩
  cases r with
  | error e => exact Timed.Answers.pure _ _
  | ok r =>
    simp only [entryTold]
    cases readBody Reply.decode r with
    | error e => exact Timed.Answers.pure _ _
    | ok reply => exact (Timed.Answers.read _ _).bind (Timed.Answers.pure _ _)

/-- A write of an id comes out as the registry answers along the path that the address resolves
to. -/
theorem PointsAt.put_resolved (hp : PointsAt remote o token) {resolved : List (List Char)}
    (hpath : Url.pathOf (pathChars (gatewayPath name)) = String.ofList (pathChars resolved))
    {caller : Option String} {p : Payload} (hpayload : p = ⟨name, id, caller.or remote.writeToken⟩)
    {response : Instant → Response} {after : Instant → Store}
    (hanswer : ∀ now, ((Host.registry token).handle
      (sent "PUT" resolved (some p.toJson))).Answers ⟨now, h.store⟩ (response now)
        ⟨now, after now⟩)
    {law : Instant → Result Entry → Store → Prop}
    (hlaw : ∀ now later, law now (entryTold later (judge name (response now))) (after now))
    (t : Nat) : Served remote.timeout t h (remote.put Host.now name id caller) law := by
  have hrequest := hp.resolved_served (plain_gatewayPath name) (List.cons_ne_nil _ _) hpath hanswer
    name t
  rw [← text_gatewayPath] at hrequest
  refine (put_of_request hpayload hrequest).imp ?_
  rintro now _ _ ⟨_, later, rfl, rfl, rfl⟩
  exact hlaw now later

/-- A write of an id comes out as its handler decides. -/
theorem PointsAt.put_served_of (hp : PointsAt remote o token) (hname : Addressable name)
    {caller : Option String} {p : Payload} (hpayload : p = ⟨name, id, caller.or remote.writeToken⟩)
    (hsize : (Json.compact p.toJson).toUTF8.size ≤ maxBodyBytes)
    {response : Instant → Response} {after : Instant → Store}
    (hanswer : ∀ now, ((Host.registry token).putGateway name
      (sent "PUT" (gatewayPath name) (some p.toJson))).Answers
        ⟨now, h.store⟩ (response now) ⟨now, after now⟩)
    {law : Instant → Result Entry → Store → Prop}
    (hlaw : ∀ now later, law now (entryTold later (judge name (response now))) (after now))
    (t : Nat) : Served remote.timeout t h (remote.put Host.now name id caller) law := by
  simp only [← handle_sent_write token hname hsize] at hanswer
  exact hp.put_resolved (verbatim_gatewayPath hname).pathOf_eq hpayload hanswer hlaw t

/-- A registry takes no empty id, whoever sends it. -/
theorem putGateway_sent_empty (token : Option String) (h : Host) {p : Payload} (hid : p.id = "") :
    ∃ message, ((Host.registry token).putGateway name
      (sent "PUT" (gatewayPath name) (some p.toJson))).Answers h (failure 400 name message) h := by
  refine Service.putGateway_bad token h (segmentName?_encode name) fun p' hw => hw.id_ne ?_
  have hbody := hw.body_eq
  rw [decodeBody_sent _ _ p.exact_toJson, p.decode_toJson] at hbody
  cases hbody
  exact hid

/-- **A write of an id** is that of the directory behind, where the registry allows it. -/
theorem PointsAt.put_served (hp : PointsAt remote o token) (hs : h.store.Sound)
    (hname : Addressable name) (id : String) (caller : Option String)
    (hsize : (Json.compact (Payload.mk name id (caller.or remote.writeToken)).toJson).toUTF8.size ≤
      maxBodyBytes) (t : Nat) :
    Served remote.timeout t h (remote.put Host.now name id caller)
      (PutLaw token (caller.or remote.writeToken) h.store name id) := by
  -- an empty id never comes to be authorized; for any other the token decides
  by_cases hid : id = ""
  · -- the registry may word its refusal by the time at which it handles the request
    subst hid
    choose message hanswer using fun now =>
      putGateway_sent_empty token ⟨now, h.store⟩
        (p := ⟨name, "", caller.or remote.writeToken⟩) rfl
    refine hp.put_served_of hname rfl hsize hanswer (fun now later => ?_) t
    obtain ⟨text, htext⟩ := judge_bad name name (message now)
    rw [htext]
    exact .empty
  · have hw := isWrite_sent hname (p := ⟨name, id, caller.or remote.writeToken⟩) hid
    cases hauth : isAuthorized (effective token) (boundToken h.store name)
        (caller.or remote.writeToken) with
    | false =>
      have hanswer (now : Instant) := Service.putGateway_refused (h := ⟨now, h.store⟩) hw hauth
      refine hp.put_served_of hname rfl hsize hanswer (fun now later => ?_) t
      rw [judge_refused]
      exact .refused hid hauth
    | true =>
      have hanswer (now : Instant) := Service.putGateway_written (h := ⟨now, h.store⟩) hw hauth
      refine hp.put_served_of hname rfl hsize hanswer (fun now later => ?_) t
      have htold (name' id' : String) :
          entryTold later (judge name (found name' id')) = .ok (.create name' id' later) := by
        simp only [judge_found, entryTold, readBody_found]
        rfl
      have hfits := hs.fits_written now hname.valid hid
      rw [htold]
      exact .allowed hname.valid hid hauth hfits.name_eq (h.store.id_written now name id)

/-- **No id is written under a name that cannot be addressed.** -/
theorem PointsAt.put_fails (hp : PointsAt remote o token) (hname : ¬ Addressable name)
    (id : String) (caller : Option String)
    (hsize : (Json.compact (Payload.mk name id (caller.or remote.writeToken)).toJson).toUTF8.size ≤
      maxBodyBytes) (t : Nat) :
    Served remote.timeout t h (remote.put Host.now name id caller)
      fun _ a s' => (∃ e, a = .error e) ∧ s' = h.store := by
  obtain ⟨resolved, response, hpath, hfails, hfixed⟩ := exists_refused token hname hsize
  have hanswer (now : Instant) := Timed.Answers.pure response (⟨now, h.store⟩ : Host)
  rw [← hfixed] at hanswer
  refine hp.put_resolved hpath rfl hanswer (fun now later => ?_) t
  rw [judge_of_not_isSuccess hfails]
  exact ⟨⟨_, rfl⟩, rfl⟩

/-! ## Writes of a token -/

variable {secret : String}

/-- An empty token is refused by the registry, and nothing is bound. -/
theorem BindLaw.empty {message : String} :
    BindLaw shared supplied s name "" (.error (.backend message)) s where
  ok_iff := by simp
  refused_iff := by simp
  absent_iff := by simp
  bad_iff := by simp
  bound hok := by cases hok
  kept _ _ := rfl

/-- A token that is not authorized is told as such, and nothing is bound. -/
theorem BindLaw.refused (hsecret : secret ≠ "")
    (hauth : isAuthorized (effective shared) (boundToken s name) supplied = false) :
    BindLaw shared supplied s name secret (.error .unauthorized) s where
  ok_iff := by simp [hauth]
  refused_iff := by simp [hsecret, hauth]
  absent_iff := by simp [hauth]
  bad_iff := by simp [hsecret]
  bound hok := by cases hok
  kept _ _ := rfl

/-- A gateway without an entry takes no token, even from one who is authorized. -/
theorem BindLaw.absent (hsecret : secret ≠ "")
    (hauth : isAuthorized (effective shared) (boundToken s name) supplied = true)
    (he : s.get? name = none) :
    BindLaw shared supplied s name secret (.error (.notFound name)) s where
  ok_iff := by simp [Store.get, he]
  refused_iff := by simp [hauth]
  absent_iff := by simp [hsecret, hauth, Store.get, he]
  bad_iff := by simp [hsecret]
  bound hok := by cases hok
  kept _ _ := rfl

/-- A token that is authorized is bound to the entry that is there. -/
theorem BindLaw.present {e : Entry} (hsecret : secret ≠ "")
    (hauth : isAuthorized (effective shared) (boundToken s name) supplied = true)
    (he : s.get? name = some e) :
    BindLaw shared supplied s name secret (.ok ()) (s.insert name (e.bind secret)) where
  ok_iff := by simp [hsecret, hauth, Store.get, he]
  refused_iff := by simp [hauth]
  absent_iff := by simp [Store.get, he]
  bad_iff := by simp [hsecret]
  bound _ := Store.putToken_of_some he
  kept _ he' := by cases he'

/-- A write of a token comes out as its handler decides. -/
theorem PointsAt.putToken_served_of (hp : PointsAt remote o token) (hname : Addressable name)
    {caller : Option String} {u : TokenUpdate} (hupdate : u = ⟨secret, caller.or remote.writeToken⟩)
    (hsize : (Json.compact u.toJson).toUTF8.size ≤ maxBodyBytes)
    {response : Instant → Response} {after : Instant → Store}
    (hanswer : ∀ now, ((Host.registry token).putToken name
      (sent "PUT" (tokenPath name) (some u.toJson))).Answers
        ⟨now, h.store⟩ (response now) ⟨now, after now⟩)
    {law : Result Unit → Store → Prop}
    (hlaw : ∀ now, law ((judge name (response now)).map fun _ => ()) (after now)) (t : Nat) :
    Served remote.timeout t h (remote.putToken name secret caller) fun _ => law := by
  subst hupdate
  simp only [← handle_sent_binding token hname hsize] at hanswer
  simp only [Remote.putToken, text_tokenPath]
  refine (hp.request_served (verbatim_tokenPath hname) hanswer name t).andThen ?_
  rintro now _ _ ⟨rfl, rfl⟩ later
  refine ⟨_, ?_, hlaw now⟩
  cases judge name (response now) with
  | error e => exact Timed.Answers.pure _ _
  | ok r => exact Timed.Answers.pure _ _

/-- A registry binds no empty token, whoever sends it. -/
theorem putToken_sent_empty (token : Option String) (h : Host) {u : TokenUpdate}
    (htoken : u.token = "") :
    ∃ message, ((Host.registry token).putToken name
      (sent "PUT" (tokenPath name) (some u.toJson))).Answers h (failure 400 name message) h := by
  refine Service.putToken_bad token h (segmentName?_encode name) fun u' hb => hb.token_ne ?_
  have hbody := hb.body_eq
  rw [decodeBody_sent _ _ u.exact_toJson, u.decode_toJson] at hbody
  cases hbody
  exact htoken

/-- **A write of a token** is that of the directory behind, where the registry allows it. -/
theorem PointsAt.putToken_served (hp : PointsAt remote o token) (hname : Addressable name)
    (secret : String) (caller : Option String)
    (hsize : (Json.compact (TokenUpdate.mk secret (caller.or remote.writeToken)).toJson).toUTF8.size
      ≤ maxBodyBytes) (t : Nat) :
    Served remote.timeout t h (remote.putToken name secret caller)
      fun _ => BindLaw token (caller.or remote.writeToken) h.store name secret := by
  -- an empty token never comes to be authorized; for any other the authorization decides, and then
  -- the entry
  by_cases hsecret : secret = ""
  · subst hsecret
    choose message hanswer using fun now =>
      putToken_sent_empty token ⟨now, h.store⟩
        (u := ⟨"", caller.or remote.writeToken⟩) rfl
    refine hp.putToken_served_of hname rfl hsize hanswer (fun now => ?_) t
    obtain ⟨text, htext⟩ := judge_bad name name (message now)
    rw [htext]
    exact .empty
  · have hb := isBinding_sent hname (u := ⟨secret, caller.or remote.writeToken⟩) hsecret
    cases hauth : isAuthorized (effective token) (boundToken h.store name)
        (caller.or remote.writeToken) with
    | false =>
      have hanswer (now : Instant) := Service.putToken_refused (h := ⟨now, h.store⟩) hb hauth
      refine hp.putToken_served_of hname rfl hsize hanswer (fun now => ?_) t
      rw [judge_refused]
      exact .refused hsecret hauth
    | true =>
      cases he : h.store.get? name with
      | none =>
        have hanswer (now : Instant) := Service.putToken_absent (h := ⟨now, h.store⟩) hb hauth he
        refine hp.putToken_served_of hname rfl hsize hanswer (fun now => ?_) t
        rw [judge_absent]
        exact .absent hsecret hauth he
      | some e =>
        have hanswer (now : Instant) := Service.putToken_bound (h := ⟨now, h.store⟩) hb hauth he
        refine hp.putToken_served_of hname rfl hsize hanswer (fun now => ?_) t
        rw [judge_empty]
        exact .present hsecret hauth he

end Writes

/-! ## The list of all -/

/-- **The list of all entries** is that of the directory behind, without tokens. -/
theorem PointsAt.dump_served (hp : PointsAt remote o token)
    (hdatable : ∀ e ∈ h.store.dump, e.lastUpdate.Datable) (t : Nat) :
    Served remote.timeout t h remote.dump
      fun _ a s' => a = .ok (h.store.dump.map Entry.redacted) ∧ s' = h.store := by
  have hanswer (now : Instant) := Service.dump_answers token ⟨now, h.store⟩
  simp only [← handle_sent_list token] at hanswer
  rw [Remote.dump, text_listPath]
  refine (hp.request_served verbatim_listPath hanswer "*" t).andThen ?_
  rintro now _ _ ⟨rfl, rfl⟩ later
  have hread : readBody (Decoding.list Entry.decode) (.json 200 (Json.compact
      (.array (h.store.dump.map fun e => e.redacted.toJson)))) =
      .ok (h.store.dump.map Entry.redacted) := by
    have hmap : (h.store.dump.map fun e => e.redacted.toJson) =
        (h.store.dump.map Entry.redacted).map Entry.toJson := by rw [List.map_map]; rfl
    have hredacted : ∀ e ∈ h.store.dump.map Entry.redacted, e.lastUpdate.Datable :=
      List.forall_mem_map.2 hdatable
    rw [hmap]
    simp only [readBody, Response.json]
    rw [Entry.decode_compact_array hredacted]
  rw [judge_json]
  exact ⟨_, Timed.Answers.pure _ _, hread, rfl⟩

end Laws

/-! ## The directory behind -/

/-- A network with one registry on it, which answers after `ms` milliseconds. -/
def relay (token : Option String) (ms : Nat) : Network Host := fun _ r => do
  Timed.sleep ms
  return some (← (Host.registry token).handle r)

/-- A request is answered after that time, as the registry answers it at once. -/
theorem relay_ends (token : Option String) (ms : Nat) (url : Url) (r : Request) (t : Nat)
    (h : Host) : ∃ response s',
      (relay token ms url r).Ends t h (some response) (t + ms) ⟨h.now, s'⟩ ∧
      ((Host.registry token).handle r).Answers h response ⟨h.now, s'⟩ := by
  obtain ⟨response, s', hanswer, -⟩ := Service.handle_handles token h r
  have hrelayed : (do return some (← (Host.registry token).handle r) :
      Timed Host (Option Response)).Answers h (some response) ⟨h.now, s'⟩ :=
    hanswer.bind (Timed.Answers.pure _ _)
  exact ⟨response, s', (Timed.Ends.sleep ms t h).bind (hrelayed.ends (t + ms)), hanswer⟩

/-- A network with one registry reaches it, if it answers within the limit. -/
theorem relay_reaches {ms timeout : Nat} (hms : ms ≤ timeout) (token : Option String)
    (authority : String) : Reaches (relay token ms) authority token timeout := by
  intro url r t h _
  obtain ⟨response, s', hends, hanswer⟩ := relay_ends token ms url r t h
  exact ⟨h.now, response, s', h.now, t + ms, hends, Nat.add_le_add_left hms t, hanswer⟩

/-- **A remote stands for the directory behind it.** A registry works on a store that calls can lead
to, and a remote of it, with any token of its own and any slashes behind its address, has a network
that brings each request to the registry and each response back in time. Then the remote answers
every call in time. It tells of a gateway what the store holds; it writes an id and binds a token
exactly where the registry allows it, and the store is then that of the call itself; and it lists
the entries of the store, without their tokens. -/
theorem stands_for_directory {network : Network Host} {o : Origin} {shared : Option String}
    {timeout : Nat} (hnetwork : Reaches network o.authority shared timeout) (own : Option String)
    (slashes t : Nat) (h : Host) (hs : h.store.Reachable) :
    let remote :=
      create network (o.text ++ String.ofList (List.replicate slashes '/')) timeout own
    let calls := remote.directory Host.now
    (∀ name, Addressable name →
      Served timeout t h (calls (.get name)) (fun _ => GetLaw h.store name) ∧
      (∀ id caller,
        (Json.compact (Payload.mk name id (caller.or own)).toJson).toUTF8.size ≤ maxBodyBytes →
        Served timeout t h (calls (.putAuthorized name id caller))
          (PutLaw shared (caller.or own) h.store name id)) ∧
      (∀ secret caller,
        (Json.compact (TokenUpdate.mk secret (caller.or own)).toJson).toUTF8.size ≤ maxBodyBytes →
        Served timeout t h (calls (.putTokenAuthorized name secret caller))
          fun _ => BindLaw shared (caller.or own) h.store name secret)) ∧
    ((∀ e ∈ h.store.dump, e.lastUpdate.Datable) →
      Served timeout t h (calls .dump)
        fun _ a s' => a = .ok (h.store.dump.map Entry.redacted) ∧ s' = h.store) := by
  intro remote calls
  have hp : PointsAt remote o shared := create_pointsAt hnetwork slashes own
  refine ⟨fun name hname => ⟨?_, fun id caller hsize => ?_, fun secret caller hsize => ?_⟩,
    fun hdatable => ?_⟩
  · exact hp.get_served hs.sound hname t
  · exact hp.put_served hs.sound hname id caller hsize t
  · exact hp.putToken_served hname secret caller hsize t
  · exact hp.dump_served hdatable t

/-- A registry that is reached at a port of its own. -/
def exampleOrigin : Origin where
  scheme := "http"
  host := "registry:8080"
  authority := "registry:8080"
  scheme_eq := .inl rfl
  host_chars := by simp
  authority_eq := by decide +kernel

/-- A store whose only entry has a token. -/
def exampleStore : Store :=
  .run .empty [(⟨1704164645, 0⟩, .put "gw1" "id1"), (⟨1704164645, 0⟩, .putToken "gw1" "t1")]

/-- The example store lists its one entry. -/
theorem exampleStore_dump :
    exampleStore.dump = [⟨"gw1", "id1", 1, ⟨1704164645, 0⟩, some "t1"⟩] := by
  decide +kernel

/-- The entries of the example store have times that can be dated. -/
theorem exampleStore_datable : ∀ e ∈ exampleStore.dump, e.lastUpdate.Datable := by
  rw [exampleStore_dump, List.forall_mem_singleton]
  exact ⟨by decide, by decide, by decide +kernel⟩

/-- The holder of an entry's own token writes an id through a remote whose own token is worth
nothing. Everyone may list the entry. -/
theorem stands_for_directory_of_holder :
    let address := exampleOrigin.text ++ String.ofList (List.replicate 1 '/')
    let remote := create (relay (some "shared") 3) address 10000 (some "stale")
    exampleStore.Reachable ∧ Addressable "gw1" ∧
      (Served 10000 0 ⟨⟨1704164645, 0⟩, exampleStore⟩
        (remote.directory Host.now (.putAuthorized "gw1" "id2" (some "t1"))) fun now a s' =>
          (∃ e, a = .ok e) ∧ s'.get? "gw1" = some ⟨"gw1", "id2", 2, now, some "t1"⟩) ∧
      Served 10000 0 ⟨⟨1704164645, 0⟩, exampleStore⟩ (remote.directory Host.now .dump)
        fun _ a s' => a = .ok [⟨"gw1", "id1", 1, ⟨1704164645, 0⟩, none⟩] ∧ s' = exampleStore := by
  intro address remote
  have hreachable : exampleStore.Reachable := ⟨_, rfl⟩
  have hname : Addressable "gw1" := ⟨by decide, by decide, by decide⟩
  have hreaches : Reaches (relay (some "shared") 3) exampleOrigin.authority (some "shared") 10000 :=
    relay_reaches (by decide) _ _
  obtain ⟨hcalls, hdump⟩ := stands_for_directory hreaches (some "stale") 1 0
    ⟨⟨1704164645, 0⟩, exampleStore⟩ hreachable
  have hlisted := hdump exampleStore_datable
  rw [exampleStore_dump] at hlisted
  obtain ⟨-, hput, -⟩ := hcalls "gw1" hname
  obtain ⟨now, a, s', later, t', hends, hle, hlaw⟩ := hput "id2" (some "t1") (by decide +kernel)
  obtain ⟨e, he⟩ := hlaw.ok_iff.2 ⟨by decide, by decide +kernel⟩
  obtain ⟨-, -, hwritten⟩ := hlaw.written e he
  refine ⟨hreachable, hname, ⟨now, a, s', later, t', hends, hle, ⟨e, he⟩, ?_⟩, hlisted⟩
  have hstored :
      exampleStore.get? "gw1" = some ⟨"gw1", "id1", 1, ⟨1704164645, 0⟩, some "t1"⟩ := by
    decide +kernel
  rw [Store.put_of_valid hname.valid (by decide)] at hwritten
  rw [← (Prod.mk.inj hwritten).2, Table.get?_insert_self, Store.written, hstored]
  rfl

/-- What a remote lists is not what the directory behind lists: it leaves out the token of an
entry. -/
theorem dump_hides_token :
    let remote := create (relay none 0) exampleOrigin.text 10000 none
    Reaches (relay none 0) exampleOrigin.authority none 10000 ∧ exampleStore.Reachable ∧
      (∀ e ∈ exampleStore.dump, e.lastUpdate.Datable) ∧
      ∀ now t, ((remote.directory Host.now .dump).run t ⟨now, exampleStore⟩).ending ≠
        .value (.ok exampleStore.dump) := by
  intro remote
  have hreaches := relay_reaches (Nat.zero_le 10000) none exampleOrigin.authority
  have hp : PointsAt remote exampleOrigin none := ⟨by decide +kernel, hreaches⟩
  refine ⟨hreaches, ⟨_, rfl⟩, exampleStore_datable, fun now t => ?_⟩
  obtain ⟨_, _, _, _, _, hends, -, rfl, -⟩ :=
    hp.dump_served (h := ⟨now, exampleStore⟩) exampleStore_datable t
  show (remote.dump.run t _).ending ≠ _
  rw [hends.ending_run, exampleStore_dump]
  decide

end Remote

end GatewayDirectory
