import GatewayDirectory.Proofs.Sync.DirectSink

/-!
# What a registry takes

Which writes a registry accepts, whatever name they are about and however long they are. A write of
an id is taken as `TakesId` says and a write of a token as `TakesToken` says; one that is not taken
fails and changes nothing, be it that its body is too long, that its path leads elsewhere or that it
is not authorized (`id_handled`, `token_handled`). So each write of a remote and each save of the
webhook sink is done as a whole or not at all (`put_taken`, `putToken_taken`, `webhook_taken`). The
instant at which it is handled is given (`ReachesAt`), so that what several of them leave can be
compared.
-/

namespace GatewayDirectory

open Directory Http Text Registry

namespace Sync

open Remote

/-! ## The same time -/

/-- What is sent to the host comes to the registry and back as `Reaches` says, and the registry's
clock shows `now` when it handles what is sent at the time `t` from the state `h`. -/
structure ReachesAt (t : Nat) (h : Host) (now : Instant) (network : Http.Network Host)
    (authority : String) (token : Option String) (timeout : Nat) : Prop where
  reaches : Reaches network authority token timeout
  handled : ∀ url r, url.authority = some authority → ∃ response s' later t',
    (network url r).Ends t h (some response) t' ⟨later, s'⟩ ∧ t' ≤ t + timeout ∧
      ((Host.registry token).handle r).Answers ⟨now, h.store⟩ response ⟨now, s'⟩

/-- A relay brings what is sent at once, and the response after its delay. -/
theorem relay_reachesAt {ms timeout : Nat} (hms : ms ≤ timeout) (token : Option String)
    (authority : String) (t : Nat) (h : Host) :
    ReachesAt t h h.now (relay token ms) authority token timeout where
  reaches := relay_reaches hms token authority
  handled url r _ := by
    obtain ⟨response, s', hends, hanswer⟩ := relay_ends token ms url r t h
    exact ⟨response, s', h.now, t + ms, hends, Nat.add_le_add_left hms t, hanswer⟩

/-! ## What is taken -/

/-- The registry takes a write of an id that is sent with a token. -/
structure TakesId (shared : Option String) (s : Store) (name id : String)
    (supplied : Option String) : Prop where
  addressable : Addressable name
  id_ne : id ≠ ""
  authorized : isAuthorized (effective shared) (boundToken s name) supplied = true
  fits : (Json.compact (Payload.mk name id supplied).toJson).toUTF8.size ≤ maxBodyBytes

/-- The registry takes a write of a token that is sent with another one, or with none. -/
structure TakesToken (shared : Option String) (s : Store) (name secret : String)
    (supplied : Option String) : Prop where
  addressable : Addressable name
  secret_ne : secret ≠ ""
  present : ∃ e, s.get? name = some e
  authorized : isAuthorized (effective shared) (boundToken s name) supplied = true
  fits : (Json.compact (TokenUpdate.mk secret supplied).toJson).toUTF8.size ≤ maxBodyBytes

/-- How a write is answered: with `told` if it is accepted, and otherwise by a failure that changes
nothing. -/
inductive Taken (accepts : Prop) (s after : Store) (told : Response) : Response → Store → Prop
  | accepted (h : accepts) : Taken accepts s after told told after
  | refused (h : ¬ accepts) {response : Response} (hfails : response.isSuccess = false) :
    Taken accepts s after told response s

/-- A request of a write along the path that is left of the segments. -/
def writeAlong (segments : List (List Char)) (v : Json) : Request :=
  ⟨"PUT", Url.pathOf (pathChars segments), ["application/json"], (Json.compact v).toUTF8⟩

/-- A write is a PUT. -/
@[simp] theorem writeAlong_method (segments : List (List Char)) (v : Json) :
    (writeAlong segments v).method = "PUT" := rfl

/-- The body of a write is the value as it is written. -/
@[simp] theorem writeAlong_body (segments : List (List Char)) (v : Json) :
    (writeAlong segments v).body = (Json.compact v).toUTF8 := rfl

/-! ## What is handled -/

/-- The registry fails the request, whatever it holds. -/
def Fails (shared : Option String) (r : Request) : Prop :=
  ∃ response, response.isSuccess = false ∧ (Host.registry shared).handle r = return response

/-- Now, with that store, the registry answers the request and leaves a store as the law says. -/
def AnsweredAs (shared : Option String) (s : Store) (now : Instant) (r : Request)
    (law : Response → Store → Prop) : Prop :=
  ∃ response s', ((Host.registry shared).handle r).Answers ⟨now, s⟩ response ⟨now, s'⟩ ∧
    law response s'

section Handled

variable {shared supplied : Option String} {s : Store} {now : Instant} {name id secret : String}
  {segments : List (List Char)} {v : Json}

/-- A path without dots is sent as it stands. -/
theorem writeAlong_of_verbatim (h : Verbatim segments) (v : Json) :
    writeAlong segments v = sent "PUT" segments (some v) := by
  rw [writeAlong, h.pathOf_eq, sent]

/-- A registry reads the value back from the body, whatever the path. -/
theorem decodeBody_writeAlong {α : Type} (segments : List (List Char))
    (fromYaml : Yaml.Place → Except Decoding.Error α) (fromJson : Json → Except Decoding.Error α)
    (hv : v.Exact) : decodeBody fromYaml fromJson (writeAlong segments v) = fromJson v := by
  have hsent : decodeBody fromYaml fromJson (writeAlong segments v) =
      decodeBody fromYaml fromJson (sent "PUT" segments (some v)) := rfl
  rw [hsent, decodeBody_sent _ _ hv]

/-- **A write whose body is too long fails**, wherever its path leads. -/
theorem handle_oversize (shared : Option String) (segments : List (List Char))
    (hsize : ¬ (Json.compact v).toUTF8.size ≤ maxBodyBytes) :
    Fails shared (writeAlong segments v) := by
  rw [← writeAlong_body segments] at hsize
  have hput : (writeAlong segments v).method = "PUT" := rfl
  generalize writeAlong segments v = r at hsize hput ⊢
  -- a name that can be read is not looked at before the body
  have hname (segment : String) (next : String → Timed Host Response) :
      ∃ response, response.isSuccess = false ∧
        (Service.withName segment fun name => Service.withBody r (next name)) =
          return response := by
    simp only [Service.withName, Service.withBody, if_pos (Nat.lt_of_not_le hsize)]
    split <;> exact ⟨_, by rfl, rfl⟩
  cases hroute : routeOf r with
  | none => exact ⟨.empty 404, rfl, Service.handle_of_unrouted _ hroute⟩
  | some route =>
    have hhandle : (Host.registry shared).handle r = (Host.registry shared).dispatch route r := by
      simp [Service.handle, show Route.ofPath? (targetPath r.target) = _ from hroute, hput]
    rw [Fails, hhandle]
    cases route with
    | health | gateways =>
      -- these routes know no PUT
      exact ⟨.methodNotAllowed "GET,HEAD", rfl, by simp [Service.dispatch, hput, Route.allow]⟩
    | gateway segment =>
      simpa [Service.dispatch, hput] using hname segment ((Host.registry shared).putGateway · r)
    | gatewayToken segment =>
      simpa [Service.dispatch, hput] using hname segment ((Host.registry shared).putToken · r)

/-- A write that always fails is refused whatever the store holds. -/
theorem taken_of_fails {accepts : Prop} {after : Store} {told : Response} {r : Request}
    (hnot : ¬ accepts) (hfails : Fails shared r) :
    AnsweredAs shared s now r (Taken accepts s after told) := by
  obtain ⟨response, hfails, hfixed⟩ := hfails
  rw [AnsweredAs, hfixed]
  exact ⟨response, s, Timed.Answers.pure _ _, .refused hnot hfails⟩

/-- A write of an id to a name that cannot be addressed fails. -/
theorem id_unaddressed (shared : Option String) (hname : ¬ Addressable name)
    (hsize : (Json.compact v).toUTF8.size ≤ maxBodyBytes) :
    Fails shared (writeAlong (gatewayPath name) v) := by
  obtain ⟨resolved, response, hpath, hfails, hfixed⟩ := exists_refused shared hname hsize
  refine ⟨response, hfails, ?_⟩
  rw [writeAlong, hpath]
  exact hfixed

/-- The handler of an id takes what it is authorized to write. -/
theorem id_addressed (hs : s.Sound) (hname : Addressable name)
    (hsize : (Json.compact (Payload.mk name id supplied).toJson).toUTF8.size ≤ maxBodyBytes) :
    ∃ response s', ((Host.registry shared).putGateway name
        (sent "PUT" (gatewayPath name) (some (Payload.mk name id supplied).toJson))).Answers
          ⟨now, s⟩ response ⟨now, s'⟩ ∧
      Taken (TakesId shared s name id supplied) s (s.put now name id).2 (found name id) response
        s' := by
  by_cases hid : id = ""
  · -- an empty id is refused before the token is looked at
    have hempty : ∃ message, ((Host.registry shared).putGateway name (sent "PUT" (gatewayPath name)
        (some (Payload.mk name id supplied).toJson))).Answers ⟨now, s⟩ (failure 400 name message)
          ⟨now, s⟩ := putGateway_sent_empty shared ⟨now, s⟩ hid
    obtain ⟨message, hanswer⟩ := hempty
    exact ⟨failure 400 name message, s, hanswer, .refused (fun h => h.id_ne hid) rfl⟩
  have hw := isWrite_sent hname (p := ⟨name, id, supplied⟩) hid
  cases hauth : isAuthorized (effective shared) (boundToken s name) supplied with
  | false =>
    refine ⟨_, s, Service.putGateway_refused (h := ⟨now, s⟩) hw hauth, .refused (fun h => ?_) rfl⟩
    rw [h.authorized] at hauth
    cases hauth
  | true =>
    have hanswer := Service.putGateway_written (h := ⟨now, s⟩) hw hauth
    -- the response tells of what is stored, and that is what was sent
    simp only [(hs.fits_written now hname.valid hid).name_eq, s.id_written] at hanswer
    exact ⟨_, _, hanswer, .accepted ⟨hname, hid, hauth, hsize⟩⟩

/-- **A write of an id is taken or fails.** -/
theorem id_handled (shared : Option String) (hs : s.Sound) (now : Instant) (name id : String)
    (supplied : Option String) :
    AnsweredAs shared s now (writeAlong (gatewayPath name) (Payload.mk name id supplied).toJson)
      (Taken (TakesId shared s name id supplied) s (s.put now name id).2 (found name id)) := by
  by_cases hsize : (Json.compact (Payload.mk name id supplied).toJson).toUTF8.size ≤ maxBodyBytes
  · by_cases hname : Addressable name
    · rw [AnsweredAs, writeAlong_of_verbatim (verbatim_gatewayPath hname),
        handle_sent_write shared hname hsize]
      exact id_addressed hs hname hsize
    · exact taken_of_fails (fun h => hname h.addressable) (id_unaddressed shared hname hsize)
  · exact taken_of_fails (fun h => hsize h.fits) (handle_oversize shared _ hsize)

/-- A registry finds no id in an update. -/
theorem decode_update_id {u : TokenUpdate} {p : Payload} (h : Payload.decode u.toJson = .ok p) :
    p.id = "" := by
  obtain ⟨token, _ | writeToken⟩ := u <;> cases h <;> rfl

/-- A write of a token to the single dot is taken for a write of an id, and brings none. -/
theorem token_of_dot (shared : Option String) (u : TokenUpdate)
    (hsize : (Json.compact u.toJson).toUTF8.size ≤ maxBodyBytes) :
    ∃ message, (Host.registry shared).handle (writeAlong (tokenPath ".") u.toJson) =
      return failure 400 "token" message := by
  have hroute : routeOf (writeAlong (tokenPath ".") u.toJson) = some (.gateway "token") := by
    show Route.ofPath? (targetPath (Url.pathOf (pathChars (tokenPath ".")))) = _
    decide +kernel
  have hsegment : segmentName? "token" = some "token" := by decide +kernel
  rw [← writeAlong_body (tokenPath ".")] at hsize
  rw [Service.handle_putGateway hroute (writeAlong_method _ _) hsegment hsize]
  refine Service.putGateway_of_bad _ hsegment fun p hw => hw.id_ne (decode_update_id (u := u) ?_)
  rw [← decodeBody_writeAlong (tokenPath ".") Payload.decode Payload.decode u.exact_toJson]
  exact hw.body_eq

/-- A write of a token to a name that cannot be addressed fails: it leads nowhere, its name is
refused, or it is taken for a write of an id. -/
theorem token_unaddressed (shared : Option String) (hname : ¬ Addressable name) (u : TokenUpdate)
    (hsize : (Json.compact u.toJson).toUTF8.size ≤ maxBodyBytes) :
    Fails shared (writeAlong (tokenPath name) u.toJson) := by
  have hunrouted (h : Route.ofPath? (targetPath (Url.pathOf (pathChars (tokenPath name)))) = none) :
      Fails shared (writeAlong (tokenPath name) u.toJson) :=
    ⟨.empty 404, rfl, Service.handle_of_unrouted _ h⟩
  -- three names make paths of their own; every other name is refused as invalid
  by_cases hempty : name = ""
  · subst hempty
    exact hunrouted (by decide +kernel)
  by_cases hdots : name = ".."
  · subst hdots
    exact hunrouted (by decide +kernel)
  by_cases hdot : name = "."
  · subst hdot
    obtain ⟨message, hfixed⟩ := token_of_dot shared u hsize
    exact ⟨failure 400 "token" message, rfl, hfixed⟩
  · have hinvalid := invalid_of_not_addressable hname hdot hdots
    -- it makes no difference what is sent to an invalid name
    generalize u.toJson = v at hsize
    have htarget : (sent "PUT" (tokenPath name) (some v)).target =
        String.ofList (pathChars (tokenPath name)) := sent_target _
    have hroute := routeOf_token_of_ne_dots hdot hdots hempty htarget
    have hsegment := segmentName?_encode name
    rw [Fails, writeAlong_of_verbatim (verbatim_token_of_ne_dots hdot hdots),
      Service.handle_putToken hroute (sent_method _) hsegment hsize]
    obtain ⟨message, hfixed⟩ := Service.putToken_of_bad (Host.registry shared) hsegment
      (r := sent "PUT" (tokenPath name) (some v)) fun u' hb => by
        have hvalid := hb.valid
        rw [hinvalid] at hvalid
        cases hvalid
    exact ⟨failure 400 name message, rfl, hfixed⟩

/-- The handler of a token takes what it is authorized to bind to an entry that is there. -/
theorem token_addressed (hname : Addressable name)
    (hsize : (Json.compact (TokenUpdate.mk secret supplied).toJson).toUTF8.size ≤ maxBodyBytes) :
    ∃ response s', ((Host.registry shared).putToken name
        (sent "PUT" (tokenPath name) (some (TokenUpdate.mk secret supplied).toJson))).Answers
          ⟨now, s⟩ response ⟨now, s'⟩ ∧
      Taken (TakesToken shared s name secret supplied) s (s.putToken name secret).2 (.empty 204)
        response s' := by
  by_cases hsecret : secret = ""
  · -- an empty token is refused before anything is authorized
    have hempty : ∃ message, ((Host.registry shared).putToken name (sent "PUT" (tokenPath name)
        (some (TokenUpdate.mk secret supplied).toJson))).Answers ⟨now, s⟩ (failure 400 name message)
          ⟨now, s⟩ := putToken_sent_empty shared ⟨now, s⟩ hsecret
    obtain ⟨message, hanswer⟩ := hempty
    exact ⟨failure 400 name message, s, hanswer, .refused (fun h => h.secret_ne hsecret) rfl⟩
  have hb := isBinding_sent hname (u := ⟨secret, supplied⟩) hsecret
  cases hauth : isAuthorized (effective shared) (boundToken s name) supplied with
  | false =>
    refine ⟨_, s, Service.putToken_refused (h := ⟨now, s⟩) hb hauth, .refused (fun h => ?_) rfl⟩
    rw [h.authorized] at hauth
    cases hauth
  | true =>
    -- a token is bound to an entry that is there, and to no other
    cases he : s.get? name with
    | none =>
      refine ⟨_, s, Service.putToken_absent (h := ⟨now, s⟩) hb hauth he, .refused (fun h => ?_) rfl⟩
      obtain ⟨e, hpresent⟩ := h.present
      rw [he] at hpresent
      cases hpresent
    | some e =>
      have hbound : (s.putToken name secret).2 = s.insert name (e.bind secret) := by
        rw [Store.putToken_of_some he]
      refine ⟨_, _, Service.putToken_bound (h := ⟨now, s⟩) hb hauth he, ?_⟩
      rw [← hbound]
      exact .accepted ⟨hname, hsecret, ⟨e, he⟩, hauth, hsize⟩

/-- **A write of a token is taken or fails.** -/
theorem token_handled (shared : Option String) (s : Store) (now : Instant) (name secret : String)
    (supplied : Option String) :
    AnsweredAs shared s now (writeAlong (tokenPath name) (TokenUpdate.mk secret supplied).toJson)
      (Taken (TakesToken shared s name secret supplied) s (s.putToken name secret).2
        (.empty 204)) := by
  by_cases hsize :
      (Json.compact (TokenUpdate.mk secret supplied).toJson).toUTF8.size ≤ maxBodyBytes
  · by_cases hname : Addressable name
    · rw [AnsweredAs, writeAlong_of_verbatim (verbatim_tokenPath hname),
        handle_sent_binding shared hname hsize]
      exact token_addressed hname hsize
    · exact taken_of_fails (fun h => hname h.addressable) (token_unaddressed shared hname _ hsize)
  · exact taken_of_fails (fun h => hsize h.fits) (handle_oversize shared _ hsize)

end Handled

/-! ## What is sent -/

section Sent

variable {network : Http.Network Host} {o : Origin} {shared : Option String}
  {latency timeout t : Nat} {h : Host} {now : Instant} {name id secret : String}

/-- **What a write that is sent now comes to** is what the registry answers now, whatever path its
address resolves to. -/
theorem exchanged (hr : ReachesAt t h now network o.authority shared latency)
    (hle : latency ≤ timeout) {segments : List (List Char)} (hplain : Plain segments)
    (hne : segments ≠ []) {v : Json} {law : Response → Store → Prop}
    (hanswered : AnsweredAs shared h.store now (writeAlong segments v) law) :
    Served latency t h (network.exchange timeout "PUT"
        (o.text ++ String.ofList (pathChars segments)) ["application/json"] (Json.compact v).toUTF8)
      fun _ a s' => ∃ response, a = .ok response ∧ law response s' := by
  obtain ⟨response, s', hanswer, hlaw⟩ := hanswered
  obtain ⟨response', s'', later, t', hends, htime, hanswer'⟩ := hr.handled
    ⟨o.scheme, some o.authority, Url.pathOf (pathChars segments), none, none⟩
    (writeAlong segments v) rfl
  -- the registry has one answer at that instant
  obtain ⟨rfl, heq⟩ := hanswer'.unique hanswer
  cases heq
  -- the response is there before the client gives up
  have hin : t' ≤ t + timeout := Nat.le_trans htime (Nat.add_le_add_left hle t)
  exact ⟨now, .ok response', s', later, t',
    exchange_ends (o.read?_append hplain hne) hends hin, htime, response', rfl, hlaw⟩

/-- A request of a write by a remote. -/
theorem requested (hr : ReachesAt t h now network o.authority shared latency)
    (hle : latency ≤ timeout) {segments : List (List Char)} (hplain : Plain segments)
    (hne : segments ≠ []) {v : Json} {law : Response → Store → Prop}
    (hanswered : AnsweredAs shared h.store now (writeAlong segments v) law)
    (own : Option String) (name : String) :
    Served latency t h (Remote.request ⟨network, o.text, timeout, own⟩ name "PUT"
        (o.text ++ String.ofList (pathChars segments)) (some v))
      fun _ a s' => ∃ response, a = judge name response ∧ law response s' := by
  refine (exchanged hr hle hplain hne hanswered).andThen ?_
  rintro _ _ s' ⟨response, rfl, hlaw⟩ later
  exact ⟨judge name response, Timed.Answers.pure _ _, response, rfl, hlaw⟩

/-- **A write of an id by a remote** is taken as a whole or not at all. -/
theorem put_taken (hr : ReachesAt t h now network o.authority shared latency)
    (hle : latency ≤ timeout) (hs : h.store.Sound) (own caller : Option String) :
    Served latency t h (Remote.put ⟨network, o.text, timeout, own⟩ Host.now name id caller)
      fun _ => AllOrNothing (TakesId shared h.store name id (caller.or own)) (· = now) h.store
        fun now => (h.store.put now name id).2 := by
  have hrequest := requested hr hle (plain_gatewayPath name) (List.cons_ne_nil _ _)
    (id_handled shared hs now name id (caller.or own)) own name
  rw [← text_gatewayPath] at hrequest
  refine (put_of_request rfl hrequest).imp ?_
  rintro _ _ s' ⟨_, later, rfl, response, rfl, htaken⟩
  cases htaken with
  | accepted htakes =>
    -- the remote reads the reply back
    have htold : entryTold later (judge name (found name id)) = .ok (.create name id later) := by
      simp only [judge_found, entryTold, readBody_found]
      rfl
    rw [htold]
    exact .accepted htakes _ rfl
  | refused hrefused hfails =>
    rw [judge_of_not_isSuccess hfails]
    exact .refused hrefused _

/-- **A write of a token by a remote** is taken as a whole or not at all. -/
theorem putToken_taken (hr : ReachesAt t h now network o.authority shared latency)
    (hle : latency ≤ timeout) (own caller : Option String) :
    Served latency t h (Remote.putToken ⟨network, o.text, timeout, own⟩ name secret caller)
      fun _ => AllOrNothing (TakesToken shared h.store name secret (caller.or own)) (· = now)
        h.store fun _ => (h.store.putToken name secret).2 := by
  have hrequest := requested hr hle (plain_tokenPath name) (List.cons_ne_nil _ _)
    (token_handled shared h.store now name secret (caller.or own)) own name
  rw [← text_tokenPath] at hrequest
  refine hrequest.andThen ?_
  rintro _ _ s' ⟨response, rfl, htaken⟩ later
  cases htaken with
  | accepted htakes =>
    rw [judge_empty]
    exact ⟨.ok (), Timed.Answers.pure _ _, .accepted htakes () rfl⟩
  | refused hrefused hfails =>
    rw [judge_of_not_isSuccess hfails]
    exact ⟨.error (errorOf name response), Timed.Answers.pure _ _, .refused hrefused _⟩

/-- **A save of the webhook sink** is taken as a whole or not at all. -/
theorem webhook_taken (hr : ReachesAt t h now network o.authority shared latency)
    (hle : latency ≤ timeout) (hs : h.store.Sound) (slashes : Nat) (token : Option String) :
    Served latency t h ((Sink.webhook network
        (o.text ++ String.ofList (List.replicate slashes '/')) timeout).save name id token)
      fun _ => AllOrNothing (TakesId shared h.store name id token) (· = now) h.store
        fun now => (h.store.put now name id).2 := by
  have hexchanged := exchanged hr hle (plain_gatewayPath name) (List.cons_ne_nil _ _)
    (id_handled shared hs now name id token)
  rw [← text_gatewayPath] at hexchanged
  simp only [Sink.webhook, o.dropTrailing_text]
  refine hexchanged.andThen ?_
  rintro _ _ s' ⟨response, rfl, htaken⟩ later
  cases htaken with
  | accepted htakes =>
    refine ⟨.ok (), ?_, .accepted htakes () rfl⟩
    exact (Timed.Answers.report _ _).bind (Timed.Answers.pure _ _)
  | refused hrefused hfails =>
    refine ⟨.error (.rejected response.status (failureMessage response)), ?_, .refused hrefused _⟩
    simp only [hfails, Bool.false_eq_true, if_false]
    exact Timed.Answers.pure _ _

end Sent

end Sync

end GatewayDirectory
