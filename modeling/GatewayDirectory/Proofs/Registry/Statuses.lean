import GatewayDirectory.Proofs.Entry
import GatewayDirectory.Proofs.Registry.Handling

/-!
# Statuses and effects

What a registry in memory answers to a request about a gateway, and what is then in the store. The
order of the checks decides the status: first the name and the body, then the authorization, then
whether the entry is there. `WriteLaw`, `BindingLaw` and `ReadLaw` say for each request which status
it gets and exactly when. No request is answered with 500, and none changes the store without
success.
-/

namespace GatewayDirectory.Registry

open Directory Http

/-- How a write of an id is answered, and the store `s'` that it leaves. -/
structure WriteLaw (token : Option String) (now : Instant) (s : Store) (segment : String)
    (r : Request) (response : Response) (s' : Store) : Prop where
  bad_iff : response.status = 400 ↔ ¬ ∃ name p, IsWrite segment r name p
  refused_iff : ∀ name p, IsWrite segment r name p →
    (response.status = 401 ↔
      isAuthorized (effective token) (boundToken s name) p.token = false)
  written_iff : ∀ name p, IsWrite segment r name p →
    (response.status = 200 ↔ isAuthorized (effective token) (boundToken s name) p.token = true)
  effect : ∀ name p, IsWrite segment r name p → response.status = 200 →
    response = found name p.id ∧ s.put now name p.id = (.ok (s.written now name p.id), s') ∧
      ∀ other, other ≠ name → s'.get? other = s.get? other

/-- How a write of a token is answered, and the store `s'` that it leaves. -/
structure BindingLaw (token : Option String) (s : Store) (segment : String) (r : Request)
    (response : Response) (s' : Store) : Prop where
  bad_iff : response.status = 400 ↔ ¬ ∃ name u, IsBinding segment r name u
  refused_iff : ∀ name u, IsBinding segment r name u →
    (response.status = 401 ↔
      isAuthorized (effective token) (boundToken s name) u.writeToken = false)
  absent_iff : ∀ name u, IsBinding segment r name u →
    (response.status = 404 ↔
      isAuthorized (effective token) (boundToken s name) u.writeToken = true ∧
        s.get? name = none)
  bound_iff : ∀ name u, IsBinding segment r name u →
    (response.status = 204 ↔
      isAuthorized (effective token) (boundToken s name) u.writeToken = true ∧
        ∃ e, s.get? name = some e)
  effect : ∀ name u, IsBinding segment r name u → response.status = 204 →
    (∃ e, s.get? name = some e ∧ s'.get? name = some { e with token := some u.token }) ∧
      ∀ other, other ≠ name → s'.get? other = s.get? other

/-- How a question about a gateway is answered. -/
structure ReadLaw (s : Store) (segment : String) (response : Response) : Prop where
  bad_iff : response.status = 400 ↔
    ¬ ∃ name, segmentName? segment = some name ∧ isValidName name = true
  absent_iff : ∀ name, segmentName? segment = some name → isValidName name = true →
    (response.status = 404 ↔ s.get? name = none)
  found_iff : ∀ name, segmentName? segment = some name → isValidName name = true →
    (response.status = 200 ↔ ∃ e, s.get? name = some e)
  reply : ∀ name e, segmentName? segment = some name → s.get? name = some e →
    response = found name e.id

section Laws

variable {token : Option String} {now : Instant} {s : Store} {segment name : String} {r : Request}

/-- A segment that stands for one name and a body that denotes one payload. -/
theorem IsWrite.unique {name' : String} {p p' : Payload} (h : IsWrite segment r name p)
    (h' : IsWrite segment r name' p') : name' = name ∧ p' = p :=
  ⟨Option.some.inj (h'.segment_eq.symm.trans h.segment_eq),
    Except.ok.inj (h'.body_eq.symm.trans h.body_eq)⟩

/-- The same holds of a body that denotes an update. -/
theorem IsBinding.unique {name' : String} {u u' : TokenUpdate} (h : IsBinding segment r name u)
    (h' : IsBinding segment r name' u') : name' = name ∧ u' = u :=
  ⟨Option.some.inj (h'.segment_eq.symm.trans h.segment_eq),
    Except.ok.inj (h'.body_eq.symm.trans h.body_eq)⟩

/-! ## Writes of an id -/

/-- A request that is no sound write of an id is a bad one, and changes nothing. -/
theorem WriteLaw.bad {response : Response} (hstatus : response.status = 400)
    (hbad : ¬ ∃ name p, IsWrite segment r name p) :
    WriteLaw token now s segment r response s where
  bad_iff := iff_of_true hstatus hbad
  refused_iff name p hw := absurd ⟨name, p, hw⟩ hbad
  written_iff name p hw := absurd ⟨name, p, hw⟩ hbad
  effect name p hw := absurd ⟨name, p, hw⟩ hbad

/-- A sound write of an id that is not authorized is refused. -/
theorem WriteLaw.refused {response : Response} {p : Payload} (hw : IsWrite segment r name p)
    (hstatus : response.status = 401)
    (hauth : isAuthorized (effective token) (boundToken s name) p.token = false) :
    WriteLaw token now s segment r response s where
  bad_iff := iff_of_false (by simp [hstatus]) (not_not_intro ⟨name, p, hw⟩)
  refused_iff name' p' hw' := by
    obtain ⟨rfl, rfl⟩ := hw.unique hw'
    exact iff_of_true hstatus hauth
  written_iff name' p' hw' := by
    obtain ⟨rfl, rfl⟩ := hw.unique hw'
    exact iff_of_false (by simp [hstatus]) (by simp [hauth])
  effect name' p' hw' h200 := by simp [hstatus] at h200

/-- An authorized write of an id is the call of the store, for its own name only. -/
theorem WriteLaw.written (hs : s.Sound) {p : Payload} (hw : IsWrite segment r name p)
    (hauth : isAuthorized (effective token) (boundToken s name) p.token = true) :
    WriteLaw token now s segment r
      (found (s.written now name p.id).name (s.written now name p.id).id)
      (s.put now name p.id).2 where
  bad_iff := iff_of_false (by simp) (not_not_intro ⟨name, p, hw⟩)
  refused_iff name' p' hw' := by
    obtain ⟨rfl, rfl⟩ := hw.unique hw'
    exact iff_of_false (by simp) (by simp [hauth])
  written_iff name' p' hw' := by
    obtain ⟨rfl, rfl⟩ := hw.unique hw'
    exact iff_of_true rfl hauth
  effect name' p' hw' _ := by
    obtain ⟨rfl, rfl⟩ := hw.unique hw'
    rw [Store.put_of_valid hw.valid hw.id_ne, (hs.fits_written now hw.valid hw.id_ne).name_eq,
      Store.id_written]
    refine ⟨rfl, rfl, fun other hother => ?_⟩
    rw [Table.get?_insert, if_neg (Ne.symm hother)]

/-- **A write of an id follows its law.** -/
theorem put_gateway_law (token : Option String) (now : Instant) (hs : s.Sound)
    (hroute : routeOf r = some (.gateway segment)) (hput : r.method = "PUT")
    (hsize : r.body.size ≤ maxBodyBytes) :
    ∃ response s', ((Host.registry token).handle r).Answers ⟨now, s⟩ response ⟨now, s'⟩ ∧
      WriteLaw token now s segment r response s' := by
  -- the checks in their order: segment, body, authorization
  rw [Service.handle_put_gateway hroute hput]
  cases hsegment : segmentName? segment with
  | none =>
    obtain ⟨response, hanswer, hstatus⟩ := Service.withName_of_none (h := ⟨now, s⟩) hsegment
    refine ⟨response, s, hanswer, .bad hstatus ?_⟩
    rintro ⟨name, p, hw⟩
    simp [hw.segment_eq] at hsegment
  | some name =>
    rw [Service.withName_of_some hsegment, Service.withBody_of_le hsize]
    by_cases hw : ∃ p, IsWrite segment r name p
    · obtain ⟨p, hw⟩ := hw
      cases hauth : isAuthorized (effective token) (boundToken s name) p.token with
      | false => exact ⟨_, s, Service.putGateway_refused hw hauth, .refused hw rfl hauth⟩
      | true => exact ⟨_, _, Service.putGateway_written hw hauth, .written hs hw hauth⟩
    · obtain ⟨message, hanswer⟩ :=
        Service.putGateway_bad token ⟨now, s⟩ hsegment fun p hp => hw ⟨p, hp⟩
      refine ⟨_, s, hanswer, .bad rfl ?_⟩
      rintro ⟨name', p, hp⟩
      obtain rfl := Option.some.inj (hsegment.symm.trans hp.segment_eq)
      exact hw ⟨p, hp⟩

/-! ## Writes of a token -/

/-- A request that is no sound write of a token is a bad one, and changes nothing. -/
theorem BindingLaw.bad {response : Response} (hstatus : response.status = 400)
    (hbad : ¬ ∃ name u, IsBinding segment r name u) :
    BindingLaw token s segment r response s where
  bad_iff := iff_of_true hstatus hbad
  refused_iff name u hb := absurd ⟨name, u, hb⟩ hbad
  absent_iff name u hb := absurd ⟨name, u, hb⟩ hbad
  bound_iff name u hb := absurd ⟨name, u, hb⟩ hbad
  effect name u hb := absurd ⟨name, u, hb⟩ hbad

/-- A sound write of a token that is not authorized is refused, be the gateway there or not. -/
theorem BindingLaw.refused {response : Response} {u : TokenUpdate}
    (hb : IsBinding segment r name u) (hstatus : response.status = 401)
    (hauth : isAuthorized (effective token) (boundToken s name) u.writeToken = false) :
    BindingLaw token s segment r response s where
  bad_iff := iff_of_false (by simp [hstatus]) (not_not_intro ⟨name, u, hb⟩)
  refused_iff name' u' hb' := by
    obtain ⟨rfl, rfl⟩ := hb.unique hb'
    exact iff_of_true hstatus hauth
  absent_iff name' u' hb' := by
    obtain ⟨rfl, rfl⟩ := hb.unique hb'
    exact iff_of_false (by simp [hstatus]) (by simp [hauth])
  bound_iff name' u' hb' := by
    obtain ⟨rfl, rfl⟩ := hb.unique hb'
    exact iff_of_false (by simp [hstatus]) (by simp [hauth])
  effect name' u' hb' h204 := by simp [hstatus] at h204

/-- An authorized write of a token to a gateway without an entry finds nothing. -/
theorem BindingLaw.absent {response : Response} {u : TokenUpdate}
    (hb : IsBinding segment r name u) (hstatus : response.status = 404)
    (hauth : isAuthorized (effective token) (boundToken s name) u.writeToken = true)
    (he : s.get? name = none) : BindingLaw token s segment r response s where
  bad_iff := iff_of_false (by simp [hstatus]) (not_not_intro ⟨name, u, hb⟩)
  refused_iff name' u' hb' := by
    obtain ⟨rfl, rfl⟩ := hb.unique hb'
    exact iff_of_false (by simp [hstatus]) (by simp [hauth])
  absent_iff name' u' hb' := by
    obtain ⟨rfl, rfl⟩ := hb.unique hb'
    exact iff_of_true hstatus ⟨hauth, he⟩
  bound_iff name' u' hb' := by
    obtain ⟨rfl, rfl⟩ := hb.unique hb'
    exact iff_of_false (by simp [hstatus]) (by simp [he])
  effect name' u' hb' h204 := by simp [hstatus] at h204

/-- An authorized write of a token changes the token of its own entry only. -/
theorem BindingLaw.bound {u : TokenUpdate} {e : Entry} (hb : IsBinding segment r name u)
    (hauth : isAuthorized (effective token) (boundToken s name) u.writeToken = true)
    (he : s.get? name = some e) :
    BindingLaw token s segment r (.empty 204) (s.insert name (e.bind u.token)) where
  bad_iff := iff_of_false (by simp) (not_not_intro ⟨name, u, hb⟩)
  refused_iff name' u' hb' := by
    obtain ⟨rfl, rfl⟩ := hb.unique hb'
    exact iff_of_false (by simp) (by simp [hauth])
  absent_iff name' u' hb' := by
    obtain ⟨rfl, rfl⟩ := hb.unique hb'
    exact iff_of_false (by simp) (by simp [he])
  bound_iff name' u' hb' := by
    obtain ⟨rfl, rfl⟩ := hb.unique hb'
    exact iff_of_true rfl ⟨hauth, e, he⟩
  effect name' u' hb' _ := by
    obtain ⟨rfl, rfl⟩ := hb.unique hb'
    refine ⟨⟨e, he, Table.get?_insert_self _ _ _⟩, fun other hother => ?_⟩
    rw [Table.get?_insert, if_neg (Ne.symm hother)]

/-- **A write of a token follows its law.** -/
theorem put_token_law (token : Option String) (now : Instant) (s : Store)
    (hroute : routeOf r = some (.gatewayToken segment)) (hput : r.method = "PUT")
    (hsize : r.body.size ≤ maxBodyBytes) :
    ∃ response s', ((Host.registry token).handle r).Answers ⟨now, s⟩ response ⟨now, s'⟩ ∧
      BindingLaw token s segment r response s' := by
  -- the checks in their order: segment, body, authorization, and whether the entry is there
  rw [Service.handle_put_token hroute hput]
  cases hsegment : segmentName? segment with
  | none =>
    obtain ⟨response, hanswer, hstatus⟩ := Service.withName_of_none (h := ⟨now, s⟩) hsegment
    refine ⟨response, s, hanswer, .bad hstatus ?_⟩
    rintro ⟨name, u, hb⟩
    simp [hb.segment_eq] at hsegment
  | some name =>
    rw [Service.withName_of_some hsegment, Service.withBody_of_le hsize]
    by_cases hb : ∃ u, IsBinding segment r name u
    · obtain ⟨u, hb⟩ := hb
      cases hauth : isAuthorized (effective token) (boundToken s name) u.writeToken with
      | false => exact ⟨_, s, Service.putToken_refused hb hauth, .refused hb rfl hauth⟩
      | true =>
        cases he : s.get? name with
        | none => exact ⟨_, s, Service.putToken_absent hb hauth he, .absent hb rfl hauth he⟩
        | some e => exact ⟨_, _, Service.putToken_bound hb hauth he, .bound hb hauth he⟩
    · obtain ⟨message, hanswer⟩ :=
        Service.putToken_bad token ⟨now, s⟩ hsegment fun u hu => hb ⟨u, hu⟩
      refine ⟨_, s, hanswer, .bad rfl ?_⟩
      rintro ⟨name', u, hu⟩
      obtain rfl := Option.some.inj (hsegment.symm.trans hu.segment_eq)
      exact hb ⟨u, hu⟩

/-! ## Questions -/

/-- A question about no valid name is a bad one; a sound store has no entry for such a name. -/
theorem ReadLaw.bad {response : Response} (hstatus : response.status = 400)
    (hbad : ∀ name, segmentName? segment = some name → isValidName name = false)
    (hs : s.Sound) : ReadLaw s segment response where
  bad_iff := by
    refine iff_of_true hstatus ?_
    rintro ⟨name, hsegment, hname⟩
    simp [hbad name hsegment] at hname
  absent_iff name hsegment hname := by simp [hbad name hsegment] at hname
  found_iff name hsegment hname := by simp [hbad name hsegment] at hname
  reply name e hsegment he := by
    have hname := (hs name e he).valid
    simp [hbad name hsegment] at hname

/-- A question about a gateway without an entry finds nothing. -/
theorem ReadLaw.absent {response : Response} (hstatus : response.status = 404)
    (hsegment : segmentName? segment = some name) (hname : isValidName name = true)
    (he : s.get? name = none) : ReadLaw s segment response where
  bad_iff := iff_of_false (by simp [hstatus]) (not_not_intro ⟨name, hsegment, hname⟩)
  absent_iff name' hsegment' _ := by
    obtain rfl := Option.some.inj (hsegment.symm.trans hsegment')
    exact iff_of_true hstatus he
  found_iff name' hsegment' _ := by
    obtain rfl := Option.some.inj (hsegment.symm.trans hsegment')
    exact iff_of_false (by simp [hstatus]) (by simp [he])
  reply name' e hsegment' he' := by
    obtain rfl := Option.some.inj (hsegment.symm.trans hsegment')
    simp [he] at he'

/-- A question about a gateway with an entry is answered with its name and its id. -/
theorem ReadLaw.present {e : Entry} (hsegment : segmentName? segment = some name)
    (hname : isValidName name = true) (he : s.get? name = some e) (hs : s.Sound) :
    ReadLaw s segment (found e.name e.id) where
  bad_iff := iff_of_false (by simp) (not_not_intro ⟨name, hsegment, hname⟩)
  absent_iff name' hsegment' _ := by
    obtain rfl := Option.some.inj (hsegment.symm.trans hsegment')
    exact iff_of_false (by simp) (by simp [he])
  found_iff name' hsegment' _ := by
    obtain rfl := Option.some.inj (hsegment.symm.trans hsegment')
    exact iff_of_true rfl ⟨e, he⟩
  reply name' e' hsegment' he' := by
    obtain rfl := Option.some.inj (hsegment.symm.trans hsegment')
    obtain rfl := Option.some.inj (he.symm.trans he')
    rw [(hs name e he).name_eq]

/-- **A question about a gateway follows its law.** -/
theorem get_gateway_law (token : Option String) (now : Instant) (hs : s.Sound)
    (hroute : routeOf r = some (.gateway segment)) (hget : r.method = "GET") :
    ∃ response, ((Host.registry token).handle r).Answers ⟨now, s⟩ response ⟨now, s⟩ ∧
      ReadLaw s segment response := by
  rw [Service.handle_get_gateway hroute hget]
  cases hsegment : segmentName? segment with
  | none =>
    obtain ⟨response, hanswer, hstatus⟩ := Service.withName_of_none (h := ⟨now, s⟩) hsegment
    exact ⟨response, hanswer, .bad hstatus (by simp [hsegment]) hs⟩
  | some name =>
    rw [Service.withName_of_some hsegment]
    cases hname : isValidName name with
    | false =>
      refine ⟨_, Service.getGateway_invalid hname, .bad rfl (fun name' hsegment' => ?_) hs⟩
      obtain rfl := Option.some.inj (hsegment.symm.trans hsegment')
      exact hname
    | true =>
      cases he : s.get? name with
      | none => exact ⟨_, Service.getGateway_absent hname he, .absent rfl hsegment hname he⟩
      | some e => exact ⟨_, Service.getGateway_present hname he, .present hsegment hname he hs⟩

end Laws

/-! ## The law of every request -/

/-- A store that is changed is changed by a request that succeeds, and by PUT. -/
theorem Service.Handled.frame {token : Option String} {h : Host} {r : Request}
    {response : Response} {s' : Store} (hhandled : Service.Handled token h r response s') :
    response.status ≠ 500 ∧ (response.isSuccess = false → s' = h.store) ∧
      (r.method ≠ "PUT" → s' = h.store) := by
  cases hhandled with
  | kept hstatus => exact ⟨hstatus, fun _ => rfl, fun _ => rfl⟩
  | written hroute hput => exact ⟨by simp, fun h => by simp [Response.isSuccess] at h, absurd hput⟩
  | bound hroute hput => exact ⟨by simp, fun h => by simp [Response.isSuccess] at h, absurd hput⟩

/-- A request that is handled leads from a store that calls can lead to to another such store. -/
theorem Service.Handled.reachable {token : Option String} {h : Host} {r : Request}
    {response : Response} {s' : Store} (hhandled : Service.Handled token h r response s')
    (hs : h.store.Reachable) : s'.Reachable := by
  cases hhandled with
  | kept => exact hs
  -- either change is that of one call
  | @written segment name p => exact hs.answer h.now (.put name p.id)
  | @bound segment name u e hroute hput hb hauth he =>
    have hanswer := hs.answer h.now (.putToken name u.token)
    simpa only [Store.answer, Store.putToken_of_some he] using hanswer

/-- **Status and effect of every request.** A registry over a store that calls can lead to answers
every request whose body is not too long, never with 500, and leaves such a store again. Without
success, and by any method but PUT, the store stays as it is. Writes and questions about a gateway
follow their laws. -/
theorem status_and_effect (token : Option String) (now : Instant) (s : Store) (r : Request)
    (hs : s.Reachable) (hsize : r.body.size ≤ maxBodyBytes) :
    ∃ response s', ((Host.registry token).handle r).Answers ⟨now, s⟩ response ⟨now, s'⟩ ∧
      s'.Reachable ∧ response.status ≠ 500 ∧ (response.isSuccess = false → s' = s) ∧
      (r.method ≠ "PUT" → s' = s) ∧
      (∀ segment, routeOf r = some (.gateway segment) → r.method = "PUT" →
        WriteLaw token now s segment r response s') ∧
      (∀ segment, routeOf r = some (.gatewayToken segment) → r.method = "PUT" →
        BindingLaw token s segment r response s') ∧
      (∀ segment, routeOf r = some (.gateway segment) → r.method = "GET" →
        ReadLaw s segment response) := by
  obtain ⟨response, s', hanswer, hhandled⟩ := Service.handle_handles token ⟨now, s⟩ r
  obtain ⟨hstatus, hfailed, hread⟩ := hhandled.frame
  -- a request has one answer, so each law is about the answer at hand
  refine ⟨response, s', hanswer, hhandled.reachable hs, hstatus, hfailed, hread,
    fun segment hroute hput => ?_, fun segment hroute hput => ?_, fun segment hroute hget => ?_⟩
  · obtain ⟨response₂, s₂, hanswer₂, hlaw⟩ := put_gateway_law token now hs.sound hroute hput hsize
    obtain ⟨rfl, heq⟩ := hanswer.unique hanswer₂
    cases heq
    exact hlaw
  · obtain ⟨response₂, s₂, hanswer₂, hlaw⟩ := put_token_law token now s hroute hput hsize
    obtain ⟨rfl, heq⟩ := hanswer.unique hanswer₂
    cases heq
    exact hlaw
  · obtain ⟨response₂, hanswer₂, hlaw⟩ := get_gateway_law token now hs.sound hroute hget
    obtain ⟨rfl, -⟩ := hanswer.unique hanswer₂
    exact hlaw

/-- The holder of an entry's own token writes an id, with another name in the body. -/
theorem status_and_effect_of_write :
    let now : Instant := ⟨1704164645, 0⟩
    let s := Store.run .empty [(now, .put "gw1" "id1"), (now, .putToken "gw1" "t1")]
    let r : Request := ⟨"PUT", "/gateway/gw1", [],
      (Json.compact (Payload.mk "other" "id2" (some "t1")).toJson).toUTF8⟩
    s.Reachable ∧ r.body.size ≤ maxBodyBytes ∧
      ∃ response s', ((Host.registry (some "shared")).handle r).Answers ⟨now, s⟩ response ⟨now, s'⟩ ∧
        response.status = 200 ∧ s'.get? "gw1" = some ⟨"gw1", "id2", 2, now, some "t1"⟩ := by
  intro now s r
  have hreachable : s.Reachable := ⟨_, rfl⟩
  have hsize : r.body.size ≤ maxBodyBytes := by decide +kernel
  obtain ⟨response, s', hanswer, -, -, -, -, hwrite, -⟩ :=
    status_and_effect (some "shared") now s r hreachable hsize
  have hroute : routeOf r = some (.gateway "gw1") := by decide +kernel
  have hlaw := hwrite "gw1" hroute rfl
  have hbody : decodeBody Payload.decode Payload.decode r = .ok ⟨"other", "id2", some "t1"⟩ := by
    rw [decodeBody, if_neg (by decide), Json.decode_compact _ (Payload.exact_toJson _),
      Payload.decode_toJson]
  have hw : IsWrite "gw1" r "gw1" ⟨"other", "id2", some "t1"⟩ :=
    ⟨by decide +kernel, by decide, hbody, by decide⟩
  have hstatus : response.status = 200 := (hlaw.written_iff _ _ hw).2 (by decide +kernel)
  obtain ⟨-, hput, -⟩ := hlaw.effect _ _ hw hstatus
  refine ⟨hreachable, hsize, response, s', hanswer, hstatus, ?_⟩
  have hs' : s' = (s.put now "gw1" "id2").2 := by rw [hput]
  rw [hs']
  decide +kernel

end GatewayDirectory.Registry
