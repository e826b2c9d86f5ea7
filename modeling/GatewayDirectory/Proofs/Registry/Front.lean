import GatewayDirectory.Directory.Location
import GatewayDirectory.Proofs.Registry.Remote
import GatewayDirectory.Proofs.Registry.WriteLock

/-!
# A registry in front of another

A registry may have another registry for its directory, which it reaches as a remote with its own
token. Such a front decides twice about a write. It asks for the entry first and is told no token of
it, so only its own token counts; then it sends the write on with its own token in place of the
caller's. Its answers are therefore not those of the registry behind. `write_through_front` says
which they are, and for which writes they agree.
-/

namespace GatewayDirectory

open Directory Http Text

/-! ## Where a front lives -/

namespace Directory.Location

/-- What follows a beginning is the rest. -/
theorem after?_append (start rest : String) : after? start (start ++ rest) = some rest := by
  simp [after?]

/-- What begins as an address of a registry is none of the other locations. -/
theorem read_append {scheme : String} (hscheme : scheme = "http://" ∨ scheme = "https://")
    (rest : String) :
    read (scheme ++ rest) = .ok (.http (dropTrailing '/' (scheme ++ rest))) := by
  have hhead : (scheme ++ rest).toList.head? = some 'h' := by
    rcases hscheme with rfl | rfl <;> simp
  have hmemory : ¬(scheme ++ rest = "memory" ∨ scheme ++ rest = "memory://") := by
    rintro (h | h)
    · rw [h] at hhead
      cases hhead
    · rw [h] at hhead
      cases hhead
  have hfile : after? "file://" (scheme ++ rest) = none := by
    rcases hscheme with rfl | rfl <;> simp [after?]
  have hhttp : ((after? "http://" (scheme ++ rest)).isSome ||
      (after? "https://" (scheme ++ rest)).isSome) = true := by
    rcases hscheme with rfl | rfl
    · rw [after?_append]
      rfl
    · rw [after?_append, Option.isSome_some, Bool.or_true]
  rw [read, if_neg hmemory, hfile, if_pos hhttp]

/-- The address of a registry is read as its location. -/
theorem read_text (o : Origin) (slashes : Nat) :
    read (o.text ++ String.ofList (List.replicate slashes '/')) = .ok (.http o.text) := by
  have hscheme : o.scheme ++ "://" = "http://" ∨ o.scheme ++ "://" = "https://" := by
    rcases o.scheme_eq with hs | hs <;> simp [hs]
  have hread := read_append hscheme (o.host ++ String.ofList (List.replicate slashes '/'))
  rwa [← String.append_assoc, ← Origin.text, o.dropTrailing_text] at hread

end Directory.Location

namespace Registry

open Remote

/-! ## What is decided -/

section Decisions

variable {token bound supplied : Option String}

/-- The decision of a front, which is told of no token that is bound. -/
theorem isAuthorized_unbound_iff :
    isAuthorized (effective token) none supplied = true ↔
      ∀ w, effective token = some w → supplied = some w := by
  rw [isAuthorized_iff]
  cases hw : effective token with
  | none => simp [effective]
  | some w =>
    obtain ⟨rfl, hne⟩ := effective_eq_some_iff.1 hw
    simp [hne]

/-- The decision about a write that a front sends on. -/
theorem isAuthorized_own_iff :
    isAuthorized (effective token) bound token = true ↔
      (effective token = none → effective bound = none) := by
  rw [isAuthorized_iff]
  -- without a token of its own a registry asks for the one that is bound, and what is sent is empty
  cases hw : effective token with
  | none =>
    have hempty := effective_eq_none_iff.1 hw
    constructor
    · rintro (⟨-, hbound⟩ | ⟨t, ht, hne, -⟩) -
      · exact hbound
      · exact absurd (hempty t ht) hne
    · exact fun hbound => .inl ⟨rfl, hbound rfl⟩
  | some w =>
    obtain ⟨rfl, hne⟩ := effective_eq_some_iff.1 hw
    simp [hne]

/-- The decision of a registry whose own token is set. -/
theorem isAuthorized_of_some {w : String} (hw : effective token = some w) :
    isAuthorized (effective token) bound supplied = true ↔
      supplied = some w ∨ ∃ t, effective bound = some t ∧ supplied = some t := by
  obtain ⟨rfl, hne⟩ := effective_eq_some_iff.1 hw
  rw [isAuthorized_iff, hw]
  constructor
  · rintro (⟨hnone, -⟩ | ⟨t, hsupplied, ht, hkey | hbound⟩)
    · cases hnone
    · cases hkey
      exact .inl hsupplied
    · exact .inr ⟨t, effective_eq_some_iff.2 ⟨hbound, ht⟩, hsupplied⟩
  · rintro (hsupplied | ⟨t, hbound, hsupplied⟩)
    · exact .inr ⟨w, hsupplied, hne, .inl rfl⟩
    · obtain ⟨hbound, ht⟩ := effective_eq_some_iff.1 hbound
      exact .inr ⟨t, hsupplied, ht, .inr hbound⟩

end Decisions

/-! ## What a front does with a write -/

/-- The three ways in which a front handles a write, with what is known in each. -/
inductive Fronted (token : Option String) (s : Store) (name : String) (p : Payload)
    (now : Instant) : Response → Store → Prop
  /-- The front refuses the write. -/
  | refused {response : Response} (hstatus : response.status = 401)
    (hfront : isAuthorized (effective token) none p.token = false) :
    Fronted token s name p now response s
  /-- The registry behind refuses it. -/
  | failed {response : Response} (hstatus : response.status = 500)
    (hfront : isAuthorized (effective token) none p.token = true)
    (hbehind : isAuthorized (effective token) (boundToken s name) token = false) :
    Fronted token s name p now response s
  /-- Neither does. -/
  | written {response : Response} (hstatus : response.status = 200)
    (hfront : isAuthorized (effective token) none p.token = true)
    (hbehind : isAuthorized (effective token) (boundToken s name) token = true) :
    Fronted token s name p now response (s.put now name p.id).2

section Front

variable {remote : Remote Host} {o : Origin} {token : Option String} {h : Host}
  {name segment : String} {p : Payload} {r : Request}

/-- The registry in front of the one that a remote reaches, with the same token. -/
def front (remote : Remote Host) (token : Option String) : Service Host :=
  .create (remote.directory Host.now) token

/-- **A front is told no token**, so the write is judged as if none were bound. -/
theorem authorize_front (hp : PointsAt remote o token) (hs : h.store.Sound)
    (hname : Addressable name) (supplied : Option String) (t : Nat) :
    Served remote.timeout t h ((front remote token).authorize name supplied) fun _ a s' =>
      s' = h.store ∧ a = if isAuthorized (effective token) none supplied = true then none
        else some (failure 401 name Error.unauthorized.message) := by
  -- whether or not there is an entry, no token comes with it
  refine (hp.get_told hs hname t).andThen ?_
  rintro _ _ _ ⟨rfl, ⟨-, rfl⟩ | ⟨e, later', -, rfl⟩⟩ later
  · exact ⟨_, Service.decision_answers _ token none supplied name, rfl, rfl⟩
  · exact ⟨_, Service.decision_answers _ token none supplied name, rfl, rfl⟩

/-- **A front sends a write on with its own token.** -/
theorem putGateway_front (hp : PointsAt remote o token) (hown : remote.writeToken = token)
    (hs : h.store.Sound) (hname : Addressable name) (hw : IsWrite segment r name p)
    (hsize : (Json.compact (Payload.mk name p.id token).toJson).toUTF8.size ≤ maxBodyBytes)
    (t : Nat) :
    Served (remote.timeout + remote.timeout) t h ((front remote token).putGateway name r)
      (Fronted token h.store name p) := by
  simp only [Service.putGateway, hw.valid, hw.body_eq, hw.id_ne, Bool.not_true, Bool.false_eq_true,
    if_false]
  refine (authorize_front hp hs hname p.token t).followed ?_
  rintro now _ _ ⟨rfl, rfl⟩ later t'
  cases hfront : isAuthorized (effective token) none p.token with
  | false => exact .pure now (.refused rfl hfront)
  | true =>
    -- the write is sent on without the token that came with it
    have hput := hp.put_served (h := ⟨later, h.store⟩) hs hname p.id none
      (by rw [Option.none_or, hown]; exact hsize) t'
    rw [Option.none_or, hown] at hput
    refine hput.andThen fun now a s' hlaw later' => ?_
    cases a with
    | ok e =>
      obtain ⟨-, hbehind⟩ := hlaw.ok_iff.1 ⟨e, rfl⟩
      obtain ⟨-, -, hstore⟩ := hlaw.written e rfl
      have hs' : s' = (h.store.put now name p.id).2 := by rw [hstore]
      rw [hs']
      exact ⟨_, (Timed.Answers.report _ _).bind (Timed.Answers.pure _ _),
        .written rfl hfront hbehind⟩
    | error e =>
      have hbehind : isAuthorized (effective token) (boundToken h.store name) token = false := by
        rw [← Bool.not_eq_true]
        intro hauth
        obtain ⟨_, hok⟩ := hlaw.ok_iff.2 ⟨hw.id_ne, hauth⟩
        cases hok
      rw [hlaw.kept e rfl]
      exact ⟨_, (Timed.Answers.report _ _).bind (Timed.Answers.pure _ _),
        .failed rfl hfront hbehind⟩

end Front

/-! ## The front and the registry behind it -/

/-- The registry behind, asked directly at that time, gives a response of the same status and leaves
the same store. -/
def Agrees (token : Option String) (s : Store) (r : Request) (now : Instant) (response : Response)
    (s' : Store) : Prop :=
  ∃ direct, ((Host.registry token).handle r).Answers ⟨now, s⟩ direct ⟨now, s'⟩ ∧
    direct.status = response.status

/-- How a front answers a write. It refuses the write if the registry's token is set and not
supplied, and fails if that token is not set and another one is bound. It agrees with the registry
behind unless it fails or the write is allowed by the bound token alone. -/
structure FrontLaw (token : Option String) (s : Store) (r : Request) (name : String) (p : Payload)
    (now : Instant) (response : Response) (s' : Store) : Prop where
  refused_iff : response.status = 401 ↔ ∃ w, effective token = some w ∧ p.token ≠ some w
  failed_iff :
    response.status = 500 ↔ effective token = none ∧ effective (boundToken s name) ≠ none
  written_iff : response.status = 200 ↔ (∃ w, effective token = some w ∧ p.token = some w) ∨
    (effective token = none ∧ effective (boundToken s name) = none)
  written : response.status = 200 → s' = (s.put now name p.id).2
  kept : response.status ≠ 200 → s' = s
  agrees_iff : Agrees token s r now response s' ↔
    (effective token = none → effective (boundToken s name) = none) ∧
      ∀ t, effective (boundToken s name) = some t → p.token = some t → effective token = some t

section Laws

variable {token : Option String} {s s' : Store} {r : Request} {segment name : String} {p : Payload}
  {now : Instant} {response : Response}
variable (hroute : routeOf r = some (.gateway segment)) (hput : r.method = "PUT")
  (hsize : r.body.size ≤ maxBodyBytes) (hw : IsWrite segment r name p)
include hroute hput hsize hw

/-- The registry behind, asked directly, decides by all that it knows. -/
theorem agrees_iff_of_isWrite : Agrees token s r now response s' ↔
    if isAuthorized (effective token) (boundToken s name) p.token = true then
      response.status = 200 ∧ s' = (s.put now name p.id).2
    else response.status = 401 ∧ s' = s := by
  have hhandle : (Host.registry token).handle r = (Host.registry token).putGateway name r :=
    Service.handle_putGateway hroute hput hw.segment_eq hsize
  -- the direct answer is the only one
  have honly {direct : Response} {s₀ : Store}
      (hdirect : ((Host.registry token).putGateway name r).Answers ⟨now, s⟩ direct ⟨now, s₀⟩) :
      Agrees token s r now response s' ↔ response.status = direct.status ∧ s' = s₀ := by
    rw [Agrees, hhandle]
    constructor
    · rintro ⟨direct', hdirect', hstatus⟩
      obtain ⟨rfl, heq⟩ := hdirect'.unique hdirect
      cases heq
      exact ⟨hstatus.symm, rfl⟩
    · rintro ⟨hstatus, rfl⟩
      exact ⟨direct, hdirect, hstatus.symm⟩
  cases hauth : isAuthorized (effective token) (boundToken s name) p.token with
  | false => exact honly (Service.putGateway_refused hw hauth)
  | true => exact honly (Service.putGateway_written hw hauth)

/-- A write that the front refuses is refused behind, unless the bound token allows it there. -/
theorem FrontLaw.refused (hstatus : response.status = 401) {w : String}
    (htoken : effective token = some w) (hsupplied : p.token ≠ some w) :
    FrontLaw token s r name p now response s where
  refused_iff := iff_of_true hstatus ⟨w, htoken, hsupplied⟩
  failed_iff := by simp [hstatus, htoken]
  written_iff := by simp [hstatus, htoken, hsupplied]
  written h := by simp [hstatus] at h
  kept _ := rfl
  agrees_iff := by
    rw [agrees_iff_of_isWrite hroute hput hsize hw]
    by_cases hbehind : isAuthorized (effective token) (boundToken s name) p.token = true
    · rw [if_pos hbehind]
      -- what allows the write behind can only be the bound token
      obtain hown | ⟨t, hbound, ht⟩ := (isAuthorized_of_some htoken).1 hbehind
      · exact absurd hown hsupplied
      · refine iff_of_false (by simp [hstatus]) fun hseen => hsupplied ?_
        rw [ht, ← hseen.2 t hbound ht, htoken]
    · rw [if_neg hbehind]
      refine iff_of_true ⟨hstatus, rfl⟩ ⟨by simp [htoken], fun t hbound ht => ?_⟩
      exact absurd ((isAuthorized_of_some htoken).2 (.inr ⟨t, hbound, ht⟩)) hbehind

/-- A write that fails is never answered so behind. -/
theorem FrontLaw.failed (hstatus : response.status = 500) (htoken : effective token = none)
    (hbound : effective (boundToken s name) ≠ none) : FrontLaw token s r name p now response s where
  refused_iff := by simp [hstatus, htoken]
  failed_iff := iff_of_true hstatus ⟨htoken, hbound⟩
  written_iff := by simp [hstatus, htoken, hbound]
  written h := by simp [hstatus] at h
  kept _ := rfl
  agrees_iff := by
    rw [agrees_iff_of_isWrite hroute hput hsize hw]
    refine iff_of_false ?_ fun hseen => hbound (hseen.1 htoken)
    split <;> simp [hstatus]

/-- A write that is made in the end would have been made behind. -/
theorem FrontLaw.made (hstatus : response.status = 200)
    (hopen : (∃ w, effective token = some w ∧ p.token = some w) ∨
      (effective token = none ∧ effective (boundToken s name) = none)) :
    FrontLaw token s r name p now response (s.put now name p.id).2 where
  refused_iff := by
    refine iff_of_false (by simp [hstatus]) ?_
    rintro ⟨w, htoken, hsupplied⟩
    rcases hopen with ⟨w', htoken', hsupplied'⟩ | ⟨hnone, -⟩
    · cases htoken.symm.trans htoken'
      exact hsupplied hsupplied'
    · cases htoken.symm.trans hnone
  failed_iff := by
    refine iff_of_false (by simp [hstatus]) ?_
    rintro ⟨hnone, hbound⟩
    rcases hopen with ⟨w, htoken, -⟩ | ⟨-, hbound'⟩
    · cases hnone.symm.trans htoken
    · exact hbound hbound'
  written_iff := iff_of_true hstatus hopen
  written _ := rfl
  kept h := absurd hstatus h
  agrees_iff := by
    rw [agrees_iff_of_isWrite hroute hput hsize hw]
    -- what let the write pass at the front lets it pass behind as well
    rcases hopen with ⟨w, htoken, hsupplied⟩ | ⟨htoken, hbound⟩
    · rw [if_pos ((isAuthorized_of_some htoken).2 (.inl hsupplied))]
      refine iff_of_true ⟨hstatus, rfl⟩ ⟨by simp [htoken], fun t _ ht => ?_⟩
      rw [htoken, ← hsupplied, ht]
    · rw [if_pos (isAuthorized_iff.2 (.inl ⟨htoken, hbound⟩))]
      exact iff_of_true ⟨hstatus, rfl⟩ ⟨fun _ => hbound, by simp [hbound]⟩

/-- Each of the three ways is lawful. -/
theorem Fronted.law (h : Fronted token s name p now response s') :
    FrontLaw token s r name p now response s' := by
  cases h with
  | refused hstatus hfront =>
    rw [← Bool.not_eq_true, isAuthorized_unbound_iff] at hfront
    push Not at hfront
    obtain ⟨w, htoken, hsupplied⟩ := hfront
    exact .refused hroute hput hsize hw hstatus htoken hsupplied
  | failed hstatus hfront hbehind =>
    rw [← Bool.not_eq_true, isAuthorized_own_iff, Classical.not_imp] at hbehind
    exact .failed hroute hput hsize hw hstatus hbehind.1 hbehind.2
  | written hstatus hfront hbehind =>
    -- both registries let the write pass: the token was supplied, or none is asked for
    rw [isAuthorized_unbound_iff] at hfront
    rw [isAuthorized_own_iff] at hbehind
    refine .made hroute hput hsize hw hstatus ?_
    cases htoken : effective token with
    | none => exact .inr ⟨rfl, hbehind htoken⟩
    | some w => exact .inl ⟨w, rfl, hfront w htoken⟩

end Laws

/-- **A write through a front.** A registry is set up with the address of another one as its
backend, and both have the same token. Each request of the front comes to the registry behind and
is answered in time. Then the backend is opened, and the front answers every sound write of an id as
`FrontLaw` says. -/
theorem write_through_front {around : Location.Surroundings Host} {o : Origin}
    {token : Option String} {timeout : Nat} (hclock : around.clock = Host.now)
    (hnetwork : Reaches around.network o.authority token timeout) (slashes : Nat) :
    ∃ location d,
      Location.read (o.text ++ String.ofList (List.replicate slashes '/')) = .ok location ∧
      location.directory around timeout token = .done (.ok d) ∧
      ∀ (h : Host) (t : Nat) (r : Request) (segment name : String) (p : Payload),
        h.store.Reachable → routeOf r = some (.gateway segment) → r.method = "PUT" →
        r.body.size ≤ maxBodyBytes → IsWrite segment r name p → Addressable name →
        (Json.compact (Payload.mk name p.id token).toJson).toUTF8.size ≤ maxBodyBytes →
        Served (timeout + timeout) t h ((Service.create d token).handle r)
          (FrontLaw token h.store r name p) := by
  let remote := Remote.create around.network o.text timeout token
  have hp : PointsAt remote o token := by
    have hpoints := create_pointsAt hnetwork 0 token
    rwa [List.replicate_zero, String.ofList_nil, String.append_empty] at hpoints
  refine ⟨.http o.text, remote.directory Host.now, Location.read_text o slashes, ?_, ?_⟩
  · rw [← hclock]
    rfl
  · intro h t r segment name p hs hroute hput hsize hw hname hsent
    have hhandle : (Service.create (remote.directory Host.now) token).handle r =
        (front remote token).putGateway name r :=
      Service.handle_putGateway hroute hput hw.segment_eq hsize
    rw [hhandle]
    exact (putGateway_front hp rfl hs.sound hname hw hsent t).imp fun _ _ _ hfronted =>
      hfronted.law hroute hput hsize hw

/-- What a registry works with that reaches only the one at the example's origin. -/
def exampleSurroundings (token : Option String) : Location.Surroundings Host where
  clock := Host.now
  store := Host.storePart
  disk := ⟨fun _ => .empty, fun _ h => h⟩
  network := relay token 3

/-- The holder of an entry's own token cannot write through a front. With a token the front refuses
the write, without one it fails; the registry behind would have written the id. -/
theorem write_through_front_of_holder :
    let p : Payload := ⟨"gw1", "id2", some "t1"⟩
    let r := sent "PUT" (gatewayPath "gw1") (some p.toJson)
    let h : Host := ⟨⟨1704164645, 0⟩, exampleStore⟩
    let backend := exampleOrigin.text ++ String.ofList (List.replicate 1 '/')
    let Opens (token : Option String) (d : Directory Host) := ∃ location,
      Location.read backend = .ok location ∧
        location.directory (exampleSurroundings token) 10000 token = .done (.ok d)
    h.store.Reachable ∧
      (∃ d, Opens (some "shared") d ∧
        Served (10000 + 10000) 0 h ((Service.create d (some "shared")).handle r)
          fun now response s' => response.status = 401 ∧ s' = exampleStore ∧
            ¬ Agrees (some "shared") exampleStore r now response s') ∧
      ∃ d, Opens none d ∧ Served (10000 + 10000) 0 h ((Service.create d none).handle r)
        fun now response s' => response.status = 500 ∧ s' = exampleStore ∧
          ¬ Agrees none exampleStore r now response s' := by
  intro p r h backend Opens
  have hreachable : h.store.Reachable := ⟨_, rfl⟩
  have hname : Addressable "gw1" := ⟨by decide, by decide, by decide⟩
  have hroute : routeOf r = some (.gateway (Percent.encode "gw1")) :=
    routeOf_gatewayPath hname (sent_target _)
  have hput : r.method = "PUT" := sent_method _
  have hsize : r.body.size ≤ maxBodyBytes := by decide +kernel
  have hid : p.id ≠ "" := by decide
  have hw : IsWrite (Percent.encode "gw1") r "gw1" p := isWrite_sent hname hid
  have hbound : effective (boundToken exampleStore "gw1") = some "t1" := by decide +kernel
  have hreaches (token : Option String) :
      Reaches (exampleSurroundings token).network exampleOrigin.authority token 10000 :=
    relay_reaches (by decide) _ _
  refine ⟨hreachable, ?_, ?_⟩
  · obtain ⟨location, d, hread, hopen, hfront⟩ :=
      write_through_front rfl (hreaches (some "shared")) 1
    refine ⟨d, ⟨location, hread, hopen⟩, ?_⟩
    refine (hfront h 0 r _ "gw1" p hreachable hroute hput hsize hw hname (by decide +kernel)).imp
      fun now response s' hlaw => ?_
    have hstatus : response.status = 401 :=
      hlaw.refused_iff.2 ⟨"shared", by decide, by decide⟩
    refine ⟨hstatus, hlaw.kept (by simp [hstatus]), fun hagrees => ?_⟩
    have hsame := (hlaw.agrees_iff.1 hagrees).2 "t1" hbound rfl
    exact absurd hsame (by decide)
  · obtain ⟨location, d, hread, hopen, hfront⟩ := write_through_front rfl (hreaches none) 1
    refine ⟨d, ⟨location, hread, hopen⟩, ?_⟩
    refine (hfront h 0 r _ "gw1" p hreachable hroute hput hsize hw hname (by decide +kernel)).imp
      fun now response s' hlaw => ?_
    have hbound' : effective (boundToken h.store "gw1") ≠ none := by
      intro hnone
      cases hbound.symm.trans hnone
    have hstatus : response.status = 500 := hlaw.failed_iff.2 ⟨rfl, hbound'⟩
    exact ⟨hstatus, hlaw.kept (by simp [hstatus]), fun hagrees =>
      hbound' ((hlaw.agrees_iff.1 hagrees).1 rfl)⟩

end Registry

end GatewayDirectory
