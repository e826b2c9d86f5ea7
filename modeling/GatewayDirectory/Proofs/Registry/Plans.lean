import GatewayDirectory.Proofs.Registry.WriteLock
import GatewayDirectory.Proofs.Timed.Turns

/-!
# What a request comes to

Before a registry turns to its directory, a request has come to one of four things: an answer that
is fixed by then, a question about one gateway, a question about all of them, or a write
(`Service.handle_plan`). A write of an id and a write of a token go the same way (`Asks`). In its
first step the entry is read, and the token that the request supplies is judged by it
(`authorize_turn`). If the token is good, the one call that the request asks for is made in a second
step (`call_turn`), and nothing is changed before or after (`handle_of_asks`).
-/

namespace GatewayDirectory.Registry

open Directory Http

/-- A request for a write: the call that it asks for, the name that the call is about, and the token
that it supplies. -/
inductive Asks (r : Request) : Call → String → Option String → Prop where
  | write {segment name : String} {p : Payload} (hroute : routeOf r = some (.gateway segment))
    (hput : r.method = "PUT") (hsize : r.body.size ≤ maxBodyBytes)
    (hw : IsWrite segment r name p) : Asks r (.put name p.id) name p.token
  | binding {segment name : String} {u : TokenUpdate}
    (hroute : routeOf r = some (.gatewayToken segment)) (hput : r.method = "PUT")
    (hsize : r.body.size ≤ maxBodyBytes) (hb : IsBinding segment r name u) :
    Asks r (.putToken name u.token) name u.writeToken

/-- Only PUT writes. -/
theorem Asks.method_eq {r : Request} {c : Call} {name : String} {supplied : Option String}
    (h : Asks r c name supplied) : r.method = "PUT" := by
  cases h with
  | write _ hput => exact hput
  | binding _ hput => exact hput

/-- The token that a write supplies is the one in its body. -/
theorem Asks.suppliedToken_eq {r : Request} {c : Call} {name : String} {supplied : Option String}
    (h : Asks r c name supplied) : suppliedToken r = supplied := by
  cases h with
  | write hroute _ _ hw => exact suppliedToken_of_isWrite hroute hw
  | binding hroute _ _ hb => exact suppliedToken_of_isBinding hroute hb

/-- The call of a write is about no other name. -/
theorem Asks.get?_answer_of_ne {r : Request} {c : Call} {name other : String}
    {supplied : Option String} (h : Asks r c name supplied) (hne : name ≠ other) (s : Store)
    (now : Instant) : (s.answer now c).2.get? other = s.get? other := by
  cases h with
  | write _ _ _ hw =>
    rw [Store.answer, Store.put_of_valid hw.valid hw.id_ne, Table.get?_insert, if_neg hne]
  | @binding _ _ u _ _ _ _ =>
    cases he : s.get? name with
    | none => rw [Store.answer, Store.putToken_of_none he]
    | some e => rw [Store.answer, Store.putToken_of_some he, Table.get?_insert, if_neg hne]

/-- What a handler of the request `r` comes to before it turns to the directory. `cut` is what is
made of the response at the end. -/
inductive Plan (token : Option String) (r : Request) (x : Timed Host Response) : Prop where
  | fixed (response : Response) (h : x = return response)
  | tells (name : String) (cut : Response → Response)
    (h : x = (do return cut (← (Host.registry token).getGateway name)))
  | lists (cut : Response → Response) (h : x = (do return cut (← (Host.registry token).dump)))
  | asks (c : Call) (name : String) (supplied : Option String) (h : Asks r c name supplied)

namespace Service

/-! ## The four plans -/

section Plans

variable {token : Option String} {r : Request} {name segment : String}

/-- A registry asks nobody about a segment that is no text. -/
theorem withName_plan {next : String → Timed Host Response}
    (hnext : ∀ name, segmentName? segment = some name → Plan token r (next name)) :
    Plan token r (withName segment next) := by
  cases hsegment : segmentName? segment with
  | none =>
    rw [withName, hsegment]
    exact .fixed _ rfl
  | some name =>
    rw [withName_of_some hsegment]
    exact hnext name hsegment

/-- A registry asks nobody about a body that is too long. -/
theorem withBody_plan {next : Timed Host Response}
    (hnext : r.body.size ≤ maxBodyBytes → Plan token r next) :
    Plan token r (withBody r next) := by
  rcases Nat.lt_or_ge maxBodyBytes r.body.size with hsize | hsize
  · rw [withBody, if_pos hsize]
    exact .fixed _ rfl
  · rw [withBody_of_le hsize]
    exact hnext hsize

/-- A request along the path of a gateway asks for a write of an id, or its answer is fixed. -/
theorem putGateway_plan (hroute : routeOf r = some (.gateway segment)) (hput : r.method = "PUT")
    (hsize : r.body.size ≤ maxBodyBytes) (hsegment : segmentName? segment = some name) :
    Plan token r ((Host.registry token).putGateway name r) := by
  by_cases hw : ∃ p, IsWrite segment r name p
  · obtain ⟨p, hw⟩ := hw
    exact .asks _ _ _ (.write hroute hput hsize hw)
  · obtain ⟨message, hbad⟩ :=
      putGateway_of_bad (Host.registry token) hsegment fun p hp => hw ⟨p, hp⟩
    exact .fixed _ hbad

/-- A request along the path of a token asks for a write of it, or its answer is fixed. -/
theorem putToken_plan (hroute : routeOf r = some (.gatewayToken segment)) (hput : r.method = "PUT")
    (hsize : r.body.size ≤ maxBodyBytes) (hsegment : segmentName? segment = some name) :
    Plan token r ((Host.registry token).putToken name r) := by
  by_cases hb : ∃ u, IsBinding segment r name u
  · obtain ⟨u, hb⟩ := hb
    exact .asks _ _ _ (.binding hroute hput hsize hb)
  · obtain ⟨message, hbad⟩ := putToken_of_bad (Host.registry token) hsegment fun u hu => hb ⟨u, hu⟩
    exact .fixed _ hbad

/-- A registry comes to one of the four things along every route. -/
theorem dispatch_plan (token : Option String) {route : Route} (hroute : routeOf r = some route) :
    Plan token r ((Host.registry token).dispatch route r) := by
  -- outside HEAD, nothing of a response is cut
  have hwhole (x : Timed Host Response) : x = (do return id (← x)) := (Timed.bind_done x).symm
  cases route with
  | health =>
    rw [dispatch]
    split
    · exact .fixed _ rfl
    · exact .fixed _ rfl
  | gateways =>
    rw [dispatch]
    split
    · exact .lists id (hwhole _)
    · exact .fixed _ rfl
  | gateway segment =>
    rw [dispatch]
    split
    · exact withName_plan fun name _ => .tells name id (hwhole _)
    · split
      · rename_i hput
        exact withName_plan fun name hsegment =>
          withBody_plan fun hsize => putGateway_plan hroute hput hsize hsegment
      · exact .fixed _ rfl
  | gatewayToken segment =>
    rw [dispatch]
    split
    · rename_i hput
      exact withName_plan fun name hsegment =>
        withBody_plan fun hsize => putToken_plan hroute hput hsize hsegment
    · exact .fixed _ rfl

/-- What becomes of a response that is cut twice. -/
theorem cut_cut (x : Timed Host Response) (cut cut' : Response → Response) :
    (do return cut' (← (do return cut (← x) : Timed Host Response))) =
      (do return cut' (cut (← x)) : Timed Host Response) :=
  Timed.bind_assoc _ _ _

/-- **Every request comes to one of the four things.** -/
theorem handle_plan (token : Option String) (r : Request) :
    Plan token r ((Host.registry token).handle r) := by
  rw [handle]
  split
  · exact .fixed _ rfl
  · rename_i route hroute
    split
    · -- HEAD is answered as GET, and GET asks for no write
      cases dispatch_plan token (r := { r with method := "GET" }) hroute with
      | fixed response h =>
        rw [h]
        exact .fixed _ rfl
      | tells name cut h =>
        rw [h]
        exact .tells name _ (cut_cut _ _ _)
      | lists cut h =>
        rw [h]
        exact .lists _ (cut_cut _ _ _)
      | asks c name supplied h =>
        have hget : "GET" = "PUT" := h.method_eq
        exact absurd hget (by decide)
    · exact dispatch_plan token hroute

end Plans

/-! ## Step by step -/

section Steps

variable {token : Option String} {r : Request} {c : Call} {name : String} {supplied : Option String}

/-- A question to the directory changes nothing. -/
theorem directory_calm (token : Option String) {c : Call}
    (hc : ∀ (s : Store) now, (s.answer now c).2 = s) : ((Host.registry token).directory c).Calm :=
  Timed.Calm.read _ fun h => by
    show ({ h with store := (h.store.answer h.now c).2 } : Host) = h
    rw [hc]

/-- A question about a gateway changes nothing. -/
theorem getGateway_calm (token : Option String) (name : String) :
    ((Host.registry token).getGateway name).Calm := by
  rw [getGateway]
  split
  · exact Timed.Calm.pure _
  · refine (directory_calm token fun _ _ => rfl).bind fun answer => ?_
    split <;> exact trivial

/-- A question about all gateways changes nothing. -/
theorem dump_calm (token : Option String) : (Host.registry token).dump.Calm := by
  refine (directory_calm token fun _ _ => rfl).bind fun answer => ?_
  cases answer <;> exact trivial

/-- **A request that asks for no write changes nothing**, in none of its steps. -/
theorem handle_calm (token : Option String) (h : ∀ c name supplied, ¬ Asks r c name supplied) :
    ((Host.registry token).handle r).Calm := by
  cases handle_plan token r with
  | fixed response hfixed =>
    rw [hfixed]
    exact Timed.Calm.pure _
  | tells name cut htells =>
    rw [htells]
    exact (getGateway_calm token name).bind fun _ => Timed.Calm.pure _
  | lists cut hlists =>
    rw [hlists]
    exact (dump_calm token).bind fun _ => Timed.Calm.pure _
  | asks c name supplied hasks => exact absurd hasks (h c name supplied)

/-- Goes on with the call that is asked for if the write is allowed. -/
def guarded (s : Service Host) (c : Call) (name : String) (supplied : Option String)
    (finish : Result c.Answer → Timed Host Response) : Timed Host Response := do
  match ← s.authorize name supplied with
  | some refusal => return refusal
  | none => s.directory c >>= finish

/-- **Every write goes the same way**: it is authorized, the call is made, and what is made of the
answer changes nothing. -/
theorem handle_of_asks (token : Option String) (h : Asks r c name supplied) :
    ∃ finish : Result c.Answer → Timed Host Response, (∀ a, (finish a).Calm) ∧
      (Host.registry token).handle r =
        guarded (Host.registry token) c name supplied finish := by
  cases h with
  | write hroute hput hsize hw =>
    rw [handle_putGateway hroute hput hw.segment_eq hsize]
    simp only [putGateway, hw.valid, hw.body_eq, hw.id_ne, Bool.not_true, Bool.false_eq_true,
      if_false]
    refine ⟨_, fun a => ?_, rfl⟩
    cases a <;> exact trivial
  | binding hroute hput hsize hb =>
    rw [handle_putToken hroute hput hb.segment_eq hsize]
    simp only [putToken, hb.valid, hb.body_eq, hb.token_ne, Bool.not_true, Bool.false_eq_true,
      if_false]
    refine ⟨_, fun a => ?_, rfl⟩
    split <;> exact trivial

/-- **The first turn of a write reads the entry** and judges the token that is supplied by the one
that is bound in the state of that turn. -/
theorem authorize_turn (token : Option String) (next : Option Response → Timed Host Response)
    (time : Nat) (h : Host) :
    Timed.turn time ((Host.registry token).authorize name supplied >>= next) h =
      (if isAuthorized (effective token) (boundToken h.store name) supplied then next none
        else do
          Timed.report (.writeRejected name)
          next (some (failure 401 name Error.unauthorized.message)), h) := by
  have hget : (Host.registry token).directory (.get name) =
      Timed.update fun h => (h.store.get name, h) := rfl
  have hshared : (Host.registry token).sharedToken = effective token := rfl
  -- without an entry there is no token to ask for but the registry's
  cases he : h.store.get? name with
  | none =>
    simp only [authorize, hget, hshared, Timed.update, Timed.bind_eq, Timed.bind, Timed.turn,
      Store.get, he, boundToken, Option.bind_none]
    split <;> rfl
  | some e =>
    simp only [authorize, hget, hshared, Timed.update, Timed.bind_eq, Timed.bind, Timed.turn,
      Store.get, he, boundToken, Option.bind_some]
    split <;> rfl

/-- The turn of a call makes it, and leaves what is made of its answer. -/
theorem call_turn (token : Option String) (finish : Result c.Answer → Timed Host Response)
    (time : Nat) (h : Host) :
    Timed.turn time ((Host.registry token).directory c >>= finish) h =
      (finish (h.store.answer h.now c).1, { h with store := (h.store.answer h.now c).2 }) := rfl

end Steps

end Service

end GatewayDirectory.Registry
