import GatewayDirectory.Proofs.Registry.Plans
import GatewayDirectory.Proofs.Registry.Requests
import GatewayDirectory.Proofs.Timed.Moves

/-!
# Requests that take turns

Any number of requests to one registry in memory take turns, step by step and in any order. A write
takes two steps: in the first the entry is read and the write is authorized, in the second the call
is made. What others do in between is not seen, so a write may be made that the entry does not allow
any more (`authorization_goes_stale`). What holds of every interleaving is `authorized_when_read`:
each write was authorized in the state in which its request read the entry. The invariant that
carries this is `Stage`, the stages that the handling of a request goes through.
-/

namespace GatewayDirectory.Registry

open Directory Http

/-- A registry in memory, and every request that came in with what is left of its handling. -/
structure Traffic where
  host : Host
  requests : List (Request × Timed Host Response)

namespace Traffic

/-- What may happen next. -/
inductive Move where
  /-- A request comes in. -/
  | arrive (r : Request)
  /-- The request of some number takes its next step, at some time. -/
  | turn (number time : Nat)
  /-- The clock shows another time. -/
  | clock (now : Instant)

/-- A registry on whose way there are no requests yet. -/
def idle (h : Host) : Traffic := ⟨h, []⟩

/-- What a move leaves. -/
def move (token : Option String) (c : Traffic) : Move → Traffic
  | .arrive r => { c with requests := c.requests ++ [(r, (Host.registry token).handle r)] }
  | .turn number time =>
    match c.requests[number]? with
    | some (r, x) =>
      let after := Timed.turn time x c.host
      ⟨after.2, c.requests.set number (r, after.1)⟩
    | none => c
  | .clock now => { c with host := { c.host with now } }

variable (token : Option String) (h : Host) (moves : List Move)

/-- What the first `n` moves leave of a registry without requests. -/
def upTo (n : Nat) : Traffic := stateAfter (move token) (idle h) moves n

/-- What the call of a request leaves of a registry. -/
def called (h : Host) (c : Call) : Host := { h with store := (h.store.answer h.now c).2 }

/-- The next step changes no state at all. -/
def ChangesNothing (x : Timed Host Response) : Prop := ∀ time h, (Timed.turn time x h).2 = h

/-- The next step makes a call. -/
def Makes (c : Call) (x : Timed Host Response) : Prop :=
  ∀ time h, (Timed.turn time x h).2 = called h c

/-- Why the call of a request may be made. The move `a` brings in the request `r` as that of the
number `number`. The move `i` is its first turn, in which the entry of its name is read. In the
state of that turn the token that the request supplies authorizes the write. -/
structure Grounds (number : Nat) (r : Request) (c : Call) (name : String)
    (supplied : Option String) (a i : Nat) : Prop where
  arrives : moves[a]? = some (.arrive r)
  number_eq : (upTo token h moves a).requests.length = number
  asks : Asks r c name supplied
  after_arrival : a < i
  reads : ∃ time, moves[i]? = some (.turn number time)
  first : ∀ k time, a < k → k < i → moves[k]? ≠ some (.turn number time)
  authorized :
    isAuthorized (effective token) (boundToken (upTo token h moves i).host.store name) supplied =
      true

/-- The stages that the handling of the request `r` of some number goes through. -/
inductive Stage (number : Nat) (r : Request) : Timed Host Response → Prop where
  /-- It has had no turn yet. -/
  | fresh {a : Nat} (arrives : moves[a]? = some (.arrive r))
    (number_eq : (upTo token h moves a).requests.length = number)
    (first : ∀ k time, a < k → moves[k]? ≠ some (.turn number time)) :
    Stage number r ((Host.registry token).handle r)
  /-- The write is authorized, and its call is to be made. -/
  | cleared {c : Call} {name : String} {supplied : Option String} {a i : Nat}
    (grounds : Grounds token h moves number r c name supplied a i)
    {finish : Result c.Answer → Timed Host Response} (hfinish : ∀ answer, (finish answer).Calm) :
    Stage number r ((Host.registry token).directory c >>= finish)
  /-- It changes nothing any more. -/
  | calm {x : Timed Host Response} (hx : x.Calm) : Stage number r x

/-! ## One more move -/

section More

variable {token h moves} {m : Move} {number : Nat} {r : Request} {x : Timed Host Response}
  {c : Call} {name : String} {supplied : Option String} {a i : Nat}

/-- Grounds stay grounds after a further move. -/
theorem Grounds.concat (g : Grounds token h moves number r c name supplied a i) :
    Grounds token h (moves ++ [m]) number r c name supplied a i := by
  obtain ⟨time, hreads⟩ := g.reads
  have ha := lt_length_of_getElem? g.arrives
  have hi := lt_length_of_getElem? hreads
  refine ⟨getElem?_append_singleton g.arrives, ?_, g.asks, g.after_arrival,
    ⟨time, getElem?_append_singleton hreads⟩, fun k time hak hki => ?_, ?_⟩
  · rw [upTo, stateAfter_append (Nat.le_of_lt ha)]
    exact g.number_eq
  · rw [List.getElem?_append_left (Nat.lt_trans hki hi)]
    exact g.first k time hak hki
  · rw [upTo, stateAfter_append (Nat.le_of_lt hi)]
    exact g.authorized

/-- A move that is no turn of the request leaves it at its stage. -/
theorem Stage.concat (hx : Stage token h moves number r x)
    (hm : ∀ time, m ≠ .turn number time) : Stage token h (moves ++ [m]) number r x := by
  cases hx with
  | @fresh a arrives number_eq first =>
    have ha := lt_length_of_getElem? arrives
    refine .fresh (getElem?_append_singleton arrives) ?_ fun k time hak hturn => ?_
    · rw [upTo, stateAfter_append (Nat.le_of_lt ha)]
      exact number_eq
    · -- the new move is the only one that `first` does not speak of
      rcases Nat.lt_trichotomy k moves.length with hlt | rfl | hgt
      · rw [List.getElem?_append_left hlt] at hturn
        exact first k time hak hturn
      · rw [List.getElem?_concat_length] at hturn
        exact hm time (Option.some.inj hturn)
      · rw [List.getElem?_eq_none (by rw [List.length_append]; exact hgt)] at hturn
        cases hturn
  | cleared grounds hfinish => exact .cleared grounds.concat hfinish
  | calm hx => exact .calm hx

/-- A request that comes in has had no turn. -/
theorem Stage.arrive :
    Stage token h (moves ++ [.arrive r]) (upTo token h moves moves.length).requests.length r
      ((Host.registry token).handle r) := by
  refine .fresh List.getElem?_concat_length ?_ fun k time hk hturn => ?_
  · rw [upTo, stateAfter_append (Nat.le_refl _), ← upTo]
  · rw [List.getElem?_eq_none (by rw [List.length_append]; exact hk)] at hturn
    cases hturn

/-- The first turn of a request changes nothing. -/
theorem handle_turn (token : Option String) (r : Request) (time : Nat) (h : Host) :
    (Timed.turn time ((Host.registry token).handle r) h).2 = h := by
  by_cases hasks : ∃ c name supplied, Asks r c name supplied
  · obtain ⟨c, name, supplied, hasks⟩ := hasks
    obtain ⟨finish, -, hhandle⟩ := Service.handle_of_asks token hasks
    rw [hhandle, Service.guarded, Service.authorize_turn]
  · have hcalm := Service.handle_calm token fun c name supplied ha => hasks ⟨c, name, supplied, ha⟩
    exact (hcalm.turn time h).1

/-- The first turn of a request reads the entry: the write is authorized now, or never. -/
theorem Stage.turn_fresh {time : Nat} (arrives : moves[a]? = some (.arrive r))
    (number_eq : (upTo token h moves a).requests.length = number)
    (first : ∀ k time, a < k → moves[k]? ≠ some (.turn number time)) :
    Stage token h (moves ++ [.turn number time]) number r
      (Timed.turn time ((Host.registry token).handle r) (upTo token h moves moves.length).host).1 :=
    by
  by_cases hasks : ∃ c name supplied, Asks r c name supplied
  · obtain ⟨c, name, supplied, hasks⟩ := hasks
    obtain ⟨finish, hfinish, hhandle⟩ := Service.handle_of_asks token hasks
    rw [hhandle, Service.guarded, Service.authorize_turn]
    have ha := lt_length_of_getElem? arrives
    -- the entry is read in the state that all moves so far leave
    by_cases hauth : isAuthorized (effective token)
        (boundToken (upTo token h moves moves.length).host.store name) supplied = true
    · rw [if_pos hauth]
      have hgrounds : Grounds token h (moves ++ [.turn number time]) number r c name supplied a
          moves.length := by
        refine ⟨getElem?_append_singleton arrives, ?_, hasks, ha,
          ⟨time, List.getElem?_concat_length⟩, fun k time' hak hk => ?_, ?_⟩
        · rw [upTo, stateAfter_append (Nat.le_of_lt ha)]
          exact number_eq
        · rw [List.getElem?_append_left hk]
          exact first k time' hak
        · rw [upTo, stateAfter_append (Nat.le_refl _)]
          exact hauth
      exact .cleared hgrounds hfinish
    · rw [if_neg hauth]
      exact .calm trivial
  · have hcalm := Service.handle_calm token fun c name supplied ha => hasks ⟨c, name, supplied, ha⟩
    exact .calm (hcalm.turn time _).2

/-- **A turn leads from one stage to another.** -/
theorem Stage.turn (hx : Stage token h moves number r x) (time : Nat) :
    Stage token h (moves ++ [.turn number time]) number r
      (Timed.turn time x (upTo token h moves moves.length).host).1 := by
  cases hx with
  | fresh arrives number_eq first => exact turn_fresh arrives number_eq first
  | cleared grounds hfinish =>
    rw [Service.call_turn]
    exact .calm (hfinish _)
  | calm hx => exact .calm (hx.turn time _).2

end More

/-! ## Every move -/

section Moves

variable {token h moves} {n number : Nat} {r : Request} {x : Timed Host Response}

/-- The state after a move is what the move makes of the one before. -/
theorem upTo_succ {m : Move} (hm : moves[n]? = some m) :
    upTo token h moves (n + 1) = (upTo token h moves n).move token m :=
  stateAfter_succ hm

/-- **Every request is at one of its stages**, after any moves. -/
theorem stage_of_requests
    (hx : (upTo token h moves moves.length).requests[number]? = some (r, x)) :
    Stage token h moves number r x := by
  induction moves using List.reverseRecOn generalizing number r x with
  | nil => cases hx
  | append_singleton moves m ih =>
    -- the new move is made in the state that the moves before it leave
    have hlast : upTo token h (moves ++ [m]) (moves ++ [m]).length =
        (upTo token h moves moves.length).move token m := by
      rw [List.length_append, List.length_singleton, upTo_succ List.getElem?_concat_length, upTo,
        stateAfter_append (Nat.le_refl _), ← upTo]
    rw [hlast] at hx
    cases m with
    | arrive r' =>
      -- only the request that comes in has a new number
      rcases Nat.lt_trichotomy number (upTo token h moves moves.length).requests.length with
        hlt | rfl | hgt
      · rw [move, List.getElem?_append_left hlt] at hx
        exact (ih hx).concat fun _ hm => nomatch hm
      · rw [move, List.getElem?_concat_length] at hx
        cases hx
        exact .arrive
      · rw [move, List.getElem?_eq_none (by rw [List.length_append]; exact hgt)] at hx
        cases hx
    | turn number' time =>
      rw [move] at hx
      split at hx
      · rename_i r' x' hx'
        by_cases heq : number' = number
        · subst heq
          rw [List.getElem?_set_self (lt_length_of_getElem? hx')] at hx
          cases hx
          exact (ih hx').turn time
        · rw [List.getElem?_set_ne heq] at hx
          exact (ih hx).concat fun _ hm => heq (Move.turn.inj hm).1
      · -- the turn is of a number that no request has, so nothing happens
        rename_i hnone
        by_cases heq : number' = number
        · subst heq
          rw [hnone] at hx
          cases hx
        · exact (ih hx).concat fun _ hm => heq (Move.turn.inj hm).1
    | clock now => exact (ih hx).concat fun _ hm => nomatch hm

/-- **One step of a request**: it changes no state at all, or it makes the call of the request, and
there are grounds for that. -/
theorem step_of_requests
    (hx : (upTo token h moves moves.length).requests[number]? = some (r, x)) :
    ChangesNothing x ∨ ∃ c name supplied a i,
      Grounds token h moves number r c name supplied a i ∧ Makes c x := by
  cases stage_of_requests hx with
  | fresh => exact .inl (handle_turn token r)
  | cleared grounds hfinish => exact .inr ⟨_, _, _, _, _, grounds, fun _ _ => rfl⟩
  | calm hx => exact .inl fun time h' => (hx.turn time h').1

/-- A token that is bound when the entry is read keeps out a request that lacks it. -/
theorem Grounds.boundToken_ne {c : Call} {name t : String} {supplied : Option String} {a i : Nat}
    (g : Grounds token h moves number r c name supplied a i) (hne : t ≠ "")
    (hlacks : Lacks token t r) : boundToken (upTo token h moves i).host.store name ≠ some t := by
  intro hbound
  have hauth := g.authorized
  rw [hbound, isAuthorized_iff, ← g.asks.suppliedToken_eq] at hauth
  rcases hauth with ⟨-, hopen⟩ | ⟨t', hsupplied, hne', hkey | hkey⟩
  · exact hne (effective_eq_none_iff.1 hopen t rfl)
  · exact hlacks.2 t' (effective_eq_some_iff.2 ⟨hkey, hne'⟩) hsupplied
  · exact hlacks.1 (hkey ▸ hsupplied)

/-- A move other than a turn of a request that came in leaves the store. -/
theorem store_move {m : Move} (c : Traffic)
    (hm : ∀ number time, m = .turn number time → c.requests[number]? = none) :
    (c.move token m).host.store = c.host.store := by
  cases m with
  | arrive r => rfl
  | turn number time => rw [move, hm number time rfl]
  | clock now => rfl

/-- An entry with a token stays as it is while all requests that come in lack a token for it. -/
theorem locked_upTo {name t : String} {e : Entry} (he : h.store.get? name = some e)
    (ht : e.token = some t) (hne : t ≠ "") (hlacks : ∀ r, .arrive r ∈ moves → Lacks token t r) :
    ∀ n, n ≤ moves.length → (upTo token h moves n).host.store.get? name = some e := by
  induction moves using List.reverseRecOn with
  | nil => exact fun n _ => by rw [upTo, stateAfter, List.take_nil]; exact he
  | append_singleton moves m ih =>
    have hbefore := ih fun r hr => hlacks r (List.mem_append_left _ hr)
    intro n hn
    rw [List.length_append, List.length_singleton] at hn
    rcases Nat.lt_or_ge n (moves.length + 1) with hlt | hge
    · rw [upTo, stateAfter_append (Nat.le_of_lt_succ hlt)]
      exact hbefore n (Nat.le_of_lt_succ hlt)
    · -- the state that the new move leaves
      obtain rfl : n = moves.length + 1 := Nat.le_antisymm hn hge
      rw [upTo_succ List.getElem?_concat_length, upTo, stateAfter_append (Nat.le_refl _), ← upTo]
      by_cases hturn : ∃ number time r x, m = .turn number time ∧
          (upTo token h moves moves.length).requests[number]? = some (r, x)
      · obtain ⟨number, time, r, x, rfl, hx⟩ := hturn
        rw [move, hx]
        show (Timed.turn time x _).2.store.get? name = some e
        -- the turn changes nothing, or makes a call that there were grounds for
        rcases step_of_requests hx with hnothing | ⟨c, n, supplied, a, i, grounds, hmakes⟩
        · rw [hnothing]
          exact hbefore _ (Nat.le_refl _)
        · rw [hmakes, called]
          by_cases hname : name = n
          · -- the entry had its token when the request read it, so there are no grounds
            subst hname
            obtain ⟨time', hreads⟩ := grounds.reads
            have hi := Nat.le_of_lt (lt_length_of_getElem? hreads)
            have hr := hlacks r (List.mem_append_left _ (List.mem_of_getElem? grounds.arrives))
            refine absurd ?_ (grounds.boundToken_ne hne hr)
            rw [boundToken, hbefore i hi, Option.bind_some, ht]
          · rw [grounds.asks.get?_answer_of_ne (Ne.symm hname)]
            exact hbefore _ (Nat.le_refl _)
      · rw [store_move _ fun number time hm => ?_]
        · exact hbefore _ (Nat.le_refl _)
        · cases hx : (upTo token h moves moves.length).requests[number]? with
          | none => rfl
          | some y => exact absurd ⟨number, time, y.1, y.2, hm, hx⟩ hturn

end Moves

/-- **A write is authorized when the entry is read.** Requests take turns in any order, and some
request takes its next step. Either the step changes no state at all, or it makes the call of the
request; then the write was authorized in the state in which the request had read the entry, and
still is unless another token has been bound in between. So no write is made by a request that lacks
the token that it found bound. Nothing but such steps changes the store, and an entry with a token
stays as it is while all requests that come in lack a token for it. -/
theorem authorized_when_read (token : Option String) (h : Host) (moves : List Move) :
    let now := upTo token h moves moves.length
    (∀ number r x, now.requests[number]? = some (r, x) → ChangesNothing x ∨
      ∃ c name supplied a i, Grounds token h moves number r c name supplied a i ∧ Makes c x ∧
        (boundToken now.host.store name = boundToken (upTo token h moves i).host.store name →
          isAuthorized (effective token) (boundToken now.host.store name) supplied = true) ∧
        (∀ t, t ≠ "" → Lacks token t r →
          boundToken (upTo token h moves i).host.store name ≠ some t)) ∧
    (∀ m, (∀ number time, m = .turn number time → now.requests[number]? = none) →
      (now.move token m).host.store = now.host.store) ∧
    (∀ name e t, h.store.get? name = some e → e.token = some t → t ≠ "" →
      (∀ r, .arrive r ∈ moves → Lacks token t r) → now.host.store.get? name = some e) := by
  intro now
  refine ⟨fun number r x hx => ?_, fun m => store_move now, fun name e t he ht hne hlacks =>
    locked_upTo he ht hne hlacks _ (Nat.le_refl _)⟩
  rcases step_of_requests hx with hnothing | ⟨c, name, supplied, a, i, grounds, hmakes⟩
  · exact .inl hnothing
  · refine .inr ⟨c, name, supplied, a, i, grounds, hmakes, fun hsame => ?_, fun t =>
      grounds.boundToken_ne⟩
    rw [hsame]
    exact grounds.authorized

/-- **Authorization may go stale.** A write and a binding come in for an entry without a token. The
write reads the entry, the binding is answered, and then the write is made, without a token and
although one is bound by now. -/
theorem authorization_goes_stale :
    let time : Instant := ⟨1704164645, 0⟩
    let write := sent "PUT" (gatewayPath "gw1") (some (Payload.mk "gw1" "id2" none).toJson)
    let binding := sent "PUT" (tokenPath "gw1") (some (TokenUpdate.mk "t1" none).toJson)
    let h : Host := ⟨time, Store.run .empty [(time, .put "gw1" "id1")]⟩
    let moves := [.arrive write, .arrive binding, .turn 0 0, .turn 1 0, .turn 1 0]
    let now := upTo none h moves moves.length
    now.requests[1]? = some (binding, .done (.empty 204)) ∧
      now.host.store.get? "gw1" = some ⟨"gw1", "id1", 1, time, some "t1"⟩ ∧
      Asks write (.put "gw1" "id2") "gw1" none ∧
      isAuthorized (effective none) (boundToken now.host.store "gw1") none = false ∧
      (now.move none (.turn 0 0)).host = called now.host (.put "gw1" "id2") ∧
      (now.move none (.turn 0 0)).host.store.get? "gw1" =
        some ⟨"gw1", "id2", 2, time, some "t1"⟩ := by
  intro time write binding h moves now
  have hname : Addressable "gw1" := ⟨by decide, by decide, by decide⟩
  have hwrite : Asks write (.put "gw1" "id2") "gw1" none :=
    .write (routeOf_gatewayPath hname (sent_target _)) (sent_method _) (by decide +kernel)
      (isWrite_sent hname (p := ⟨"gw1", "id2", none⟩) (by decide))
  obtain ⟨finish, -, hfirst⟩ := Service.handle_of_asks none hwrite
  -- the handling of the binding ends with its call
  obtain ⟨finish', hsecond, hanswer⟩ : ∃ finish',
      (Host.registry none).handle binding =
        Service.guarded (Host.registry none) (.putToken "gw1" "t1") "gw1" none finish' ∧
      finish' (.ok ()) = .done (.empty 204) := by
    rw [handle_sent_binding none hname (by decide +kernel)]
    exact ⟨_, rfl, rfl⟩
  -- both requests read the entry before a token is bound to it
  have hread (c : Call) (finish : Result c.Answer → Timed Host Response) :
      Timed.turn 0 (Service.guarded (Host.registry none) c "gw1" none finish) h =
        ((Host.registry none).directory c >>= finish, h) := by
    rw [Service.guarded, Service.authorize_turn, if_pos (by decide +kernel)]
  have hnow : now = ⟨called h (.putToken "gw1" "t1"),
      [(write, (Host.registry none).directory (.put "gw1" "id2") >>= finish),
        (binding, .done (.empty 204))]⟩ := by
    show ((((((idle h).move none (.arrive write)).move none (.arrive binding)).move none
      (.turn 0 0)).move none (.turn 1 0)).move none (.turn 1 0)) = _
    rw [← hanswer]
    simp only [idle, move, hfirst, hsecond, hread, List.nil_append, List.cons_append,
      List.getElem?_cons_zero, List.getElem?_cons_succ, List.set_cons_zero, List.set_cons_succ]
    rfl
  refine ⟨?_, by decide +kernel, hwrite, by decide +kernel, ?_, by decide +kernel⟩
  · rw [hnow]
    rfl
  · rw [hnow]
    rfl

end Traffic

end GatewayDirectory.Registry
