import GatewayDirectory.Proofs.Registry.Remote
import GatewayDirectory.Proofs.Registry.WriteLock
import GatewayDirectory.Sync.Sink

/-!
# The direct sink over a registry

A save of the direct sink is two requests when it brings a token: a write of the id, and a binding
of the token. Both are authorized on their own. The binding sends the token that it binds, as the
write did, and a write binds nothing, so the registry cannot allow the write and refuse the binding
(`Accepts`). Hence a save is all or nothing, and it can be repeated with the same token
(`save_all_or_nothing`).
-/

namespace GatewayDirectory

open Directory Http Text Registry

namespace Sync

open Remote

/-! ## What a save leaves -/

/-- The registry accepts a save: the name can be addressed, the id is not empty, and the write is
authorized by the token that is sent with it. -/
structure Accepts (shared own : Option String) (s : Store) (key id : String)
    (token : Option String) : Prop where
  addressable : Addressable key
  id_ne : id ≠ ""
  authorized :
    isAuthorized (effective shared) (boundToken s key) ((effective token).or own) = true

/-- What an accepted save leaves: the id is written, and a token that is not empty is bound. -/
def saved (s : Store) (now : Instant) (key id : String) (token : Option String) : Store :=
  let s' := (s.put now key id).2
  match effective token with
  | none => s'
  | some t => (s'.putToken key t).2

/-- The entry that a save of an id and a token leaves, given the one before: one more write, and the
token unless it is empty. The counter is a word of 64 bits. -/
structure SavedEntry (before : Option Entry) (id : String) (token : Option String) (e : Entry) :
    Prop where
  id_eq : e.id = id
  counter_eq : e.counter = (before.map (·.counter)).getD 0 + 1
  changes_eq : (before.map (·.changes)).getD 0 + 1 < UInt64.size →
    e.changes = (before.map (·.changes)).getD 0 + 1
  token_eq : e.token = (effective token).or (before.bind (·.token))

/-- Something is done as a whole, or fails and changes nothing. It is done exactly if it is
accepted, and then leaves what it leaves at an instant of which `dated` holds. -/
inductive AllOrNothing {ε α : Type} (accepts : Prop) (dated : Instant → Prop) (s : Store)
    (after : Instant → Store) : Except ε α → Store → Prop
  | accepted {now : Instant} (h : accepts) (a : α) (hnow : dated now) :
    AllOrNothing accepts dated s after (.ok a) (after now)
  | refused (h : ¬ accepts) (e : ε) : AllOrNothing accepts dated s after (.error e) s

/-- How a save comes out: with the entry stored and all else as it was, or with nothing changed. -/
structure SaveLaw (shared own : Option String) (s : Store) (key id : String)
    (token : Option String) (a : Except SinkError Unit) (s' : Store) : Prop where
  ok_iff : a = .ok () ↔ Accepts shared own s key id token
  kept : ∀ e, a = .error e → s' = s
  stored : a = .ok () → ∃ e, s'.get? key = some e ∧ SavedEntry (s.get? key) id token e
  frame : ∀ other, other ≠ key → s'.get? other = s.get? other

section Saved

variable {shared own token : Option String} {s : Store} {now : Instant} {key id : String}

/-- A write of an id keeps the token that is bound. -/
theorem token_written (s : Store) (now : Instant) (key id : String) :
    (s.written now key id).token = boundToken s key := by
  rw [Store.written, boundToken]
  cases s.get? key <;> rfl

/-- A write counts one more. -/
theorem savedEntry_written (s : Store) (now : Instant) (key id : String) (token : Option String) :
    SavedEntry (s.get? key) id token
      { s.written now key id with token := (effective token).or (boundToken s key) } where
  id_eq := s.id_written now key id
  counter_eq := by
    simp only [Store.written]
    cases s.get? key <;> rfl
  changes_eq hsmall := by
    simp only [Store.written, Entry.changes] at *
    cases hentry : s.get? key with
    | none => rfl
    | some e =>
      rw [hentry, Option.map_some, Option.getD_some] at hsmall
      show (e.counter + 1).toNat = e.counter.toNat + 1
      rw [UInt64.toNat_add]
      -- the counter does not start again below its size
      exact Nat.mod_eq_of_lt hsmall
  token_eq := rfl

/-- **A save is found under its key**, and every other entry is as it was. -/
theorem get?_saved (hvalid : isValidName key = true) (hid : id ≠ "") (other : String) :
    (saved s now key id token).get? other =
      if key = other then
        some { s.written now key id with token := (effective token).or (boundToken s key) }
      else s.get? other := by
  have hput : (s.put now key id).2 = s.insert key (s.written now key id) := by
    rw [Store.put_of_valid hvalid hid]
  cases htoken : effective token with
  | none =>
    simp only [saved, htoken, hput, Option.none_or, ← token_written s now key id]
    exact Table.get?_insert _ _ _ _
  | some t =>
    simp only [saved, htoken, hput, Option.some_or]
    rw [Store.putToken_of_some (Table.get?_insert_self _ _ _), Table.get?_insert,
      Table.get?_insert]
    -- the binding overwrites the entry that was just written
    by_cases hkey : key = other
    · rw [if_pos hkey, if_pos hkey]
      rfl
    · rw [if_neg hkey, if_neg hkey, if_neg hkey]

/-- A save that is not accepted obeys the law if it fails and changes nothing. -/
theorem SaveLaw.refused {e : SinkError} (h : ¬ Accepts shared own s key id token) :
    SaveLaw shared own s key id token (.error e) s where
  ok_iff := iff_of_false (fun hok => nomatch hok) h
  kept _ _ := rfl
  stored hok := nomatch hok
  frame _ _ := rfl

/-- A save that is accepted obeys the law if it leaves what `saved` says. -/
theorem SaveLaw.accepted (h : Accepts shared own s key id token) :
    SaveLaw shared own s key id token (.ok ()) (saved s now key id token) where
  ok_iff := iff_of_true rfl h
  kept e he := nomatch he
  stored _ := by
    rw [get?_saved h.addressable.valid h.id_ne, if_pos rfl]
    exact ⟨_, rfl, savedEntry_written s now key id token⟩
  frame other hother := by
    rw [get?_saved h.addressable.valid h.id_ne, if_neg (Ne.symm hother)]

/-- A save leaves a store that calls can lead to. -/
theorem reachable_saved (hs : s.Reachable) : (saved s now key id token).Reachable := by
  have hput : (s.put now key id).2.Reachable := hs.answer now (.put key id)
  unfold saved
  split
  · exact hput
  · exact hput.answer now (.putToken key _)

/-- **A save can be repeated**: what it left accepts the same token again. -/
theorem Accepts.again (h : Accepts shared own s key id token) {id₂ : String} (hid₂ : id₂ ≠ "") :
    Accepts shared own (saved s now key id token) key id₂ token where
  addressable := h.addressable
  id_ne := hid₂
  authorized := by
    have hbound : boundToken (saved s now key id token) key =
        (effective token).or (boundToken s key) := by
      rw [boundToken, get?_saved h.addressable.valid h.id_ne, if_pos rfl, Option.bind_some]
    rw [hbound]
    cases htoken : effective token with
    | none =>
      -- nothing was bound, so the write is decided as before
      have hauth := h.authorized
      rwa [htoken] at hauth
    | some t =>
      -- the token that is sent is the one that was bound
      exact isAuthorized_iff.2 (.inr ⟨t, rfl, (effective_eq_some_iff.1 htoken).2, .inr rfl⟩)

end Saved

/-! ## The two requests of a save -/

section Requests

variable {remote : Remote Host} {o : Origin} {shared token : Option String} {h : Host}
  {key id : String}

/-- The first request of a save writes the id exactly if the registry accepts the save. -/
theorem put_first (hp : PointsAt remote o shared) (hs : h.store.Sound)
    (hsize : (Json.compact
      (Payload.mk key id ((effective token).or remote.writeToken)).toJson).toUTF8.size ≤
        maxBodyBytes) (t : Nat) :
    Served remote.timeout t h (remote.put Host.now key id (effective token)) fun _ =>
      AllOrNothing (Accepts shared remote.writeToken h.store key id token) (fun _ => True) h.store
        fun now => (h.store.put now key id).2 := by
  by_cases hname : Addressable key
  · -- the name can be addressed, so that the registry decides as the law of a write says
    refine (hp.put_served hs hname id (effective token) hsize t).imp fun now a s' hlaw => ?_
    cases a with
    | ok e =>
      obtain ⟨hid, hauth⟩ := hlaw.ok_iff.1 ⟨e, rfl⟩
      obtain ⟨-, -, hput⟩ := hlaw.written e rfl
      have hstore : s' = (h.store.put now key id).2 := by rw [hput]
      subst hstore
      exact .accepted ⟨hname, hid, hauth⟩ e trivial
    | error e =>
      obtain rfl := hlaw.kept e rfl
      refine .refused (fun haccepts => ?_) e
      obtain ⟨_, hok⟩ := hlaw.ok_iff.2 ⟨haccepts.id_ne, haccepts.authorized⟩
      cases hok
  · -- a name that cannot be addressed never gets to its entry
    refine (hp.put_fails hname id (effective token) hsize t).imp ?_
    rintro now _ _ ⟨⟨e, rfl⟩, rfl⟩
    exact .refused (fun haccepts => hname haccepts.addressable) e

/-- **The second request cannot be refused.** The token that it binds authorizes it, as it did the
write before. -/
theorem putToken_second (hp : PointsAt remote o shared) {s : Store} {now : Instant} {t : String}
    (haccepts : Accepts shared remote.writeToken s key id token) (ht : effective token = some t)
    (hstore : h.store = (s.put now key id).2)
    (hsize : (Json.compact (TokenUpdate.mk t (some t)).toJson).toUTF8.size ≤ maxBodyBytes)
    (time : Nat) :
    Served remote.timeout time h (remote.putToken key t (some t))
      fun _ a s' => a = .ok () ∧ s' = saved s now key id token := by
  refine (hp.putToken_served haccepts.addressable t (some t) hsize time).imp
    fun _ a s' hlaw => ?_
  have hauth := haccepts.authorized
  rw [ht, Option.some_or] at hauth
  -- the write bound nothing
  have hbound : boundToken h.store key = boundToken s key := by
    rw [hstore]
    exact s.token_put now key id key
  have hput : h.store = s.insert key (s.written now key id) := by
    rw [hstore, Store.put_of_valid haccepts.addressable.valid haccepts.id_ne]
  have hentry : h.store.get key = .ok (s.written now key id) := by
    rw [Store.get_eq_ok_iff, hput, Table.get?_insert_self]
  have hok : a = .ok () := hlaw.ok_iff.2
    ⟨(effective_eq_some_iff.1 ht).2, by rw [hbound]; exact hauth, _, hentry⟩
  refine ⟨hok, ?_⟩
  have hbinding := hlaw.bound hok
  simp only [saved, ht, ← hstore, hbinding]

/-- **The first request decides about the whole save**, and what the save leaves is dated as that
request is. -/
theorem save_of_put (hp : PointsAt remote o shared) {dated : Instant → Prop} {time : Nat}
    (hfirst : Served remote.timeout time h (remote.put Host.now key id (effective token)) fun _ =>
      AllOrNothing (Accepts shared remote.writeToken h.store key id token) dated h.store
        fun now => (h.store.put now key id).2)
    (hsize : ∀ t, effective token = some t →
      (Json.compact (TokenUpdate.mk t (some t)).toJson).toUTF8.size ≤ maxBodyBytes) :
    Served (remote.timeout + remote.timeout) time h
      ((Sink.direct (remote.directory Host.now)).save key id token) fun _ =>
        AllOrNothing (Accepts shared remote.writeToken h.store key id token) dated h.store
          fun now => saved h.store now key id token := by
  refine hfirst.followed fun handled a s' hput later time' => ?_
  -- only an accepted write is followed by a second request
  cases hput with
  | @accepted now haccepts e hnow =>
    refine Served.report ?_ _
    have hfilter : token.filter (· != "") = effective token := rfl
    rw [hfilter]
    cases htoken : effective token with
    | none =>
      have hsaved : saved h.store now key id token = (h.store.put now key id).2 := by
        simp only [saved, htoken]
      refine .pure handled ?_
      rw [← hsaved]
      exact .accepted haccepts () hnow
    | some t =>
      refine (putToken_second hp haccepts htoken rfl (hsize t htoken) time').andThen ?_
      rintro _ _ _ ⟨rfl, rfl⟩ later'
      exact ⟨_, Timed.Answers.pure _ _, .accepted haccepts () hnow⟩
  | refused hrefused e => exact .pure handled (.refused hrefused _)

end Requests

/-- **A save is all or nothing, and can be repeated.** A registry works on a store that calls can
lead to, and the direct sink writes into a remote of it, with any token of its own, over a network
that brings each request to the registry and each response back in time. No body is too long. Then a
save is accepted as a whole, or fails and changes nothing. After a save that is accepted, a save of
any other id under the same name with the same token is accepted. -/
theorem save_all_or_nothing {network : Http.Network Host} {o : Origin} {shared : Option String}
    {timeout : Nat} (hnetwork : Reaches network o.authority shared timeout) (own : Option String)
    (slashes time : Nat) (h : Host) (hs : h.store.Reachable) (key id : String)
    (token : Option String)
    (hsize : (Json.compact (Payload.mk key id ((effective token).or own)).toJson).toUTF8.size ≤
      maxBodyBytes)
    (hsize' : ∀ t, effective token = some t →
      (Json.compact (TokenUpdate.mk t (some t)).toJson).toUTF8.size ≤ maxBodyBytes) :
    let address := o.text ++ String.ofList (List.replicate slashes '/')
    let sink := Sink.direct ((create network address timeout own).directory Host.now)
    Served (timeout + timeout) time h (sink.save key id token) fun _ a s' =>
      SaveLaw shared own h.store key id token a s' ∧
      (a = .ok () → ∀ id₂, id₂ ≠ "" →
        (Json.compact (Payload.mk key id₂ ((effective token).or own)).toJson).toUTF8.size ≤
          maxBodyBytes →
        ∀ later time', Served (timeout + timeout) time' ⟨later, s'⟩ (sink.save key id₂ token)
          fun _ a' _ => a' = .ok ()) := by
  intro address sink
  have hp : PointsAt (create network address timeout own) o shared :=
    create_pointsAt hnetwork slashes own
  have hserved {h : Host} (hs : h.store.Reachable) {id : String}
      (hsize : (Json.compact (Payload.mk key id ((effective token).or own)).toJson).toUTF8.size ≤
        maxBodyBytes) (time : Nat) :=
    save_of_put hp (put_first hp hs.sound hsize time) hsize'
  refine (hserved hs hsize time).imp fun _ a s' hsave => ?_
  cases hsave with
  | @accepted now haccepts _ _ =>
    refine ⟨.accepted haccepts, fun _ id₂ hid₂ hsize₂ later time' => ?_⟩
    -- the second save meets the store that the first one left
    have hreachable : (saved h.store now key id token).Reachable := reachable_saved hs
    have hsecond := hserved (h := ⟨later, saved h.store now key id token⟩) hreachable hsize₂ time'
    refine hsecond.imp fun _ a' _ hsave' => ?_
    cases hsave' with
    | accepted => rfl
    | refused hrefused' => exact absurd (haccepts.again hid₂) hrefused'
  | refused hrefused e => exact ⟨.refused hrefused, fun hok => nomatch hok⟩

/-- The token of an entry comes with its item, so the sink needs no token of its own that is worth
anything. It saves one id, and in its next cycle another. -/
theorem save_all_or_nothing_of_holder :
    let address := exampleOrigin.text ++ String.ofList (List.replicate 1 '/')
    let remote := create (relay (some "shared") 3) address 10000 (some "stale")
    let sink := Sink.direct (remote.directory Host.now)
    exampleStore.Reachable ∧
      Accepts (some "shared") (some "stale") exampleStore "gw1" "id2" (some "t1") ∧
      Served (10000 + 10000) 0 ⟨⟨1704164645, 0⟩, exampleStore⟩
        (sink.save "gw1" "id2" (some "t1")) fun _ a s' => a = .ok () ∧
          (∃ e, s'.get? "gw1" = some e ∧ e.id = "id2" ∧ e.changes = 2 ∧ e.token = some "t1") ∧
          ∀ later time', Served (10000 + 10000) time' ⟨later, s'⟩
            (sink.save "gw1" "id3" (some "t1")) fun _ a' _ => a' = .ok () := by
  intro address remote sink
  have hreachable : exampleStore.Reachable := ⟨_, rfl⟩
  have hreaches : Reaches (relay (some "shared") 3) exampleOrigin.authority (some "shared") 10000 :=
    relay_reaches (by decide) _ _
  have haccepts : Accepts (some "shared") (some "stale") exampleStore "gw1" "id2" (some "t1") :=
    ⟨⟨by decide, by decide, by decide⟩, by decide, by decide +kernel⟩
  have htoken (t : String) (ht : effective (some "t1") = some t) :
      (Json.compact (TokenUpdate.mk t (some t)).toJson).toUTF8.size ≤ maxBodyBytes := by
    obtain rfl : "t1" = t := Option.some.inj (effective_eq_some_iff.1 ht).1
    decide +kernel
  have hstored : exampleStore.get? "gw1" = some ⟨"gw1", "id1", 1, ⟨1704164645, 0⟩, some "t1"⟩ := by
    decide +kernel
  refine ⟨hreachable, haccepts, ?_⟩
  have hserved := save_all_or_nothing hreaches (some "stale") 1 0 ⟨⟨1704164645, 0⟩, exampleStore⟩
    hreachable "gw1" "id2" (some "t1") (by decide +kernel) htoken
  refine hserved.imp fun _ a s' ⟨hlaw, hagain⟩ => ?_
  have hok : a = .ok () := hlaw.ok_iff.2 haccepts
  obtain ⟨e, he, hentry⟩ := hlaw.stored hok
  rw [hstored] at hentry
  exact ⟨hok, ⟨e, he, hentry.id_eq, hentry.changes_eq (by decide), hentry.token_eq⟩,
    hagain hok "id3" (by decide) (by decide +kernel)⟩

end Sync

end GatewayDirectory
