import GatewayDirectory.Proofs.Sync.Intake

/-!
# The webhook sink and the direct sink

The webhook sink saves by one request, a write of the id that carries the token of the item as it
is. The direct sink over a remote sends the same write, with an empty token left out, and binds the
token by a second request. A registry takes a write in both forms alike (`takesId_iff_accepts`,
`accepts_effective`), and the second request cannot be refused. So at one registry in one state the
two sinks accept the same saves, and what they leave differs in the token that the direct sink binds
(`sinks_agree`).
-/

namespace GatewayDirectory

open Directory Http Text Registry

namespace Sync

open Remote

/-! ## What a registry accepts -/

section Acceptance

variable {shared token : Option String} {s : Store} {now : Instant} {key id : String}

/-- An empty token that is supplied counts as none. -/
theorem isAuthorized_effective (shared bound supplied : Option String) :
    isAuthorized shared bound (effective supplied) = isAuthorized shared bound supplied := by
  have htwice : effective (effective supplied) = effective supplied := by
    cases hs : effective supplied with
    | none => rfl
    | some t => exact effective_eq_some_iff.2 ⟨rfl, (effective_eq_some_iff.1 hs).2⟩
  simp only [isAuthorized, htwice]

/-- Whether a save is accepted that brings no token but that of its item. -/
theorem accepts_iff : Accepts shared none s key id token ↔ Addressable key ∧ id ≠ "" ∧
    isAuthorized (effective shared) (boundToken s key) token = true := by
  constructor
  · rintro ⟨hkey, hid, hauth⟩
    rw [Option.or_none, isAuthorized_effective] at hauth
    exact ⟨hkey, hid, hauth⟩
  · rintro ⟨hkey, hid, hauth⟩
    rw [← isAuthorized_effective, ← Option.or_none (o := effective token)] at hauth
    exact ⟨hkey, hid, hauth⟩

/-- It does not matter to a save whether an empty token is left out. -/
theorem accepts_effective :
    Accepts shared none s key id (effective token) ↔ Accepts shared none s key id token := by
  rw [accepts_iff, accepts_iff, isAuthorized_effective]

/-- A write that is not too long is taken exactly if a save is accepted that brings its token. -/
theorem takesId_iff_accepts
    (hsize : (Json.compact (Payload.mk key id token).toJson).toUTF8.size ≤ maxBodyBytes) :
    TakesId shared s key id token ↔ Accepts shared none s key id token := by
  rw [accepts_iff]
  exact ⟨fun h => ⟨h.1, h.2, h.3⟩, fun h => ⟨h.1, h.2.1, h.2.2, hsize⟩⟩

end Acceptance

/-! ## The two sinks -/

section Sinks

variable {network : Http.Network Host} {o : Origin} {shared token : Option String}
  {timeout t : Nat} {h : Host} {now : Instant} {key id : String}

/-- **A save of the webhook sink** is a write of the id. -/
theorem webhook_served (hr : ReachesAt t h now network o.authority shared timeout)
    (hs : h.store.Sound) (slashes : Nat)
    (hsize : (Json.compact (Payload.mk key id token).toJson).toUTF8.size ≤ maxBodyBytes) :
    Served timeout t h ((Sink.webhook network
        (o.text ++ String.ofList (List.replicate slashes '/')) timeout).save key id token)
      fun _ => AllOrNothing (Accepts shared none h.store key id token) (· = now) h.store
        fun now => (h.store.put now key id).2 := by
  rw [← takesId_iff_accepts hsize]
  exact webhook_taken hr (Nat.le_refl timeout) hs slashes token

/-- The first request of the direct sink is the same write, with an empty token left out. -/
theorem put_first_at (hr : ReachesAt t h now network o.authority shared timeout)
    (hs : h.store.Sound)
    (hsize : (Json.compact (Payload.mk key id (effective token)).toJson).toUTF8.size ≤
      maxBodyBytes) :
    Served timeout t h (Remote.put ⟨network, o.text, timeout, none⟩ Host.now key id
        (effective token)) fun _ =>
      AllOrNothing (Accepts shared none h.store key id token) (· = now) h.store
        fun now => (h.store.put now key id).2 := by
  have htakes : Accepts shared none h.store key id token ↔
      TakesId shared h.store key id ((effective token).or none) := by
    rw [Option.or_none, takesId_iff_accepts hsize, accepts_effective]
  rw [htakes]
  exact put_taken hr (Nat.le_refl timeout) hs none (effective token)

end Sinks

/-! ## Agreement -/

/-- How the webhook sink's save, which comes out as `a₁` and leaves `s₁`, and the direct sink's,
which comes out as `a₂` and leaves `s₂`, agree at a registry whose store was `s`: both are accepted
or both fail, and what they leave is the same but for the token of the entry. -/
structure Agreement (shared : Option String) (s s₁ s₂ : Store) (now : Instant) (key id : String)
    (token : Option String) (a₁ a₂ : Except SinkError Unit) : Prop where
  accepted_iff : a₁ = .ok () ↔ Accepts shared none s key id token
  together : a₁ = .ok () ↔ a₂ = .ok ()
  kept : a₁ ≠ .ok () → s₁ = s ∧ s₂ = s
  written : a₁ = .ok () → s.put now key id = (.ok (s.written now key id), s₁)
  same : effective token = none → s₂ = s₁
  frame : ∀ other, other ≠ key → s₂.get? other = s₁.get? other
  bound : a₁ = .ok () → ∀ t, effective token = some t →
    ∃ e, s₁.get? key = some e ∧ s₂.get? key = some (e.bind t)

section Agreement

variable {shared token : Option String} {s : Store} {now : Instant} {key id : String}

/-- Two saves that are refused agree if both fail and change nothing. -/
theorem Agreement.refused (h : ¬ Accepts shared none s key id token) (e₁ e₂ : SinkError) :
    Agreement shared s s s now key id token (.error e₁) (.error e₂) where
  accepted_iff := iff_of_false (fun hok => nomatch hok) h
  together := by simp
  kept _ := ⟨rfl, rfl⟩
  written hok := nomatch hok
  same _ := rfl
  frame _ _ := rfl
  bound hok := nomatch hok

/-- Two saves that are accepted agree: one writes the id, the other binds the token as well. -/
theorem Agreement.accepted (h : Accepts shared none s key id token) :
    Agreement shared s (s.put now key id).2 (saved s now key id token) now key id token (.ok ())
      (.ok ()) where
  accepted_iff := iff_of_true rfl h
  together := Iff.rfl
  kept hne := absurd rfl hne
  written _ := by rw [Store.put_of_valid h.addressable.valid h.id_ne]
  same htoken := by rw [saved, htoken]
  -- neither the write nor the binding is about another entry
  frame other hother := by
    rw [get?_saved h.addressable.valid h.id_ne, if_neg hother.symm,
      Store.put_of_valid h.addressable.valid h.id_ne, Table.get?_insert, if_neg hother.symm]
  bound _ t htoken := by
    refine ⟨s.written now key id, ?_, ?_⟩
    · rw [Store.put_of_valid h.addressable.valid h.id_ne, Table.get?_insert_self]
    · rw [get?_saved h.addressable.valid h.id_ne, if_pos rfl, htoken, Option.some_or]
      rfl

/-- Two saves that are each done as a whole or not at all, at the same instant, agree. -/
theorem Agreement.of_allOrNothing {a₁ a₂ : Except SinkError Unit} {s₁ s₂ : Store}
    (h₁ : AllOrNothing (Accepts shared none s key id token) (· = now) s
      (fun now => (s.put now key id).2) a₁ s₁)
    (h₂ : AllOrNothing (Accepts shared none s key id token) (· = now) s
      (fun now => saved s now key id token) a₂ s₂) :
    Agreement shared s s₁ s₂ now key id token a₁ a₂ := by
  -- both are decided by the same condition, and what they leave is dated alike
  cases h₁ with
  | accepted haccepts _ hnow₁ =>
    cases h₂ with
    | accepted _ _ hnow₂ =>
      subst hnow₁ hnow₂
      exact .accepted haccepts
    | refused hrefused _ => exact absurd haccepts hrefused
  | refused hrefused e₁ =>
    cases h₂ with
    | accepted haccepts _ _ => exact absurd haccepts hrefused
    | refused _ e₂ => exact .refused hrefused e₁ e₂

end Agreement

/-- **The webhook sink and the direct sink agree.** A registry works on a store that calls can lead
to. A webhook sink and a direct sink over a remote without a token of its own both point at it, over
networks that bring each request to the registry and each response back in time, and what both send
first is handled at the same instant. No body is too long. Then each save comes out in time: both
are accepted, or both fail and change nothing. What they leave is the same, but that the direct sink
binds the token of the item, unless there is none or it is empty. -/
theorem sinks_agree {network₁ network₂ : Http.Network Host} {o₁ o₂ : Origin}
    {shared : Option String} {timeout₁ timeout₂ t : Nat} {h : Host} {now : Instant}
    (hwebhook : ReachesAt t h now network₁ o₁.authority shared timeout₁)
    (hdirect : ReachesAt t h now network₂ o₂.authority shared timeout₂) (slashes₁ slashes₂ : Nat)
    (hs : h.store.Reachable) (key id : String) (token : Option String)
    (hsize : (Json.compact (Payload.mk key id token).toJson).toUTF8.size ≤ maxBodyBytes)
    (hsize' : (Json.compact (Payload.mk key id (effective token)).toJson).toUTF8.size ≤
      maxBodyBytes)
    (hsize'' : ∀ u, effective token = some u →
      (Json.compact (TokenUpdate.mk u (some u)).toJson).toUTF8.size ≤ maxBodyBytes) :
    let address (o : Origin) (slashes : Nat) :=
      o.text ++ String.ofList (List.replicate slashes '/')
    let remote := create network₂ (address o₂ slashes₂) timeout₂ none
    Served timeout₁ t h
      ((Sink.webhook network₁ (address o₁ slashes₁) timeout₁).save key id token) fun _ a₁ s₁ =>
        Served (timeout₂ + timeout₂) t h
          ((Sink.direct (remote.directory Host.now)).save key id token) fun _ a₂ s₂ =>
            Agreement shared h.store s₁ s₂ now key id token a₁ a₂ := by
  intro address remote
  have hremote : remote = ⟨network₂, o₂.text, timeout₂, none⟩ := by
    simp only [remote, address, create, o₂.dropTrailing_text]
  have hp : PointsAt remote o₂ shared := create_pointsAt hdirect.reaches slashes₂ none
  -- what the first request of the direct sink comes to decides about its save
  have hfirst := put_first_at hdirect hs.sound hsize'
  rw [← hremote] at hfirst
  have hsecond := save_of_put hp hfirst hsize''
  refine (webhook_served hwebhook hs.sound slashes₁ hsize).imp fun _ a₁ s₁ h₁ => ?_
  exact hsecond.imp fun _ a₂ s₂ h₂ => .of_allOrNothing h₁ h₂

/-- Saves at a registry with a shared token. With that token both sinks write the id, and the direct
sink binds the shared token in place of the entry's own; with an empty token both are refused. -/
theorem sinks_agree_at_shared :
    let h : Host := ⟨⟨1704164700, 0⟩, exampleStore⟩
    let network := relay (some "shared") 3
    let address (slashes : Nat) := exampleOrigin.text ++ String.ofList (List.replicate slashes '/')
    let webhook := Sink.webhook network (address 1) 10000
    let remote := create network (address 0) 5000 none
    let direct := Sink.direct (remote.directory Host.now)
    h.store.Reachable ∧ ReachesAt 0 h h.now network exampleOrigin.authority (some "shared") 5000 ∧
      (Served 10000 0 h (webhook.save "gw1" "id2" (some "shared")) fun _ a₁ s₁ =>
        Served (5000 + 5000) 0 h (direct.save "gw1" "id2" (some "shared")) fun _ a₂ s₂ =>
          a₁ = .ok () ∧ a₂ = .ok () ∧
          s₁.get? "gw1" = some ⟨"gw1", "id2", 2, h.now, some "t1"⟩ ∧
          s₂.get? "gw1" = some ⟨"gw1", "id2", 2, h.now, some "shared"⟩) ∧
      Served 10000 0 h (webhook.save "gw1" "id2" (some "")) fun _ a₁ s₁ =>
        Served (5000 + 5000) 0 h (direct.save "gw1" "id2" (some "")) fun _ a₂ s₂ =>
          a₁ ≠ .ok () ∧ a₂ ≠ .ok () ∧ s₁ = exampleStore ∧ s₂ = exampleStore := by
  intro h network address webhook remote direct
  have hreachable : h.store.Reachable := ⟨_, rfl⟩
  have hreaches (timeout : Nat) (hms : 3 ≤ timeout) :
      ReachesAt 0 h h.now network exampleOrigin.authority (some "shared") timeout :=
    relay_reachesAt hms (some "shared") _ 0 h
  have hagree (token : Option String) (hsize hsize' hsize'') :=
    sinks_agree (hreaches 10000 (by decide)) (hreaches 5000 (by decide)) 1 0 hreachable "gw1" "id2"
      token hsize hsize' hsize''
  have hstored : exampleStore.get? "gw1" = some ⟨"gw1", "id1", 1, ⟨1704164645, 0⟩, some "t1"⟩ := by
    decide +kernel
  have hbinding (t : String) (ht : effective (some "shared") = some t) :
      (Json.compact (TokenUpdate.mk t (some t)).toJson).toUTF8.size ≤ maxBodyBytes := by
    obtain rfl : "shared" = t := Option.some.inj (effective_eq_some_iff.1 ht).1
    decide +kernel
  have hempty : effective (some "") = none := rfl
  refine ⟨hreachable, hreaches 5000 (by decide), ?_, ?_⟩
  · refine (hagree (some "shared") (by decide +kernel) (by decide +kernel) hbinding).imp
      fun _ a₁ s₁ hserved => hserved.imp fun _ a₂ s₂ hagreement => ?_
    have haccepts : Accepts (some "shared") none exampleStore "gw1" "id2" (some "shared") :=
      ⟨⟨by decide, by decide, by decide⟩, by decide, by decide +kernel⟩
    -- the shared token opens every gateway, and what the direct sink binds is that token
    have hok := hagreement.accepted_iff.2 haccepts
    have hwritten := hagreement.written hok
    obtain ⟨e, he₁, he₂⟩ := hagreement.bound hok "shared" rfl
    rw [Store.put_of_valid haccepts.addressable.valid haccepts.id_ne] at hwritten
    rw [← (Prod.mk.inj hwritten).2, Table.get?_insert_self, Store.written, hstored] at he₁
    refine ⟨hok, hagreement.together.1 hok, ?_, ?_⟩
    · rw [← (Prod.mk.inj hwritten).2, Table.get?_insert_self, Store.written, hstored]
      rfl
    · rw [he₂, ← Option.some.inj he₁]
      rfl
  · refine (hagree (some "") (by decide +kernel) (by decide +kernel)
      (fun t ht => by rw [hempty] at ht; cases ht)).imp
      fun _ a₁ s₁ hserved => hserved.imp fun _ a₂ s₂ hagreement => ?_
    have hrefused : a₁ ≠ .ok () := by
      intro hok
      have hauth := (hagreement.accepted_iff.1 hok).authorized
      revert hauth
      decide +kernel
    exact ⟨hrefused, mt hagreement.together.2 hrefused, hagreement.kept hrefused⟩

end Sync

end GatewayDirectory
