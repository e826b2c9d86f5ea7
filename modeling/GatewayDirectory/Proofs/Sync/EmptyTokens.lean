import GatewayDirectory.Proofs.Resolution.Replication
import GatewayDirectory.Proofs.Sync.Webhook

/-!
# Empty tokens

A write may bring an empty token where it might bring none. The sinks and the registry take the one
for the other: the direct sink leaves an empty token out, and a registry is not opened by it
(`isAuthorized_empty`). A remote with a token of its own does not, for it sends its own token only
where the caller brings none. So an empty token takes the place of the remote's own
(`empty_token_hides_own`), and this matters exactly where the write is not open and the remote's own
token would have been accepted (`takesId_alike_iff`, `takesToken_alike_iff`).
-/

namespace GatewayDirectory

open Directory Http Text Registry Resolution

namespace Sync

open Remote

/-! ## Two outcomes -/

/-- Begun alike, both computations end in time. They both succeed or both fail, and leave the same
store, exactly if `same` holds. -/
def Compared {ε α : Type} (latency t : Nat) (h : Host) (x y : Timed Host (Except ε α))
    (same : Prop) : Prop :=
  Served latency t h x fun _ a s₁ => Served latency t h y fun _ b s₂ =>
    (((∃ v, a = .ok v) ↔ ∃ v, b = .ok v) ∧ s₁ = s₂) ↔ same

section Outcomes

variable {ε ε' α β : Type} {p q : Prop} {s s₁ s₂ : Store} {now : Instant}
  {after : Instant → Store} {a : Except ε α} {b : Except ε' β}

/-- What is done as a whole or not at all succeeds exactly if it is accepted. -/
theorem AllOrNothing.ok_iff {dated : Instant → Prop} (h : AllOrNothing p dated s after a s₁) :
    (∃ v, a = .ok v) ↔ p := by
  cases h with
  | accepted hp v _ => exact iff_of_true ⟨v, rfl⟩ hp
  | refused hp e => exact iff_of_false (fun ⟨_, hok⟩ => nomatch hok) hp

/-- What is accepted alike leaves the same. -/
theorem AllOrNothing.store_eq (h₁ : AllOrNothing p (· = now) s after a s₁)
    (h₂ : AllOrNothing q (· = now) s after b s₂) (hpq : p ↔ q) : s₁ = s₂ := by
  -- both are accepted or both are refused, by `hpq`
  cases h₁ with
  | accepted hp _ hnow₁ =>
    cases h₂ with
    | accepted _ _ hnow₂ => rw [hnow₁, hnow₂]
    | refused hq _ => exact absurd (hpq.1 hp) hq
  | refused hp _ =>
    cases h₂ with
    | accepted hq _ _ => exact absurd (hpq.2 hq) hp
    | refused _ _ => rfl

/-- What leaves the same is accepted alike, if to be accepted changes something. -/
theorem AllOrNothing.store_eq_iff (h₁ : AllOrNothing p (· = now) s after a s₁)
    (h₂ : AllOrNothing q (· = now) s after b s₂) (hchange : p ∨ q → after now ≠ s) :
    s₁ = s₂ ↔ (p ↔ q) := by
  refine ⟨fun heq => ?_, h₁.store_eq h₂⟩
  -- where one is accepted and the other is not, `hchange` tells their stores apart
  cases h₁ with
  | accepted hp _ hnow₁ =>
    cases h₂ with
    | accepted hq _ _ => exact iff_of_true hp hq
    | refused _ _ => exact absurd (hnow₁ ▸ heq) (hchange (.inl hp))
  | refused hp _ =>
    cases h₂ with
    | accepted hq _ hnow₂ => exact absurd (hnow₂ ▸ heq.symm) (hchange (.inr hq))
    | refused hq _ => exact iff_of_false hp hq

/-- Computations that are each done as a whole or not at all compare as what they accept. -/
theorem compared_of_allOrNothing {latency t : Nat} {h : Host} {x y : Timed Host (Except ε α)}
    (hx : Served latency t h x fun _ => AllOrNothing p (· = now) h.store after)
    (hy : Served latency t h y fun _ => AllOrNothing q (· = now) h.store after) :
    Compared latency t h x y (p ↔ q) := by
  refine hx.imp fun _ a s₁ h₁ => hy.imp fun _ b s₂ h₂ => ?_
  rw [h₁.ok_iff, h₂.ok_iff]
  exact ⟨fun heq => heq.1, fun hpq => ⟨hpq, h₁.store_eq h₂ hpq⟩⟩

/-- A write of an id always changes the store: it counts one more. -/
theorem put_ne {name id : String} (hvalid : isValidName name = true) (hid : id ≠ "") :
    (s.put now name id).2 ≠ s := by
  intro heq
  rw [Store.put_of_valid hvalid hid] at heq
  -- the entry that is written would have been there before
  have hentry : s.get? name = some (s.written now name id) := by
    rw [← heq, Table.get?_insert_self, heq]
  have hcounter := (savedEntry_written s now name id none).counter_eq
  rw [hentry, Option.map_some, Option.getD_some] at hcounter
  exact absurd (UInt64.left_eq_add.1 hcounter) (by decide)

end Outcomes

/-! ## Empty tokens at a registry -/

section Authorization

variable {shared own : Option String} {s : Store} {name id secret : String}

/-- An empty token opens nothing that is not open. -/
theorem isAuthorized_empty (shared bound : Option String) :
    isAuthorized shared bound (some "") = isAuthorized shared bound none :=
  (isAuthorized_effective shared bound (some "")).symm

/-- The token opens nothing at a gateway that is not open without one. -/
def OpensNothing (shared : Option String) (s : Store) (name : String) (token : Option String) :
    Prop :=
  isAuthorized (effective shared) (boundToken s name) token = true →
    isAuthorized (effective shared) (boundToken s name) none = true

/-- An empty token is accepted as another is just where that one opens nothing. -/
theorem authorized_alike_iff :
    (isAuthorized (effective shared) (boundToken s name) (some "") = true ↔
      isAuthorized (effective shared) (boundToken s name) own = true) ↔
      OpensNothing shared s name own := by
  rw [isAuthorized_empty, OpensNothing]
  refine ⟨fun halike => halike.2, fun hopens => ⟨fun hopen => ?_, hopens⟩⟩
  -- what is open is open to any token
  rcases isAuthorized_iff.1 hopen with hnone | ⟨t, ht, -⟩
  · exact isAuthorized_iff.2 (.inl hnone)
  · cases ht

/-- **When an empty token does as well as the remote's own** for a write of an id. -/
theorem takesId_alike_iff
    (hempty : (Json.compact (Payload.mk name id (some "")).toJson).toUTF8.size ≤ maxBodyBytes)
    (hown : (Json.compact (Payload.mk name id own).toJson).toUTF8.size ≤ maxBodyBytes) :
    (TakesId shared s name id (some "") ↔ TakesId shared s name id own) ↔
      (Addressable name → id ≠ "" → OpensNothing shared s name own) := by
  constructor
  · -- to be taken alike is to be authorized alike, as all else of the two writes is the same
    intro halike hname hid
    refine authorized_alike_iff.1 ⟨fun hauth => ?_, fun hauth => ?_⟩
    · exact (halike.1 ⟨hname, hid, hauth, hempty⟩).authorized
    · exact (halike.2 ⟨hname, hid, hauth, hown⟩).authorized
  · intro hopens
    constructor
    · rintro ⟨hname, hid, hauth, -⟩
      exact ⟨hname, hid, (authorized_alike_iff.2 (hopens hname hid)).1 hauth, hown⟩
    · rintro ⟨hname, hid, hauth, -⟩
      exact ⟨hname, hid, (authorized_alike_iff.2 (hopens hname hid)).2 hauth, hempty⟩

/-- **When an empty token does as well as the remote's own** for a write of a token. -/
theorem takesToken_alike_iff
    (hempty : (Json.compact (TokenUpdate.mk secret (some "")).toJson).toUTF8.size ≤ maxBodyBytes)
    (hown : (Json.compact (TokenUpdate.mk secret own).toJson).toUTF8.size ≤ maxBodyBytes) :
    (TakesToken shared s name secret (some "") ↔ TakesToken shared s name secret own) ↔
      (Addressable name → secret ≠ "" → (∃ e, s.get? name = some e) →
        OpensNothing shared s name own) := by
  constructor
  · intro halike hname hsecret hpresent
    refine authorized_alike_iff.1 ⟨fun hauth => ?_, fun hauth => ?_⟩
    · exact (halike.1 ⟨hname, hsecret, hpresent, hauth, hempty⟩).authorized
    · exact (halike.2 ⟨hname, hsecret, hpresent, hauth, hown⟩).authorized
  · intro hopens
    constructor
    · rintro ⟨hname, hsecret, hpresent, hauth, -⟩
      exact ⟨hname, hsecret, hpresent,
        (authorized_alike_iff.2 (hopens hname hsecret hpresent)).1 hauth, hown⟩
    · rintro ⟨hname, hsecret, hpresent, hauth, -⟩
      exact ⟨hname, hsecret, hpresent,
        (authorized_alike_iff.2 (hopens hname hsecret hpresent)).2 hauth, hempty⟩

end Authorization

/-! ## Empty tokens at a remote -/

/-- How a refresh with an empty token, and one with none, compare that copy into a registry. Where
the primary does not answer, they run alike. Where it does, both come out with the id that it
answers and leave the same cache, and they leave the same store at the registry exactly if `same`
holds of that id. -/
structure RefreshesCompared {ω : Type} (client : Client (Desk ω)) (host : Part ω Host) (t : Nat)
    (s : Desk ω) (name : String) (hit : Option Entry) (same : String → Prop) : Prop where
  missed : hit = none →
    (client.refreshNow name (some "")).run t s = (client.refreshNow name none).run t s
  answered : ∀ e, hit = some e → ∃ t₁ s₁ t₂ s₂,
    (client.refreshNow name (some "")).Ends t s (some e.id) t₁ s₁ ∧
    (client.refreshNow name none).Ends t s (some e.id) t₂ s₂ ∧ s₁.cache = s₂.cache ∧
    ((host.get s₁.outside).store = (host.get s₂.outside).store ↔ same e.id)

section Remote

variable {network : Http.Network Host} {o : Origin} {shared : Option String}
  {latency timeout t : Nat} {h : Host} {now : Instant}

/-- The copies that two refreshes make compare as the writes that they are. -/
theorem refreshes_compared (hr : ReachesAt t h now network o.authority shared latency)
    (htimeout : latency ≤ timeout) (hs : h.store.Sound) (own : Option String) (name : String)
    {ω : Type} {host : Part ω Host} (hhost : host.Lawful) {primary : Directory ω}
    (hprimary : AnswersOrHangs primary) (clock : ω → Instant) {limit : Nat}
    (hlimit : latency ≤ limit) {t₀ : Nat} {s : Desk ω}
    (ht : (after limit primary (.get name) t₀ s.outside).1 = t)
    (hh : host.get (after limit primary (.get name) t₀ s.outside).2 = h) :
    let remote : Remote Host := ⟨network, o.text, timeout, own⟩
    RefreshesCompared
      (Desk.client primary (onPart host (remote.directory Host.now)) clock limit) host t₀ s name
      (success limit primary (.get name) t₀ s.outside) fun id =>
        TakesId shared h.store name id (some "") ↔ TakesId shared h.store name id own := by
  intro remote
  refine ⟨fun hmiss => refreshNow_of_miss hprimary clock hmiss _ _, fun e hhit => ?_⟩
  -- until the copy both refreshes are one, so both copies meet the registry in the same state
  have hcopies (caller : Option String) :=
    refreshNow_copies (d := remote.directory Host.now) hprimary clock hhost caller hhit hlimit
      (by rw [ht, hh]; exact put_taken hr htimeout hs own caller)
  obtain ⟨_, _, t₁, s₁, hends₁, hcache₁, htaken₁⟩ := hcopies (some "")
  obtain ⟨_, _, t₂, s₂, hends₂, hcache₂, htaken₂⟩ := hcopies none
  refine ⟨t₁, s₁, t₂, s₂, hends₁, hends₂, hcache₁.trans hcache₂.symm, ?_⟩
  refine htaken₁.store_eq_iff htaken₂ fun htakes => ?_
  -- what is taken is written, and counted
  rcases htakes with htakes | htakes
  · exact put_ne htakes.addressable.valid htakes.id_ne
  · exact put_ne htakes.addressable.valid htakes.id_ne

end Remote

/-- **An empty token takes the place of the remote's own.** A registry works on a store that calls
can lead to, and a remote of it, with any token of its own, and a webhook sink are within reach. A
write with an empty token succeeds as the same write with none does, and leaves the same store,
exactly if the registry takes an empty token just where it takes the remote's own. So it is with
ids, with tokens and with what a refresh copies; the refresh itself comes out the same. The direct
sink makes no difference between an empty token and none, and the webhook sink compares the two
themselves. If no body is too long, an empty token is taken just where another is exactly if that
one opens nothing. -/
theorem empty_token_hides_own {network : Http.Network Host} {o : Origin} {shared : Option String}
    {latency timeout t : Nat} {h : Host} {now : Instant}
    (hr : ReachesAt t h now network o.authority shared latency) (htimeout : latency ≤ timeout)
    (hs : h.store.Reachable) (own : Option String) (slashes : Nat) (name id secret : String) :
    let address := o.text ++ String.ofList (List.replicate slashes '/')
    let calls := (create network address timeout own).directory Host.now
    let direct := Sink.direct calls
    let webhook := Sink.webhook network address timeout
    let takesId := TakesId shared h.store name
    let takesToken := TakesToken shared h.store name secret
    Compared latency t h (calls (.putAuthorized name id (some "")))
      (calls (.putAuthorized name id none)) (takesId id (some "") ↔ takesId id own) ∧
    Compared latency t h (calls (.putTokenAuthorized name secret (some "")))
      (calls (.putTokenAuthorized name secret none)) (takesToken (some "") ↔ takesToken own) ∧
    direct.save name id (some "") = direct.save name id none ∧
    Compared latency t h (webhook.save name id (some "")) (webhook.save name id none)
      (takesId id (some "") ↔ takesId id none) ∧
    (∀ (ω : Type) (host : Part ω Host), host.Lawful → ∀ primary, AnswersOrHangs primary →
      ∀ (clock : ω → Instant) (limit : Nat), latency ≤ limit → ∀ (t₀ : Nat) (s : Desk ω),
        (after limit primary (.get name) t₀ s.outside).1 = t →
        host.get (after limit primary (.get name) t₀ s.outside).2 = h →
        RefreshesCompared (Desk.client primary (onPart host calls) clock limit) host t₀ s name
          (success limit primary (.get name) t₀ s.outside) fun id =>
            takesId id (some "") ↔ takesId id own) ∧
    (∀ other, (Json.compact (Payload.mk name id (some "")).toJson).toUTF8.size ≤ maxBodyBytes →
      (Json.compact (Payload.mk name id other).toJson).toUTF8.size ≤ maxBodyBytes →
      ((takesId id (some "") ↔ takesId id other) ↔
        (Addressable name → id ≠ "" → OpensNothing shared h.store name other))) ∧
    ∀ other, (Json.compact (TokenUpdate.mk secret (some "")).toJson).toUTF8.size ≤ maxBodyBytes →
      (Json.compact (TokenUpdate.mk secret other).toJson).toUTF8.size ≤ maxBodyBytes →
      ((takesToken (some "") ↔ takesToken other) ↔
        (Addressable name → secret ≠ "" → (∃ e, h.store.get? name = some e) →
          OpensNothing shared h.store name other)) := by
  intro address calls direct webhook takesId takesToken
  have hcalls : calls = Remote.directory ⟨network, o.text, timeout, own⟩ Host.now := by
    simp only [calls, address, create, o.dropTrailing_text]
  rw [hcalls]
  refine ⟨?_, ?_, rfl, ?_, ?_, fun _ => takesId_alike_iff, fun _ => takesToken_alike_iff⟩
  · exact compared_of_allOrNothing (put_taken hr htimeout hs.sound own (some ""))
      (put_taken hr htimeout hs.sound own none)
  · exact compared_of_allOrNothing (putToken_taken hr htimeout own (some ""))
      (putToken_taken hr htimeout own none)
  · exact compared_of_allOrNothing (webhook_taken hr htimeout hs.sound slashes (some ""))
      (webhook_taken hr htimeout hs.sound slashes none)
  · intro ω host hhost primary hprimary clock limit hlimit t₀ s ht hh
    exact refreshes_compared hr htimeout hs.sound own name hhost hprimary clock hlimit ht hh

/-- A remote's own token is the shared one of the registry. Writes succeed with it, and those with
an empty token fail; and what the primary answers is copied only by a refresh that brings none. To a
webhook sink an empty token is none. -/
theorem empty_token_hides_own_of_shared :
    let h : Host := ⟨⟨1704164700, 0⟩, exampleStore⟩
    let network := relay (some "shared") 3
    let address := exampleOrigin.text ++ String.ofList (List.replicate 1 '/')
    let calls := (create network address 10000 (some "shared")).directory Host.now
    let webhook := Sink.webhook network address 10000
    let host : Part (Store × Host) Host := ⟨Prod.snd, fun h w => (w.1, h)⟩
    let primary : Directory (Store × Host) :=
      Store.directory (fun w => w.2.now) ⟨Prod.fst, fun s w => (s, w.2)⟩
    let client := Desk.client primary (onPart host calls) (fun w => w.2.now) 5000
    let desk : Desk (Store × Host) :=
      ⟨.empty 1, [], Table.empty.insert "gw1" (.create "gw1" "id3" default), h⟩
    h.store.Reachable ∧ ReachesAt 0 h h.now network exampleOrigin.authority (some "shared") 3 ∧
      Compared 3 0 h (calls (.putAuthorized "gw1" "id2" (some "")))
        (calls (.putAuthorized "gw1" "id2" none)) False ∧
      Compared 3 0 h (calls (.putTokenAuthorized "gw1" "t2" (some "")))
        (calls (.putTokenAuthorized "gw1" "t2" none)) False ∧
      Compared 3 0 h (webhook.save "gw1" "id2" (some "")) (webhook.save "gw1" "id2" none) True ∧
      ∃ t₁ s₁ t₂ s₂, (client.refreshNow "gw1" (some "")).Ends 0 desk (some "id3") t₁ s₁ ∧
        (client.refreshNow "gw1" none).Ends 0 desk (some "id3") t₂ s₂ ∧
        (host.get s₁.outside).store ≠ (host.get s₂.outside).store := by
  intro h network address calls webhook host primary client desk
  have hreachable : h.store.Reachable := ⟨_, rfl⟩
  have hreaches : ReachesAt 0 h h.now network exampleOrigin.authority (some "shared") 3 :=
    relay_reachesAt (Nat.le_refl 3) _ _ 0 h
  have hname : Addressable "gw1" := ⟨by decide, by decide, by decide⟩
  have hopens : ¬ OpensNothing (some "shared") exampleStore "gw1" (some "shared") := by
    rw [OpensNothing]
    decide +kernel
  have hlaw (id : String) := empty_token_hides_own hreaches (by decide : 3 ≤ 10000) hreachable
    (some "shared") 1 "gw1" id "t2"
  have hid (id : String) (hne : id ≠ "")
      (hempty : (Json.compact (Payload.mk "gw1" id (some "")).toJson).toUTF8.size ≤ maxBodyBytes)
      (hown : (Json.compact (Payload.mk "gw1" id (some "shared")).toJson).toUTF8.size ≤
        maxBodyBytes) :
      (TakesId (some "shared") exampleStore "gw1" id (some "") ↔
        TakesId (some "shared") exampleStore "gw1" id (some "shared")) = False := by
    obtain ⟨-, -, -, -, -, halike, -⟩ := hlaw id
    exact eq_false fun hsame => hopens ((halike _ hempty hown).1 hsame hname hne)
  obtain ⟨hput, hbind, -, hsave, hrefresh, halike, halike'⟩ := hlaw "id2"
  have hwrite := hid "id2" (by decide) (by decide +kernel) (by decide +kernel)
  have htoken : (TakesToken (some "shared") exampleStore "gw1" "t2" (some "") ↔
      TakesToken (some "shared") exampleStore "gw1" "t2" (some "shared")) = False :=
    eq_false fun hsame => hopens <| (halike' _ (by decide +kernel) (by decide +kernel)).1 hsame
      hname (by decide) ⟨⟨"gw1", "id1", 1, ⟨1704164645, 0⟩, some "t1"⟩, by decide +kernel⟩
  have hnone : (TakesId (some "shared") exampleStore "gw1" "id2" (some "") ↔
      TakesId (some "shared") exampleStore "gw1" "id2" none) = True :=
    eq_true ((halike none (by decide +kernel) (by decide +kernel)).2 fun _ _ hopen => hopen)
  refine ⟨hreachable, hreaches, hwrite ▸ hput, htoken ▸ hbind, hnone ▸ hsave, ?_⟩
  have hcompared := hrefresh (Store × Host) host ⟨fun _ _ => rfl, fun _ => rfl, fun _ _ _ => rfl⟩
    primary (answersOrHangs_directory _ _) (fun w => w.2.now) 5000 (by decide) 0 desk rfl rfl
  obtain ⟨t₁, s₁, t₂, s₂, hends₁, hends₂, -, hstores⟩ :=
    hcompared.answered (.create "gw1" "id3" default) (by decide +kernel)
  have hcopy := hid "id3" (by decide) (by decide +kernel) (by decide +kernel)
  exact ⟨t₁, s₁, t₂, s₂, hends₁, hends₂, fun heq => hcopy ▸ hstores.1 heq⟩

end Sync

end GatewayDirectory
