import GatewayDirectory.Proofs.Sync.Contacts
import GatewayDirectory.Proofs.Sync.Paging

/-!
# What a scan collects

A scan is told as the list of its calls for pages. Whatever the source does, each `PageCall` comes
out in one of two ways (`PageCall.Made`): the source answers within the limit, or the call is cut
off at the limit. `Collection` says what the calls of a scan are, in which order they are made, and
what the scan found by them: the items of the pages that it got, and an error that the last call
alone decides (`PageCall.Concludes`).
-/

namespace GatewayDirectory.Sync

/-- A call for a page, and what came of it. -/
structure PageCall (σ : Type) where
  token : Option String
  /-- The answer; none if it did not come within the limit. -/
  answer : Option (Except InventoryError Page)
  /-- When the call began. -/
  begun : Nat
  /-- The state that it met. -/
  before : σ
  /-- When the call was over. -/
  ended : Nat
  /-- The state that it left. -/
  after : σ

namespace PageCall

variable {σ : Type}

/-- The items of the page that the call got; none if it got no page. -/
def items (call : PageCall σ) : List Item :=
  match call.answer with
  | some (.ok page) => page.items
  | some (.error _) | none => []

/-- The call comes out as the source has it, which may depend on the time and on the state. -/
inductive Made (p : Propagator σ) (c : Credential) : PageCall σ → Prop
  /-- The source answers within the limit. -/
  | answered {token : Option String} {answer : Except InventoryError Page} {t t' : Nat} {s s' : σ}
    (hcall : (p.inventory c token).Ends t s answer t' s')
    (htime : t' ≤ t + p.options.callTimeout) : Made p c ⟨token, some answer, t, s, t', s'⟩
  /-- The source would answer later or never, and is cut off at the limit. -/
  | late {token : Option String} {t : Nat} {s s' : σ}
    (hlate : ((p.inventory c token).run t s).ending = .hung ∨
      t + p.options.callTimeout < ((p.inventory c token).run t s).time)
    (hcut : (Timed.bounded p.options.callTimeout (p.inventory c token)).Ends t s none
      (t + p.options.callTimeout) s') :
    Made p c ⟨token, none, t, s, t + p.options.callTimeout, s'⟩

/-- One call is the next after another: it begins when and where that one is over, and asks for the
page that the page of that one names. That is not the page of that one itself. -/
structure Follows (a b : PageCall σ) : Prop where
  begun : b.begun = a.ended
  before : b.before = a.after
  token : ∃ page next, a.answer = some (.ok page) ∧ page.next = some next ∧ b.token = some next
  moves : a.token ≠ b.token

/-- How the last call of a scan decides the error of the scan. -/
structure Concludes (role : String) (last : PageCall σ) (error : Option InventoryError) :
    Prop where
  /-- There is none exactly if the call got a page after which there is no other. -/
  complete : error = none ↔ ∃ page, last.answer = some (.ok page) ∧ page.next = none
  /-- If the call failed, it is the source's own. -/
  failed : ∀ e, last.answer = some (.error e) → error = some e
  /-- If the call was cut off, it says so. -/
  late : last.answer = none → error = some .timeout
  /-- If the call got a page, there is one exactly if the page names the token that it was asked for
  with, and it says so. -/
  repeated : ∀ page, last.answer = some (.ok page) → ∀ e, error = some e ↔
    ∃ token, last.token = some token ∧ page.next = some token ∧ e = repeatedToken role token

end PageCall

open Propagator (Scan AfterPage afterPage scanFrom_cases)

/-- From a time and a state on, a scan for pages from one token on makes those calls, and finds what
they got. -/
structure Collection {σ : Type} (p : Propagator σ) (c : Credential) (token : Option String)
    (t : Nat) (s : σ) (calls : List (PageCall σ)) (found : Scan) (t' : Nat) (s' : σ) : Prop where
  first : ∃ call, calls.head? = some call ∧ call.token = token ∧ call.begun = t ∧ call.before = s
  made : ∀ call ∈ calls, call.Made p c
  inTurn : calls.IsChain PageCall.Follows
  /-- Each page counts once, in the order of the calls. -/
  items : found.items = calls.flatMap (·.items)
  last : ∃ call, calls.getLast? = some call ∧ call.ended = t' ∧ call.after = s' ∧
    call.Concludes c.role found.error

section Scans

variable {σ : Type} {p : Propagator σ} {c : Credential} {token : Option String}
  {o : Option (Except InventoryError Page)} {found : Scan} {items : List Item} {next : String}
  {call : PageCall σ} {calls : List (PageCall σ)} {t t₁ t' : Nat} {s s₁ s' : σ}

/-! ## One call -/

/-- A call under the limit comes out as the source has it. -/
theorem PageCall.made_of_ends
    (h : (Timed.bounded p.options.callTimeout (p.inventory c token)).Ends t s o t' s') :
    PageCall.Made p c ⟨token, o, t, s, t', s'⟩ := by
  rcases h.of_bounded with ⟨answer, rfl, hcall, htime⟩ | ⟨rfl, rfl, hlate⟩
  · exact .answered hcall htime
  · exact .late hlate h

/-- The call with which a scan ends decides what it has found. -/
theorem PageCall.concludes_of_ends (htoken : call.token = token) (hanswer : call.answer = o)
    (h : afterPage c token o = .ends found) :
    found.items = call.items ∧ call.Concludes c.role found.error := by
  subst htoken hanswer
  rw [PageCall.items]
  -- an error or a call that is cut off ends the scan; a page ends it if it names none or itself
  rcases hanswer : call.answer with _ | (e | page)
  · rw [hanswer] at h
    cases h
    exact ⟨rfl, by simp [hanswer], by simp [hanswer], fun _ => rfl, by simp [hanswer]⟩
  · rw [hanswer] at h
    cases h
    exact ⟨rfl, by simp [hanswer], by simp [hanswer], by simp [hanswer], by simp [hanswer]⟩
  · rw [hanswer, afterPage] at h
    cases hnext : page.next with
    | none =>
      rw [hnext] at h
      cases h
      exact ⟨rfl, by simp [hanswer, hnext], by simp [hanswer], by simp [hanswer],
        by simp [hanswer, hnext]⟩
    | some next =>
      simp only [hnext] at h
      split at h
      · rename_i hself
        cases h
        refine ⟨rfl, by simp [hanswer, hnext], by simp [hanswer], by simp [hanswer], ?_⟩
        simp [hanswer, hnext, hself, repeatedToken, eq_comm]
      · cases h

/-- A call after which a scan goes on got a page that names another one. -/
theorem PageCall.of_goesOn (htoken : call.token = token) (hanswer : call.answer = o)
    (h : afterPage c token o = .goesOn items next) :
    call.items = items ∧ token ≠ some next ∧
      ∃ page, call.answer = some (.ok page) ∧ page.next = some next := by
  subst htoken hanswer
  rw [PageCall.items]
  rcases hanswer : call.answer with _ | (e | page)
  · rw [hanswer] at h
    cases h
  · rw [hanswer] at h
    cases h
  · rw [hanswer, afterPage] at h
    cases hnext : page.next with
    | none =>
      rw [hnext] at h
      cases h
    | some named =>
      simp only [hnext] at h
      split at h
      · cases h
      · rename_i hother
        cases h
        exact ⟨rfl, hother, page, rfl, hnext⟩

/-! ## Calls one after the other -/

namespace Collection

/-- A scan that ends with its first call collects what that call got. -/
theorem single (hmade : call.Made p c)
    (hanswer : afterPage c call.token call.answer = .ends found) :
    Collection p c call.token call.begun call.before [call] found call.ended call.after := by
  obtain ⟨hitems, hconcludes⟩ := PageCall.concludes_of_ends rfl rfl hanswer
  exact
    { first := ⟨call, rfl, rfl, rfl, rfl⟩
      made := List.forall_mem_singleton.2 hmade
      inTurn := .singleton call
      items := by rw [hitems, List.flatMap_singleton]
      last := ⟨call, rfl, rfl, rfl, hconcludes⟩ }

/-- **A call that leads on comes before the calls to which it leads.** -/
theorem cons (hmade : call.Made p c)
    (hanswer : afterPage c call.token call.answer = .goesOn items next)
    (h : Collection p c (some next) call.ended call.after calls found t' s') :
    Collection p c call.token call.begun call.before (call :: calls)
      { found with items := items ++ found.items } t' s' := by
  obtain ⟨hitems, hother, page, hpage, hnext⟩ := PageCall.of_goesOn rfl rfl hanswer
  obtain ⟨second, hhead, htoken, hbegun, hbefore⟩ := h.first
  obtain ⟨rest, rfl⟩ := List.head?_eq_some_iff.1 hhead
  have hfollows : call.Follows second := by
    refine ⟨hbegun, hbefore, ⟨page, next, hpage, hnext, htoken⟩, ?_⟩
    rw [htoken]
    exact hother
  exact
    { first := ⟨call, rfl, rfl, rfl, rfl⟩
      made := List.forall_mem_cons.2 ⟨hmade, h.made⟩
      inTurn := .cons_cons hfollows h.inTurn
      items := by rw [List.flatMap_cons, hitems, h.items]
      last := h.last }

end Collection

/-- **A noted scan collects by its calls, and they are the ones that it notes.** -/
theorem exists_collection {budget : Nat} {l l' : Ledger σ}
    (h : (p.noted.scanFrom c budget token).Ends t l found t' l') :
    ∃ calls, Collection p c token t l.outside calls found t' l'.outside ∧
      l'.contacts = l.contacts ++ calls.map fun call => .page c call.token := by
  -- the invariant is the list of the calls that are still to come
  induction budget generalizing token t l found with
  | zero =>
    obtain ⟨events, hevents⟩ := h
    cases hevents
  | succ budget ih =>
    obtain ⟨o, t₁, l₁, hcall, hend⟩ := scanFrom_cases h
    have hnoted := Ledger.contacts_of_noting hcall
    have hplain := (p.noted_alike.pages p.options.callTimeout c token).ends hcall
    have hmade := PageCall.made_of_ends hplain
    rcases hend with ⟨hanswer, rfl, rfl⟩ | ⟨items, next, rest, hanswer, hrest, rfl⟩
    · exact ⟨_, .single hmade hanswer, hnoted⟩
    · obtain ⟨calls, hcollection, hcontacts⟩ := ih hrest
      refine ⟨_, hcollection.cons hmade hanswer, ?_⟩
      rw [hcontacts, hnoted, List.append_assoc]
      rfl

end Scans

/-- **What a scan collects.** Whatever its source does, a scan that ends has called it for pages one
after the other and for nothing else: without a token first, and then with the token that the page
before names. It has found the items of the pages that came within the limit, in the order of the
calls, and each page counts once. The last call decides its error: there is none if the last page
came, the source's own if the call failed, that of a call that is cut off, or the one that says that
the last page names its own token. -/
theorem scan_collects {σ : Type} (p : Propagator σ) (c : Credential) {t t' : Nat} {s s' : σ}
    {found : Scan} (h : (p.scan c).Ends t s found t' s') :
    ∃ calls : List (PageCall σ), Collection p c none t s calls found t' s' ∧
      (p.noted.scan c).Ends t ⟨[], s⟩ found t' ⟨calls.map fun call => .page c call.token, s'⟩ := by
  have hmirrors := p.noted_alike.scanFrom c p.pageBudget none
  obtain ⟨l, hnoted, rfl⟩ := hmirrors.exists_ends (s := (⟨[], s⟩ : Ledger σ)) h
  obtain ⟨calls, hcollection, hcontacts⟩ := exists_collection hnoted
  rw [List.nil_append] at hcontacts
  refine ⟨calls, hcollection, ?_⟩
  rw [← hcontacts]
  exact hnoted

/-- A source that counts its calls: each page takes 20 ms more than the one before, and every page
after the first names `x`. With a limit of 50 ms the scan collects three pages and finds that the
last one names its own token, with a limit of 30 ms the last page is late. -/
theorem scan_collects_of_counting :
    let c : Credential := ⟨"arn:aws:iam::1:role/r", "eu", none, none, .empty⟩
    let p (limit : Nat) : Propagator Nat :=
      { accounts := .arn
        inventory := fun _ token => do
          let n ← Timed.update fun n => (n, n + 1)
          Timed.sleep (20 * n)
          return .ok ⟨[⟨token.getD "-", toString n⟩], if n = 0 then some "w" else some "x"⟩
        sink := ⟨.direct, fun _ _ _ => return .ok ()⟩
        options := { Options.usual with callTimeout := limit }
        clock := fun _ => ⟨0, 0⟩
        pageBudget := 5 }
    let three : Scan := ⟨[⟨"-", "0"⟩, ⟨"w", "1"⟩, ⟨"x", "2"⟩], some (repeatedToken c.role "x")⟩
    let two : Scan := ⟨[⟨"-", "0"⟩, ⟨"w", "1"⟩], some .timeout⟩
    ((p 50).scan c).Ends 0 0 three 60 3 ∧ ((p 30).scan c).Ends 0 0 two 50 3 ∧
      (∃ calls, Collection (p 50) c none 0 0 calls three 60 3 ∧
        ((p 50).noted.scan c).Ends 0 ⟨[], 0⟩ three 60
          ⟨calls.map fun call => .page c call.token, 3⟩) ∧
      ∃ calls, Collection (p 30) c none 0 0 calls two 50 3 ∧
        ((p 30).noted.scan c).Ends 0 ⟨[], 0⟩ two 50
          ⟨calls.map fun call => .page c call.token, 3⟩ := by
  intro c p three two
  have hthree : ((p 50).scan c).Ends 0 0 three 60 3 := ⟨[], rfl⟩
  have htwo : ((p 30).scan c).Ends 0 0 two 50 3 := ⟨[], rfl⟩
  exact ⟨hthree, htwo, scan_collects (p 50) c hthree, scan_collects (p 30) c htwo⟩

end GatewayDirectory.Sync
