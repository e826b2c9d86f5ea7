import GatewayDirectory.Proofs.Sync.Independence
import GatewayDirectory.Proofs.Sync.Listing

/-!
# What is offered of a listing that is fetched in part

The pages of a credential hold its full listing, as those of a `Listing` do whatever their size
(`Listing.exists_walk`), and any call for one of them may fail or take too long
(`Propagator.Lists`). A scan reads the pages before the first call that fails (`Reads`), and
whether a name is ambiguous is told by these pages alone. So no name that they hold twice is offered
to the sink. A name that only the full listing holds twice is offered, but then the credential is
reported with a scan error (`Visit.OffersOf`).
-/

namespace GatewayDirectory.Sync

open Propagator (Scan afterPage scanFrom_stops scanFrom_goesOn)

/-! ## What a scan reads -/

/-- The items of the pages that some tokens name, in order. -/
def itemsAt (answer : Answering) (asked : List (Option String)) : List Item :=
  asked.flatMap fun token =>
    match answer token with
    | .ok page => page.items
    | .error _ => []

section Reading

variable {role : String} {answer : Answering} {token : Option String}
  {asked : List (Option String)} {found full : Scan} {items : List Item}
  {fails : Option String → InventoryError → Prop} {page : Page}

/-- The items of a page come before those of the pages behind it. -/
theorem itemsAt_cons (hanswer : answer token = .ok page) :
    itemsAt answer (token :: asked) = page.items ++ itemsAt answer asked := by
  simp only [itemsAt, List.flatMap_cons, hanswer]

/-- A walk finds the items of the pages that it asks for. -/
theorem Walk.items_eq (h : Walk role answer token asked found) :
    found.items = itemsAt answer asked := by
  -- along the walk: only the page at its end may be an error, and that one has no items
  induction h with
  | failed hanswer => simp only [itemsAt, List.flatMap_singleton, hanswer]
  | last hanswer hnext => simp only [itemsAt, List.flatMap_singleton, hanswer]
  | repeated hanswer hnext => simp only [itemsAt, List.flatMap_singleton, hanswer]
  | more hanswer hnext hne rest ih => rw [itemsAt_cons hanswer, ← ih]

/-- What a scan finds of a full listing whose pages have the tokens `asked`. -/
inductive Reads (fails : Option String → InventoryError → Prop) (answer : Answering)
    (asked : List (Option String)) (items : List Item) : Scan → Prop
  /-- No call fails. -/
  | all : Reads fails answer asked items ⟨items, none⟩
  /-- The call after the first `fetched` ones fails. -/
  | cut {fetched : Nat} {token : Option String} {e : InventoryError}
    (htoken : asked[fetched]? = some token) (hfails : fails token e) :
    Reads fails answer asked items ⟨itemsAt answer (asked.take fetched), some e⟩

namespace Reads

/-- Nothing is read if the first call fails. -/
theorem nothing {e : InventoryError} (hfails : fails token e) :
    Reads fails answer (token :: asked) items ⟨[], some e⟩ := by
  have htoken : (token :: asked)[0]? = some token := rfl
  exact .cut htoken hfails

/-- A page that arrives comes before what is read of the others. -/
theorem more (hanswer : answer token = .ok page) (h : Reads fails answer asked items found) :
    Reads fails answer (token :: asked) (page.items ++ items)
      { found with items := page.items ++ found.items } := by
  cases h with
  | all => exact .all
  | @cut fetched next e htoken hfails =>
    have hnext : (token :: asked)[fetched + 1]? = some next := htoken
    rw [← itemsAt_cons hanswer, ← List.take_succ_cons]
    exact .cut hnext hfails

/-- What is read is the beginning of the full listing. -/
theorem begins (h : Reads fails answer asked items found) (hitems : items = itemsAt answer asked) :
    found.items <+: items := by
  cases h with
  | all => exact List.prefix_rfl
  | @cut fetched token e htoken hfails =>
    -- the rest of the listing is on the pages behind the one that failed
    refine ⟨itemsAt answer (asked.drop fetched), ?_⟩
    rw [itemsAt, itemsAt, ← List.flatMap_append, List.take_append_drop]
    exact hitems.symm

end Reads

end Reading

/-! ## Scans whose calls may fail -/

namespace Propagator

section Scans

variable {σ : Type} {p : Propagator σ} {c : Credential} {answer : Answering}
  {token : Option String} {asked : List (Option String)} {found full : Scan} {t t' : Nat}
  {s s' : σ}

/-- A call for a page of the credential fails with that error. One that takes too long fails as
timed out. -/
def FailsAt (p : Propagator σ) (c : Credential) (token : Option String) (e : InventoryError) :
    Prop :=
  ∃ t s o t' s', (Timed.bounded p.options.callTimeout (p.inventory c token)).Ends t s o t' s' ∧
    o.getD (.error .timeout) = .error e

/-- Each call for a page of the credential gets the page that the source has, or fails. Which calls
fail is left open. -/
def Lists (p : Propagator σ) (c : Credential) (answer : Answering) : Prop :=
  ∀ token t s o t' s',
    (Timed.bounded p.options.callTimeout (p.inventory c token)).Ends t s o t' s' →
    o = some (answer token) ∨ ∃ e, o.getD (.error .timeout) = .error e

/-- A scan that asks for a page goes on as the source has it, or ends there because the call
fails. -/
theorem Lists.page_ends (hlists : p.Lists c answer) (hp : p.Settled) (token : Option String)
    (t : Nat) (s : σ) :
    ∃ o t' s', (Timed.bounded p.options.callTimeout (p.inventory c token)).Ends t s o t' s' ∧
      (o = some (answer token) ∨
        ∃ e, p.FailsAt c token e ∧ afterPage c token o = .ends ⟨[], some e⟩) := by
  obtain ⟨o, t', s', hcall, -⟩ := (hp.pages c token).ends_bounded p.options.callTimeout t s
  refine ⟨o, t', s', hcall, ?_⟩
  -- a call that is cut off is told as a timeout
  rcases hlists token t s o t' s' hcall with ho | ⟨e, he⟩
  · exact .inl ho
  · refine .inr ⟨e, ⟨t, s, o, t', s', hcall, he⟩, ?_⟩
    rw [← afterPage_getD, he]
    rfl

/-- Where there is a full walk, the scan ends and has read the pages before the first call that
fails. -/
theorem Lists.exists_scanFrom (hlists : p.Lists c answer) (hp : p.Settled)
    (h : Walk c.role answer token asked full) (hfull : full.error = none) (t : Nat) (s : σ) :
    ∃ found t' s', (p.scanFrom c asked.length token).Ends t s found t' s' ∧
      Reads (p.FailsAt c) answer asked full.items found := by
  -- page by page: what was read before is the same whether a later call fails or not
  induction h generalizing t s with
  | failed hanswer => cases hfull
  | repeated hanswer hnext => cases hfull
  | @last token page hanswer hnext =>
    obtain ⟨o, t₁, s₁, hcall, rfl | ⟨e, hfails, hstops⟩⟩ := hlists.page_ends hp token t s
    · have hstops : afterPage c token (some (answer token)) = .ends ⟨page.items, none⟩ := by
        simp only [hanswer, afterPage, hnext]
      exact ⟨_, t₁, s₁, scanFrom_stops hcall hstops 0, .all⟩
    · exact ⟨_, t₁, s₁, scanFrom_stops hcall hstops 0, .nothing hfails⟩
  | @more token page next asked full hanswer hnext hne rest ih =>
    obtain ⟨o, t₁, s₁, hcall, rfl | ⟨e, hfails, hstops⟩⟩ := hlists.page_ends hp token t s
    · have hgoes : afterPage c token (some (answer token)) = .goesOn page.items next := by
        simp only [hanswer, afterPage, hnext, hne, if_false]
      obtain ⟨found, t', s', hends, hreads⟩ := ih hfull t₁ s₁
      exact ⟨_, t', s', scanFrom_goesOn hcall hgoes hends, hreads.more hanswer⟩
    · exact ⟨_, t₁, s₁, scanFrom_stops hcall hstops asked.length, .nothing hfails⟩

/-- **A scan of a full listing reads the pages before the first call that fails.** -/
theorem Lists.reads (hlists : p.Lists c answer) (hp : p.Settled) {items : List Item}
    (hwalk : Walk c.role answer none asked ⟨items, none⟩) (h : (p.scan c).Ends t s found t' s') :
    Reads (p.FailsAt c) answer asked items found := by
  obtain ⟨found', t₁, s₁, hends, hreads⟩ := hlists.exists_scanFrom hp hwalk rfl t s
  rw [hp.scanFrom_unique h hends]
  exact hreads

/-- A scan of a full listing comes to an end, whichever calls fail. -/
theorem Lists.scanEnds (hlists : p.Lists c answer) (hp : p.Settled) {items : List Item}
    (hwalk : Walk c.role answer none asked ⟨items, none⟩) : p.ScanEnds c := by
  intro account t s t₁ s₁ _
  obtain ⟨found, t', s', hends, -⟩ := hlists.exists_scanFrom hp hwalk rfl t₁ s₁
  refine ⟨asked.length, ?_⟩
  rw [scan_allowing, hends.ending_run]
  exact nofun

end Scans

end Propagator

/-! ## Visits to credentials whose listing is fetched in part -/

namespace Visit

/-- The items whose name the scan of a visit collected once. -/
def kept (v : Visit) : List Item := v.collected.filter fun x => occurrences x.name v.collected == 1

/-- An item is kept if it was collected and is the only one of its name there. -/
theorem mem_kept_iff {v : Visit} {x : Item} :
    x ∈ v.kept ↔ x ∈ v.collected ∧ occurrences x.name v.collected = 1 := by
  rw [kept, List.mem_filter, beq_iff_eq]

/-- What a visit offers of the full listing of its credential, whose pages have the tokens
`asked`. -/
structure OffersOf (v : Visit) (fails : Option String → InventoryError → Prop)
    (answer : Answering) (asked : List (Option String)) (items : List Item) : Prop where
  /-- The visit collects what a scan reads of the listing; nothing if the account is not known. -/
  collected : (v.collected = [] ∧ v.efforts = [] ∧ v.trouble ≠ none) ∨
    ∃ found, Reads fails answer asked items found ∧ v.collected = found.items ∧
      v.trouble = found.error.map (scanFailure v.credential)
  /-- It tries to save the items whose name it collected once, as far as they are accepted. -/
  offered : ∃ account, v.efforts.map (·.item) =
    (v.kept.filterMap (filterRename v.credential)).map (·.keyed account v.credential.region)
  /-- What else the listing has under such a name is on the pages that were not read. -/
  others : ∀ x ∈ v.kept,
    occurrences x.name items = 1 + occurrences x.name (items.drop v.collected.length)
  /-- If nothing went wrong, the name occurs once in the listing. -/
  unambiguous : v.trouble = none → ∀ x ∈ v.kept, occurrences x.name items = 1
  /-- If the name occurs more often, the call for a page failed and is reported. -/
  ambiguous : ∀ x ∈ v.kept, 1 < occurrences x.name items →
    ∃ token ∈ asked, ∃ e, fails token e ∧ v.trouble = some (scanFailure v.credential e)

end Visit

namespace Propagator

section Visits

variable {σ : Type} {p : Propagator σ} {c : Credential}
  {answer : Answering} {asked : List (Option String)} {items : List Item} {v : Visit}
  {t t' : Nat} {s s' : σ}

/-- **A visit offers what is unambiguous in the part of the listing that it read.** -/
theorem Lists.offersOf (hlists : p.Lists c answer) (hp : p.Settled)
    (hwalk : Walk c.role answer none asked ⟨items, none⟩) (h : p.Visits c t s v t' s') :
    v.OffersOf (p.FailsAt c) answer asked items := by
  cases h with
  | @unknown lookup line t' s' hlookup hline =>
    -- nothing was collected, so that nothing is kept
    have hnone (x : Item) : x ∉ Visit.kept ⟨c, some line, [], []⟩ := List.not_mem_nil
    exact
      { collected := .inl ⟨rfl, rfl, nofun⟩
        offered := ⟨"", rfl⟩
        others := fun x hx => absurd hx (hnone x)
        unambiguous := nofun
        ambiguous := fun x hx => absurd hx (hnone x) }
  | @scanned account found efforts t₁ t₂ t' s₁ s₂ s' hlookup hscan hsaves =>
    have hreads := hlists.reads hp hwalk hscan
    have hsplit := List.prefix_iff_eq_append.1 (hreads.begins hwalk.items_eq)
    have hcount (x : Item) (hx : x ∈ Visit.kept ⟨c, found.error.map (scanFailure c), found.items,
        efforts⟩) : occurrences x.name items =
          1 + occurrences x.name (items.drop found.items.length) := by
      have honce : occurrences x.name found.items = 1 := (Visit.mem_kept_iff.1 hx).2
      -- what was read and what was not make up the listing
      conv_lhs => rw [← hsplit]
      rw [← honce]
      exact List.countP_append
    refine
      { collected := .inr ⟨found, hreads, rfl, rfl⟩
        offered := ⟨account, ?_⟩
        others := hcount
        unambiguous := ?_
        ambiguous := ?_ }
    · rw [hsaves.items_eq, itemsOf, prepare_eq_filterMap, unique_eq]
      rfl
    · -- without an error every page was read, and what is kept occurs once among them
      intro hfine x hx
      cases hreads with
      | all => exact (Visit.mem_kept_iff.1 hx).2
      | cut htoken hfails => cases hfine
    · -- a name that occurs again does so on a page that was not read, so that a call failed
      intro x hx hmany
      cases hreads with
      | all => exact absurd (Visit.mem_kept_iff.1 hx).2 (Nat.ne_of_gt hmany)
      | cut htoken hfails => exact ⟨_, List.mem_of_getElem? htoken, _, hfails, rfl⟩

end Visits

end Propagator

/-! ## Cycles -/

/-- **What a cycle offers of listings that are fetched in part.** Let the pages of each credential
hold its full listing, whatever their sizes, and let any call for a page fail or take too long. The
cycle ends and visits the credentials in order. Each visit collects the pages before the first call
that fails, all of them if none does, and offers to the sink no name that these pages hold twice.
A name that the full listing holds twice is not offered if nothing went wrong; where it is offered,
only one of its items was fetched, and a page call that failed is reported. The sink is called for
what the visits offer and for nothing else. -/
theorem offers_unambiguous_of_fetched {ω : Type} (p : Propagator ω)
    (credentials : List Credential) (answer : Credential → Answering)
    (asked : Credential → List (Option String)) (items : Credential → List Item) (t : Nat) (w : ω)
    (hcalls : p.Settled) (hlists : ∀ c ∈ credentials, p.Lists c (answer c))
    (hwalks : ∀ c ∈ credentials, Walk c.role (answer c) none (asked c) ⟨items c, none⟩) :
    ∃ enough r, ∀ budget, enough ≤ budget →
      (p.allowing budget).RunsAs credentials t w r ∧
      r.visits.map (·.credential) = credentials ∧
      r.contacts.filterMap Contact.saved? =
        (r.visits.flatMap (·.efforts)).flatMap (fun e => List.replicate e.attempts e.item) ∧
      ∀ v ∈ r.visits, v.OffersOf (p.FailsAt v.credential) (answer v.credential)
        (asked v.credential) (items v.credential) := by
  have hscans : ∀ c ∈ credentials, p.ScanEnds c := by
    intro c hc
    exact (hlists c hc).scanEnds hcalls (hwalks c hc)
  obtain ⟨enough, r, hruns⟩ := Propagator.exists_runsAs hcalls hscans t w
  refine ⟨enough, r, ?_⟩
  intro budget hbudget
  have hrun := hruns budget hbudget
  -- the visits are noted ones; without the notes they are visits of the propagator itself
  have hplain := (p.allowing budget).noted_alike.visitsAll hrun.visits
  have hsettled : (p.allowing budget).Settled := ⟨hcalls.accounts, hcalls.pages, hcalls.saves⟩
  refine ⟨hrun, hrun.visits.credentials_eq, hrun.visits.saves_eq.1, ?_⟩
  intro v hv
  obtain ⟨t₁, w₁, t₂, w₂, hmem, hvisit⟩ := hplain.exists_of_mem hv
  have hlisted : (p.allowing budget).Lists v.credential (answer v.credential) := hlists _ hmem
  exact hlisted.offersOf hsettled (hwalks _ hmem) hvisit

/-- A listing that has one name twice, on two pages. -/
def Listing.doubled : Listing :=
  ⟨.ofList [("arn:aws:iam::1:role/r", [⟨"a", "1"⟩, ⟨"a", "2"⟩])], 1⟩

/-- A propagator of this listing that does not wait long enough for the second page. -/
def Propagator.cutShort : Propagator Unit where
  accounts := .arn
  inventory c token := do
    if token.isSome then Timed.sleep 1000
    return Listing.doubled.page c.role token
  sink := ⟨.direct, fun _ _ _ => return .ok ()⟩
  options := { Options.usual with callTimeout := 50 }
  clock _ := ⟨0, 0⟩
  pageBudget := 2

/-- Every call of this propagator is answered some time. -/
theorem Propagator.settled_cutShort : Propagator.cutShort.Settled where
  accounts c t s := nofun
  pages c token t s := by
    cases token with
    | none => exact nofun
    | some token => exact nofun
  saves key id token t s := nofun

/-- Every call for a page gets the page of the listing, or is cut off. -/
theorem Propagator.lists_cutShort (c : Credential) :
    Propagator.cutShort.Lists c (Listing.doubled.page c.role) := by
  intro token t s o t' s' hcall
  cases token with
  | none => exact .inl (hcall.unique ⟨[], rfl⟩).1
  | some token =>
    obtain ⟨rfl, -⟩ := hcall.unique ⟨[], rfl⟩
    exact .inr ⟨.timeout, rfl⟩

/-- The pages of the listing with one name twice. -/
theorem Listing.walk_doubled :
    Walk "arn:aws:iam::1:role/r" (Listing.doubled.page "arn:aws:iam::1:role/r") none
      [none, some "1"] ⟨[⟨"a", "1"⟩, ⟨"a", "2"⟩], none⟩ := by
  have hfirst : Listing.doubled.page "arn:aws:iam::1:role/r" none =
      .ok ⟨[⟨"a", "1"⟩], some "1"⟩ := by decide +kernel
  have hsecond : Listing.doubled.page "arn:aws:iam::1:role/r" (some "1") =
      .ok ⟨[⟨"a", "2"⟩], none⟩ := by decide +kernel
  exact .more hfirst rfl nofun (.last hsecond rfl)

/-- The name that is twice in the listing is offered by a cycle that gets the first page alone. -/
theorem doubled_name_offered :
    let c : Credential := ⟨"arn:aws:iam::1:role/r", "eu", none, none, .empty⟩
    let p := Propagator.cutShort
    let items : List Item := [⟨"a", "1"⟩, ⟨"a", "2"⟩]
    p.Settled ∧ p.Lists c (Listing.doubled.page c.role) ∧
      Walk c.role (Listing.doubled.page c.role) none [none, some "1"] ⟨items, none⟩ ∧
      occurrences "a" items = 2 ∧
      ∃ report contacts, (p.noted.runCycle [c]).Ends 0 ⟨[], ()⟩ report 50 ⟨contacts, ()⟩ ∧
        contacts.filterMap Contact.saved? = [⟨"1:eu:a", "1", none⟩] ∧
        report.outcome.errors = [c.role ++ ": listing timed out"] := by
  intro c p items
  refine ⟨Propagator.settled_cutShort, Propagator.lists_cutShort c, Listing.walk_doubled, rfl, ?_⟩
  let run := (p.noted.runCycle [c]).run 0 ⟨[], ()⟩
  have hending : run.ending = .value ⟨⟨0, 0⟩, 1, ⟨1, 0, 0, 1, 0, 1,
      [c.role ++ ": listing timed out"]⟩⟩ := by decide +kernel
  have htime : run.time = 50 := by decide +kernel
  have hsaves : run.state.contacts.filterMap Contact.saved? = [⟨"1:eu:a", "1", none⟩] := by
    decide +kernel
  have hends := Timed.Ends.of_ending hending
  rw [htime] at hends
  exact ⟨_, run.state.contacts, hends, hsaves, rfl⟩

/-- The cycle that gets the first page alone. -/
theorem offers_unambiguous_of_cutShort :
    let c : Credential := ⟨"arn:aws:iam::1:role/r", "eu", none, none, .empty⟩
    let p := Propagator.cutShort
    let answer (d : Credential) := Listing.doubled.page d.role
    let items : List Item := [⟨"a", "1"⟩, ⟨"a", "2"⟩]
    p.Settled ∧ (∀ d ∈ [c], p.Lists d (answer d)) ∧
      (∀ d ∈ [c], Walk d.role (answer d) none [none, some "1"] ⟨items, none⟩) ∧
      ∃ enough r, ∀ budget, enough ≤ budget →
        (p.allowing budget).RunsAs [c] 0 () r ∧ r.visits.map (·.credential) = [c] ∧
        r.contacts.filterMap Contact.saved? =
          (r.visits.flatMap (·.efforts)).flatMap (fun e => List.replicate e.attempts e.item) ∧
        ∀ v ∈ r.visits, v.OffersOf (p.FailsAt v.credential) (answer v.credential)
          [none, some "1"] items := by
  intro c p answer items
  have hlists : ∀ d ∈ [c], p.Lists d (answer d) := fun d _ => Propagator.lists_cutShort d
  have hwalks : ∀ d ∈ [c], Walk d.role (answer d) none [none, some "1"] ⟨items, none⟩ := by
    intro d hd
    obtain rfl := List.mem_singleton.1 hd
    exact Listing.walk_doubled
  exact ⟨Propagator.settled_cutShort, hlists, hwalks,
    offers_unambiguous_of_fetched p [c] answer (fun _ => [none, some "1"]) (fun _ => items) 0 ()
      Propagator.settled_cutShort hlists hwalks⟩

end GatewayDirectory.Sync
