import GatewayDirectory.Proofs.Sync.Conservation
import GatewayDirectory.Proofs.Sync.Paging

/-!
# Failures stay with their credential

Let the accounts and the pages that a propagator gets be those of a `Supply`: what is answered to a
credential and a page token, and nothing else, decides them. Then what a credential offers to the
sink is decided too (`Supply.Offers.unique`), whatever the sink and the other credentials do, and a
cycle over two lists of credentials is a cycle over the first one and then over the second. This
holds of credentials whose tokens do not lead on for ever; a cycle never gets past one of the others
(`Propagator.Steady.scanFrom_stalls`).
-/

namespace GatewayDirectory.Sync

open Propagator (AfterPage afterPage)

/-! ## What a scan comes to, page by page -/

section Walks

variable {c : Credential} {answer : Answering} {token : Option String}
  {asked : List (Option String)} {found stopped : Propagator.Scan} {items : List Item}
  {next : String}

/-- A page that is cut off is like one that cannot be had. -/
theorem afterPage_getD (c : Credential) (token : Option String)
    (o : Option (Except InventoryError Page)) :
    afterPage c token (some (o.getD (.error .timeout))) = afterPage c token o := by
  cases o <;> rfl

/-- A page at which a scan ends is a walk. -/
theorem Walk.of_ends (h : afterPage c token (some (answer token)) = .ends found) :
    Walk c.role answer token [token] found := by
  cases hanswer : answer token with
  | error e =>
    rw [hanswer] at h
    cases h
    exact .failed hanswer
  | ok page =>
    simp only [hanswer, afterPage] at h
    cases hnext : page.next with
    | none =>
      rw [hnext] at h
      cases h
      exact .last hanswer hnext
    | some next =>
      simp only [hnext] at h
      by_cases hself : token = some next
      · subst hself
        rw [if_pos rfl] at h
        cases h
        exact .repeated hanswer hnext
      · rw [if_neg hself] at h
        cases h

/-- A page that leads on to a walk makes it a longer walk. -/
theorem Walk.of_goesOn (h : afterPage c token (some (answer token)) = .goesOn items next)
    (rest : Walk c.role answer (some next) asked found) :
    Walk c.role answer token (token :: asked) { found with items := items ++ found.items } := by
  cases hanswer : answer token with
  | error e =>
    rw [hanswer] at h
    cases h
  | ok page =>
    simp only [hanswer, afterPage] at h
    cases hnext : page.next with
    | none =>
      rw [hnext] at h
      cases h
    | some after =>
      simp only [hnext] at h
      by_cases hself : token = some after
      · rw [if_pos hself] at h
        cases h
      · rw [if_neg hself] at h
        cases h
        exact .more hanswer hnext hself rest

/-- A walk is over with its first page, or goes on as the walk that this one leads on to. -/
theorem Walk.afterPage_cases (h : Walk c.role answer token asked found) :
    (afterPage c token (some (answer token)) = .ends found ∧ asked = [token]) ∨
      ∃ items next rest found', afterPage c token (some (answer token)) = .goesOn items next ∧
        Walk c.role answer (some next) rest found' ∧ asked = token :: rest ∧
        found = { found' with items := items ++ found'.items } := by
  cases h with
  | failed hanswer =>
    refine .inl ⟨?_, rfl⟩
    rw [hanswer]
    rfl
  | last hanswer hnext =>
    refine .inl ⟨?_, rfl⟩
    rw [hanswer]
    simp only [afterPage, hnext]
  | repeated hanswer hnext =>
    refine .inl ⟨?_, rfl⟩
    rw [hanswer]
    simp only [afterPage, hnext, if_true]
    rfl
  | @more _ page next rest found' hanswer hnext hne hrest =>
    refine .inr ⟨page.items, next, rest, found', ?_, hrest, rfl, rfl⟩
    rw [hanswer]
    simp only [afterPage, hnext, hne, if_false]

/-- **There is one walk from a token.** -/
theorem Walk.unique {asked' : List (Option String)} {found' : Propagator.Scan}
    (h : Walk c.role answer token asked found) (h' : Walk c.role answer token asked' found') :
    found = found' := by
  -- along the pages asked for; `afterPage` is a function, so that the walks part nowhere
  induction asked generalizing token found asked' found' with
  | nil => cases h
  | cons first asked ih =>
    rcases h.afterPage_cases with ⟨hends, -⟩ | ⟨items, next, rest, tail, hgoes, hrest, hasked, rfl⟩
    · rcases h'.afterPage_cases with ⟨hends', -⟩ | ⟨items', next', rest', tail', hgoes', -⟩
      · rw [hends] at hends'
        exact AfterPage.ends.inj hends'
      · rw [hends] at hgoes'
        cases hgoes'
    · rcases h'.afterPage_cases with
        ⟨hends', -⟩ | ⟨items', next', rest', tail', hgoes', hrest', -, rfl⟩
      · rw [hgoes] at hends'
        cases hends'
      · rw [hgoes] at hgoes'
        obtain ⟨rfl, rfl⟩ := AfterPage.goesOn.inj hgoes'
        obtain ⟨rfl, rfl⟩ := List.cons.inj hasked
        rw [ih hrest hrest']

end Walks

/-! ## What a credential offers -/

/-- The account of each credential and its pages; none where a call is cut off. -/
structure Supply where
  account : Credential → Option (Except AccountError String)
  page : Credential → Option String → Option (Except InventoryError Page)

namespace Supply

variable {d : Supply} {c : Credential} {items items' : List SyncItem}

/-- What a scan makes of the pages of a credential: a page that is cut off is an error. -/
def answering (d : Supply) (c : Credential) : Answering :=
  fun token => (d.page c token).getD (.error .timeout)

/-- The account of the credential is found, and its tokens lead a scan on for ever. -/
def Endless (d : Supply) (c : Credential) : Prop :=
  (∃ account, d.account c = some (.ok account)) ∧
    ¬ ∃ asked found, Walk c.role (d.answering c) none asked found

/-- The items to save of a credential: none if its account is not known. -/
inductive Offers (d : Supply) (c : Credential) : List SyncItem → Prop
  | unknown {line : String} (hline : unknownAccount c (d.account c) = some line) : Offers d c []
  | scanned {account : String} {asked : List (Option String)} {found : Propagator.Scan}
    (haccount : d.account c = some (.ok account))
    (hwalk : Walk c.role (d.answering c) none asked found) :
    Offers d c (itemsOf c account found.items)

/-- **What a credential offers is decided by its account and its pages.** -/
theorem Offers.unique (h : d.Offers c items) (h' : d.Offers c items') : items = items' := by
  cases h with
  | unknown hline =>
    cases h' with
    | unknown hline' => rfl
    | scanned haccount hwalk =>
      rw [haccount] at hline
      cases hline
  | scanned haccount hwalk =>
    cases h' with
    | unknown hline =>
      rw [haccount] at hline
      cases hline
    | scanned haccount' hwalk' =>
      rw [haccount] at haccount'
      cases haccount'
      rw [hwalk.unique hwalk']

/-- There is one list of items for each credential that offers any. -/
theorem exists_offered (d : Supply) :
    ∃ offered : Credential → List SyncItem, ∀ c items, d.Offers c items → items = offered c := by
  have hone (c : Credential) : ∃ offered, ∀ items, d.Offers c items → items = offered := by
    -- a credential whose tokens lead on for ever offers nothing; any list will do for it
    by_cases h : ∃ items, d.Offers c items
    · obtain ⟨items, hitems⟩ := h
      exact ⟨items, fun items' h' => h'.unique hitems⟩
    · exact ⟨[], fun items hitems => absurd ⟨items, hitems⟩ h⟩
  choose offered hoffered using hone
  exact ⟨offered, hoffered⟩

end Supply

/-! ## Propagators with a steady supply -/

namespace Propagator

/-- Every call settles, and the accounts and pages that are answered within the limit of a call are
those of the supply, whatever happened before. -/
structure Steady {σ : Type} (p : Propagator σ) (d : Supply) : Prop extends p.Settled where
  account_eq : ∀ c t s o t' s',
    (Timed.bounded p.options.callTimeout (p.accounts c)).Ends t s o t' s' → o = d.account c
  page_eq : ∀ c token t s o t' s',
    (Timed.bounded p.options.callTimeout (p.inventory c token)).Ends t s o t' s' →
      o = d.page c token

namespace Steady

section Runs

variable {σ : Type} {p : Propagator σ} {d : Supply} {c : Credential} {token : Option String}
  {asked : List (Option String)} {found : Scan} {budget t t' : Nat} {s s' : σ}

/-- A call for a page ends with what the supply has. -/
theorem page_ends (hp : p.Steady d) (c : Credential) (token : Option String) (t : Nat) (s : σ) :
    ∃ o t' s', (Timed.bounded p.options.callTimeout (p.inventory c token)).Ends t s o t' s' ∧
      afterPage c token o = afterPage c token (some (d.answering c token)) := by
  obtain ⟨o, t', s', hcall, -⟩ := (hp.pages c token).ends_bounded p.options.callTimeout t s
  refine ⟨o, t', s', hcall, ?_⟩
  rw [hp.page_eq c token t s o t' s' hcall, Supply.answering, afterPage_getD]

/-- Where there is a walk, a scan ends with what it finds. -/
theorem scanFrom_ends (hp : p.Steady d) (h : Walk c.role (d.answering c) token asked found)
    (hbudget : asked.length ≤ budget) (t : Nat) (s : σ) :
    ∃ t' s', (p.scanFrom c budget token).Ends t s found t' s' := by
  -- along the walk: a page for each call, for which the bound has room
  induction asked generalizing token found budget t s with
  | nil => cases h
  | cons first asked ih =>
    obtain ⟨budget, rfl⟩ := Nat.exists_eq_add_of_le' hbudget
    obtain ⟨o, t₁, s₁, hcall, ho⟩ := hp.page_ends c token t s
    rcases h.afterPage_cases with ⟨hends, -⟩ | ⟨items, next, rest, tail, hgoes, hrest, hasked, rfl⟩
    · exact ⟨t₁, s₁, scanFrom_stops hcall (ho.trans hends) _⟩
    · obtain ⟨rfl, rfl⟩ := List.cons.inj hasked
      obtain ⟨t', s', htail⟩ := ih hrest (Nat.le_add_left _ budget) t₁ s₁
      exact ⟨t', s', scanFrom_goesOn hcall (ho.trans hgoes) htail⟩

/-- A scan that ends was a walk. -/
theorem walk_of_ends (hp : p.Steady d) (h : (p.scanFrom c budget token).Ends t s found t' s') :
    ∃ asked, Walk c.role (d.answering c) token asked found := by
  -- along the bound, page by page, as the scan goes
  induction budget generalizing token t s found with
  | zero =>
    obtain ⟨events, hevents⟩ := h
    cases hevents
  | succ budget ih =>
    obtain ⟨o, t₁, s₁, hcall, hend⟩ := scanFrom_cases h
    -- what the call gave is what the supply has, whenever it was made
    have ho : afterPage c token o = afterPage c token (some (d.answering c token)) := by
      rw [hp.page_eq c token t s o t₁ s₁ hcall, Supply.answering, afterPage_getD]
    rcases hend with ⟨hends, -, -⟩ | ⟨items, next, rest, hgoes, hrest, rfl⟩
    · exact ⟨_, .of_ends (ho ▸ hends)⟩
    · obtain ⟨asked, hwalk⟩ := ih hrest
      exact ⟨_, .of_goesOn (ho ▸ hgoes) hwalk⟩

/-- The scans of a credential end unless its tokens lead on for ever. -/
theorem scanEnds (hp : p.Steady d) (hc : ¬ d.Endless c) : p.ScanEnds c := by
  intro account t s t₁ s₁ hlookup
  have haccount := hp.account_eq c t s _ t₁ s₁ hlookup
  obtain ⟨asked, found, hwalk⟩ : ∃ asked found, Walk c.role (d.answering c) none asked found := by
    -- without a walk the tokens would lead on for ever
    by_contra hnone
    exact hc ⟨⟨account, haccount.symm⟩, hnone⟩
  obtain ⟨t', s', hends⟩ := hp.scanFrom_ends hwalk (Nat.le_refl _) t₁ s₁
  refine ⟨asked.length, ?_⟩
  rw [scan_allowing, hends.ending_run]
  exact nofun

/-- **The efforts of a visit are for what the credential offers.** -/
theorem offers (hp : p.Steady d) {v : Visit} (h : p.Visits c t s v t' s') :
    d.Offers c (v.efforts.map (·.item)) := by
  cases h with
  | unknown hlookup hline =>
    rw [hp.account_eq c t s _ _ _ hlookup] at hline
    exact .unknown hline
  | scanned hlookup hscan hsaves =>
    obtain ⟨asked, hwalk⟩ := hp.walk_of_ends hscan
    rw [hsaves.items_eq]
    exact .scanned (hp.account_eq c t s _ _ _ hlookup).symm hwalk

/-- The visits of a cycle are for what their credentials offer. -/
theorem offered_all (hp : p.Steady d) {offered : Credential → List SyncItem}
    (hoffered : ∀ c items, d.Offers c items → items = offered c) {credentials : List Credential}
    {visits : List Visit} (h : p.VisitsAll credentials t s visits t' s') :
    visits.map (fun v => v.efforts.map (·.item)) = credentials.map offered := by
  induction h with
  | nil => rfl
  | cons first rest ih => rw [List.map_cons, List.map_cons, ih, hoffered _ _ (hp.offers first)]

/-- The bound on pages has no part in the supply. -/
theorem allowing (hp : p.Steady d) (budget : Nat) : (p.allowing budget).Steady d :=
  ⟨⟨hp.accounts, hp.pages, hp.saves⟩, hp.account_eq, hp.page_eq⟩

end Runs

section Stalls

variable {ω : Type} {p : Propagator ω} {d : Supply} {c : Credential}

/-- A propagator with notes has the same supply. -/
theorem noted (hp : p.Steady d) : p.noted.Steady d where
  toSettled := hp.toSettled.noted
  account_eq c t _ o t' _ h :=
    hp.account_eq c t _ o t' _ ((p.noted_alike.accounts _ c).ends h)
  page_eq c token t _ o t' _ h :=
    hp.page_eq c token t _ o t' _ ((p.noted_alike.pages _ c token).ends h)

/-- **Without a walk a scan asks for pages for as long as it may**, and for nothing else. -/
theorem scanFrom_stalls (hp : p.Steady d) {token : Option String}
    (hnone : ¬ ∃ asked found, Walk c.role (d.answering c) token asked found) (budget t : Nat)
    (l : Ledger ω) :
    ∃ (asked : List (Option String)) (w' : ω), asked.length = budget ∧
      (p.noted.scanFrom c budget token).Stalls t l ⟨l.contacts ++ asked.map (.page c), w'⟩ := by
  -- along the bound: a page at which the scan ended would be a walk
  induction budget generalizing token t l with
  | zero => exact ⟨[], l.outside, rfl, rfl, by rw [List.map_nil, List.append_nil]; rfl⟩
  | succ budget ih =>
    obtain ⟨o, t₁, l₁, hcall, ho⟩ := hp.noted.page_ends c token t l
    have hnoted := Ledger.contacts_of_noting hcall
    cases hafter : afterPage c token (some (d.answering c token)) with
    | ends found => exact absurd ⟨_, _, .of_ends hafter⟩ hnone
    | goesOn items next =>
      have hrest : ¬ ∃ asked found, Walk c.role (d.answering c) (some next) asked found := by
        rintro ⟨asked, found, hwalk⟩
        exact hnone ⟨_, _, .of_goesOn hafter hwalk⟩
      obtain ⟨asked, w', hlength, hstalls⟩ := ih hrest t₁ l₁
      refine ⟨token :: asked, w', congrArg Nat.succ hlength, ?_⟩
      rw [hnoted, List.append_assoc] at hstalls
      exact Propagator.scanFrom_stalls hcall (ho.trans hafter) hstalls

/-- A credential whose tokens lead on for ever is never done with. -/
theorem propagate_stalls (hp : p.Steady d) (hc : d.Endless c) (t : Nat) (l : Ledger ω) :
    ∃ (asked : List (Option String)) (w' : ω), asked.length = p.pageBudget ∧
      (p.noted.propagate c).Stalls t l ⟨l.contacts ++ .account c :: asked.map (.page c), w'⟩ := by
  -- the account is found, so that the scan begins, and this is where it stays
  obtain ⟨⟨account, haccount⟩, hnone⟩ := hc
  obtain ⟨answer, t₁, l₁, hlookup, -⟩ :=
    (hp.noted.accounts c).ends_bounded p.options.callTimeout t l
  have hnoted := Ledger.contacts_of_noting hlookup
  obtain rfl := (hp.noted.account_eq c t l _ t₁ l₁ hlookup).trans haccount
  obtain ⟨asked, w', hlength, hstalls⟩ := hp.scanFrom_stalls hnone p.pageBudget t₁ l₁
  rw [hnoted, List.append_assoc] at hstalls
  refine ⟨asked, w', hlength, hlookup.stalls ?_⟩
  exact .reported _ (hstalls.bind _)

end Stalls

end Steady

/-- What comes after a credential that is never done with is never reached. -/
theorem VisitsAll.stalls {σ : Type} {p : Propagator σ} {before after : List Credential}
    {c : Credential} {visits : List Visit} {t t₁ : Nat} {s s₁ s' : σ}
    (h : p.VisitsAll before t s visits t₁ s₁) (hc : (p.propagate c).Stalls t₁ s₁ s') :
    (p.runCycle (before ++ c :: after)).Stalls t s s' := by
  -- along the visits before it, each of which ends where the next one begins
  have hall : (p.propagateAll (before ++ c :: after)).Stalls t s s' := by
    induction h with
    | nil => exact hc.bind _
    | cons first rest ih => exact first.ends.stalls ((ih hc).bind _)
  refine ((Timed.Answers.read _ s).ends t).stalls ?_
  exact .reported _ (hall.bind _)

end Propagator

/-! ## Cycles over lists of credentials -/

/-- **What a credential offers, and what becomes of it, is not up to the others.** Let the accounts
and the pages that are answered depend on nothing but the credential and the page token. Then there
is one list of items for each credential that every run offers to the sink for it, in this order and
each item at least once, whatever the sink answers and whatever the other credentials are. A cycle
over two lists makes the calls of a cycle over the first, then those of one over the second from the
state that was left, and its report is the sum of theirs. All this holds of credentials whose tokens
come to an end; a credential whose tokens lead on for ever is never done with, and nothing of those
after it is ever asked for or saved. -/
theorem failures_stay_with_credential (d : Supply) :
    ∃ offered : Credential → List SyncItem, ∀ {ω : Type} (p : Propagator ω), p.Steady d →
      (∀ budget credentials t w r, (p.allowing budget).RunsAs credentials t w r →
        r.visits.map (fun v => v.efforts.map (·.item)) = credentials.map offered ∧
        (p.options.dryRun = false →
          SinkLaw p.options.retry r.visits r.report (r.contacts.filterMap Contact.saved?))) ∧
      (∀ cs ds t w, (∀ c ∈ cs ++ ds, ¬ d.Endless c) →
        ∃ enough r q, ∀ budget, enough ≤ budget →
          (p.allowing budget).RunsAs cs t w r ∧
          (p.allowing budget).RunsAs ds r.time r.outside q ∧
          (p.allowing budget).RunsAs (cs ++ ds) t w (r.append q)) ∧
      (∀ before c after t w, (∀ b ∈ before, ¬ d.Endless b) → d.Endless c →
        ∃ enough r, ∀ budget, enough ≤ budget →
          (p.allowing budget).RunsAs before t w r ∧
          ∃ (asked : List (Option String)) (w' : ω), asked.length = budget ∧
            ((p.allowing budget).noted.runCycle (before ++ c :: after)).Stalls t ⟨[], w⟩
              ⟨r.contacts ++ .account c :: asked.map (.page c), w'⟩) := by
  obtain ⟨offered, hoffered⟩ := d.exists_offered
  refine ⟨offered, fun {ω} p hp => ⟨?_, ?_, ?_⟩⟩
  · intro budget credentials t w r hrun
    have hsink := sinkLaw_of_runsAs hrun
    exact ⟨(hp.allowing budget).noted.offered_all hoffered hrun.visits, hsink⟩
  · intro cs ds t w hends
    have hscans (c : Credential) (hc : c ∈ cs ++ ds) : p.ScanEnds c := hp.scanEnds (hends c hc)
    obtain ⟨enough₁, r, hfirst⟩ := Propagator.exists_runsAs hp.toSettled
      (fun c hc => hscans c (List.mem_append_left ds hc)) t w
    obtain ⟨enough₂, q, hsecond⟩ := Propagator.exists_runsAs hp.toSettled
      (fun c hc => hscans c (List.mem_append_right cs hc)) r.time r.outside
    -- the second cycle starts from what the first one left
    refine ⟨max enough₁ enough₂, r, q, fun budget hbudget => ?_⟩
    have hr := hfirst budget (Nat.le_trans (Nat.le_max_left _ _) hbudget)
    have hq := hsecond budget (Nat.le_trans (Nat.le_max_right _ _) hbudget)
    exact ⟨hr, hq, hr.append hq⟩
  · intro before c after t w hends hc
    obtain ⟨enough, r, hruns⟩ := Propagator.exists_runsAs hp.toSettled
      (fun b hb => hp.scanEnds (hends b hb)) t w
    refine ⟨enough, r, fun budget hbudget => ?_⟩
    have hrun := hruns budget hbudget
    obtain ⟨asked, w', hlength, hstalls⟩ :=
      (hp.allowing budget).propagate_stalls hc r.time ⟨r.contacts, r.outside⟩
    exact ⟨hrun, asked, w', hlength, hrun.visits.stalls hstalls⟩

/-- The answer that is supplied, at once; a call without one hangs. -/
def supplied {α : Type} : Option α → Timed Nat α
  | some answer => return answer
  | none => .hang

/-- A supplied answer comes at once or never. -/
theorem supplied_settles {α : Type} (answer : Option α) : (supplied answer).Settles := by
  intro t saves
  cases answer <;> exact nofun

/-- What comes of a supplied answer under a limit is that answer. -/
theorem eq_of_supplied_ends {α : Type} {answer o : Option α} {limit t t' saves saves' : Nat}
    (h : (Timed.bounded limit (supplied answer)).Ends t saves o t' saves') : o = answer := by
  cases answer with
  | some a => exact (h.unique (((Timed.Answers.pure a saves).bounded limit).ends t)).1
  | none => exact (h.unique ⟨[], rfl⟩).1

/-- A propagator whose accounts and pages are those of a supply, at once, and whose sink refuses
every other save. -/
def Supply.served (d : Supply) : Propagator Nat where
  accounts c := supplied (d.account c)
  inventory c token := supplied (d.page c token)
  sink := ⟨.queue, fun _ _ _ => Timed.update fun saves =>
    (if saves % 2 = 0 then .error (.transport "busy") else .ok (), saves + 1)⟩
  options := .usual
  clock _ := ⟨0, 0⟩
  pageBudget := 0

/-- The propagator that a supply serves has that supply. -/
theorem Supply.steady_served (d : Supply) : d.served.Steady d where
  accounts c := supplied_settles (d.account c)
  pages c token := supplied_settles (d.page c token)
  saves _ _ _ _ _ := nofun
  account_eq _ _ _ _ _ _ h := eq_of_supplied_ends h
  page_eq _ _ _ _ _ _ _ h := eq_of_supplied_ends h

/-- A supply in which one role has a single page, and in which the tokens of every other role go
round. -/
def Supply.turning : Supply where
  account _ := some (.ok "1")
  page c token :=
    if c.role = "plain" then some (.ok ⟨[⟨"a", "1"⟩], none⟩)
    else some (.ok ⟨[⟨"b", "2"⟩], some (if token = some "x" then "y" else "x")⟩)

/-- A cycle gets past the role that has a single page, and not past the other one. -/
theorem failures_stay_with_credential_of_turning :
    let d := Supply.turning
    let p := d.served
    let plain : Credential := ⟨"plain", "eu", none, none, .empty⟩
    let round : Credential := ⟨"round", "eu", none, none, .empty⟩
    p.Steady d ∧ ¬ d.Endless plain ∧ d.Endless round ∧
      ∃ offered : Credential → List SyncItem,
        (∀ budget r, (p.allowing budget).RunsAs [plain] 0 0 r →
          r.visits.map (fun v => v.efforts.map (·.item)) = [offered plain]) ∧
        (∃ enough r q, ∀ budget, enough ≤ budget →
          (p.allowing budget).RunsAs [plain] 0 0 r ∧
          (p.allowing budget).RunsAs [plain] r.time r.outside q ∧
          (p.allowing budget).RunsAs ([plain] ++ [plain]) 0 0 (r.append q)) ∧
        ∃ enough r, ∀ budget, enough ≤ budget →
          (p.allowing budget).RunsAs [plain] 0 0 r ∧
          ∃ (asked : List (Option String)) (w' : Nat), asked.length = budget ∧
            ((p.allowing budget).noted.runCycle ([plain] ++ round :: [plain])).Stalls 0 ⟨[], 0⟩
              ⟨r.contacts ++ .account round :: asked.map (.page round), w'⟩ := by
  intro d p plain round
  have hsteady : p.Steady d := d.steady_served
  have hplain : ¬ d.Endless plain := by
    rintro ⟨-, hnone⟩
    have hanswer : d.answering plain none = .ok ⟨[⟨"a", "1"⟩], none⟩ := rfl
    exact hnone ⟨_, _, .last hanswer rfl⟩
  have hround : d.Endless round := by
    refine ⟨⟨"1", rfl⟩, ?_⟩
    rintro ⟨asked, found, hwalk⟩
    have hto (token next : Option String) (h : next = some (if token = some "x" then "y" else "x"))
        (hne : token ≠ next) : Leads (d.answering round) token next :=
      ⟨⟨[⟨"b", "2"⟩], next⟩, by rw [h]; rfl, rfl, by rw [h]; exact nofun, hne⟩
    -- after the first page the tokens are x, y, x and so on
    obtain ⟨rest, found', -, hwalk', -⟩ := hwalk.of_leads (hto none (some "x") rfl nofun)
    exact hwalk'.not_transGen (.tail (.single (hto _ (some "y") rfl (by decide)))
      (hto _ (some "x") rfl (by decide)))
  refine ⟨hsteady, hplain, hround, ?_⟩
  obtain ⟨offered, hlaws⟩ := failures_stay_with_credential d
  obtain ⟨hoffered, happend, hstalls⟩ := hlaws p hsteady
  have hends (c : Credential) (hc : c ∈ [plain]) : ¬ d.Endless c := by
    obtain rfl := List.mem_singleton.1 hc
    exact hplain
  refine ⟨offered, fun budget r hrun => (hoffered budget [plain] 0 0 r hrun).1, ?_, ?_⟩
  · refine happend [plain] [plain] 0 0 fun c hc => ?_
    exact hends c ((List.mem_append.1 hc).elim id id)
  · exact hstalls [plain] round [plain] 0 0 hends hround

end GatewayDirectory.Sync
