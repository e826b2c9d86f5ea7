import GatewayDirectory.Proofs.Sync.Independence
import GatewayDirectory.Proofs.Timed.Reports

/-!
# Dry runs

A dry run does all that a cycle does but the saves, and it foretells the cycle. What a visit finds
before it saves anything (`Visit.findings`) is decided by the supply of the credential
(`Propagator.Steady.findings_eq`), so the visits of both runs find the same. An outcome follows from
the findings but for the division of the items into those saved and those given up
(`Outcome.Foretells`), and the items are what a dry run announces (`VisitsAll.announced`).
-/

namespace GatewayDirectory.Sync

/-! ## What a visit finds -/

/-- What is found for a credential before any item is saved. -/
structure Findings where
  credential : Credential
  trouble : Option String
  collected : List Item
  /-- The items to save. -/
  items : List SyncItem

/-- What the visit finds. -/
def Visit.findings (v : Visit) : Findings :=
  ⟨v.credential, v.trouble, v.collected, v.efforts.map (·.item)⟩

/-- What the findings come to where every item is saved. -/
def Findings.outcome (f : Findings) : Outcome where
  scanned := f.collected.length
  duplicates := (dedup f.collected).duplicates.length
  filtered := (dedup f.collected).unique.countP fun x => (filterRename f.credential x).isNone
  saved := f.items.length
  failed := 0
  scanErrors := f.trouble.toList.length
  errors := f.trouble.toList

/-- An outcome foretells another one that differs from it in nothing but saves that fail. -/
structure Outcome.Foretells (f o : Outcome) : Prop where
  scanned_eq : f.scanned = o.scanned
  duplicates_eq : f.duplicates = o.duplicates
  filtered_eq : f.filtered = o.filtered
  saved_eq : f.saved = o.saved + o.failed
  failed_eq : f.failed = 0
  scanErrors_eq : f.scanErrors = o.scanErrors

/-- What foretells two parts foretells their sum. -/
theorem Outcome.Foretells.add {f f' o o' : Outcome} (h : f.Foretells o) (h' : f'.Foretells o') :
    (f.add f').Foretells (o.add o') where
  scanned_eq := congrArg₂ (· + ·) h.scanned_eq h'.scanned_eq
  duplicates_eq := congrArg₂ (· + ·) h.duplicates_eq h'.duplicates_eq
  filtered_eq := congrArg₂ (· + ·) h.filtered_eq h'.filtered_eq
  saved_eq := by
    have := h.saved_eq
    have := h'.saved_eq
    show f.saved + f'.saved = o.saved + o'.saved + (o.failed + o'.failed)
    omega
  failed_eq := congrArg₂ (· + ·) h.failed_eq h'.failed_eq
  scanErrors_eq := congrArg₂ (· + ·) h.scanErrors_eq h'.scanErrors_eq

/-- **Findings foretell what a visit comes to.** -/
theorem Visit.foretells (v : Visit) : v.findings.outcome.Foretells v.outcome where
  scanned_eq := rfl
  duplicates_eq := rfl
  filtered_eq := rfl
  saved_eq := (List.length_map _).trans (length_efforts v.efforts).symm
  failed_eq := rfl
  scanErrors_eq := rfl

/-- The findings of all visits foretell what the visits come to together. -/
theorem foretells_total (visits : List Visit) :
    (Outcome.total ((visits.map (·.findings)).map (·.outcome))).Foretells
      (.total (visits.map (·.outcome))) := by
  induction visits with
  | nil => exact ⟨rfl, rfl, rfl, rfl, rfl, rfl⟩
  | cons v visits ih => exact v.foretells.add ih

namespace Propagator

/-! ## Two visits to one credential -/

section Agreement

variable {σ ω : Type} {p : Propagator σ} {q : Propagator ω} {d : Supply} {c : Credential}
  {credentials : List Credential} {v v' : Visit} {visits visits' : List Visit} {t t' u u' : Nat}
  {s s' : σ} {w w' : ω}

/-- **What is found for a credential is decided by its supply**, whoever visits it and when. -/
theorem Steady.findings_eq (hp : p.Steady d) (hq : q.Steady d) (h : p.Visits c t s v t' s')
    (h' : q.Visits c u w v' u' w') : v.findings = v'.findings := by
  cases h with
  | unknown hlookup hline =>
    rw [hp.account_eq c t s _ _ _ hlookup] at hline
    cases h' with
    | unknown hlookup' hline' =>
      rw [hq.account_eq c u w _ _ _ hlookup'] at hline'
      obtain rfl := Option.some.inj (hline.symm.trans hline')
      rfl
    | scanned hlookup' hscan' hsaves' =>
      -- an account is not both found and not found
      rw [← hq.account_eq c u w _ _ _ hlookup'] at hline
      cases hline
  | scanned hlookup hscan hsaves =>
    have haccount := hp.account_eq c t s _ _ _ hlookup
    cases h' with
    | unknown hlookup' hline' =>
      rw [hq.account_eq c u w _ _ _ hlookup', ← haccount] at hline'
      cases hline'
    | scanned hlookup' hscan' hsaves' =>
      cases haccount.trans (hq.account_eq c u w _ _ _ hlookup').symm
      obtain ⟨asked, hwalk⟩ := hp.walk_of_ends hscan
      obtain ⟨asked', hwalk'⟩ := hq.walk_of_ends hscan'
      -- both scans walked the same pages, so they collected the same items
      obtain rfl := hwalk.unique hwalk'
      simp only [Visit.findings, hsaves.items_eq, hsaves'.items_eq]

/-- Two cycles over the same credentials find the same for each of them. -/
theorem Steady.findings_all (hp : p.Steady d) (hq : q.Steady d)
    (h : p.VisitsAll credentials t s visits t' s')
    (h' : q.VisitsAll credentials u w visits' u' w') :
    visits.map (·.findings) = visits'.map (·.findings) := by
  induction h generalizing visits' u w with
  | nil =>
    cases h'
    rfl
  | cons first rest ih =>
    cases h' with
    | cons first' rest' =>
      rw [List.map_cons, List.map_cons, hp.findings_eq hq first first', ih rest']

end Agreement

/-! ## Dry runs -/

/-- The key and the id that a dry run announces. -/
def wouldSave? : Event → Option (String × String)
  | .wouldSave key id => some (key, id)
  | _ => none

/-- The key and the id that the item of an effort is offered with. -/
def offer (e : Effort) : String × String := (e.item.key, e.item.id)

/-- The key and the id that each item is offered with, in order. -/
def offers (visits : List Visit) : List (String × String) := (visits.flatMap (·.efforts)).map offer

/-- What is offered can be read off the findings. -/
theorem offers_eq (visits : List Visit) :
    offers visits =
      (visits.map (·.findings)).flatMap fun f => f.items.map fun item => (item.key, item.id) := by
  rw [offers, List.map_flatMap, List.flatMap_map]
  simp only [Visit.findings, List.map_map]
  rfl

/-- The calls for accounts and pages announce no saves. -/
structure Quiet {σ : Type} (p : Propagator σ) : Prop where
  accounts : ∀ c, (p.accounts c).Silent wouldSave?
  pages : ∀ c token, (p.inventory c token).Silent wouldSave?

section Dry

variable {σ : Type} {p : Propagator σ} {c : Credential} {credentials : List Credential}
  {item : SyncItem} {items : List SyncItem} {e : Effort} {efforts : List Effort} {v : Visit}
  {visits : List Visit} {t t' : Nat} {s s' : σ}

/-- No save fails. -/
theorem Saves.error_of_dry (hdry : p.options.dryRun = true) (h : p.Saves item t s e t' s') :
    e.error = none := by
  cases h with
  | dry => rfl
  | saved hnot | abandoned hnot => simp [hdry] at hnot

/-- No save of several fails either. -/
theorem SavesAll.error_of_dry (hdry : p.options.dryRun = true)
    (h : p.SavesAll items t s efforts t' s') : ∀ e ∈ efforts, e.error = none := by
  induction h with
  | nil => exact nofun
  | cons first rest ih => exact List.forall_mem_cons.2 ⟨first.error_of_dry hdry, ih⟩

/-- **A visit of a dry run comes to what its findings say.** -/
theorem Visits.outcome_of_dry (hdry : p.options.dryRun = true) (h : p.Visits c t s v t' s') :
    v.outcome = v.findings.outcome := by
  -- without errors every effort counts as saved and none leaves a line
  have herror : ∀ e ∈ v.efforts, e.error = none := by
    cases h with
    | unknown hlookup hline => exact nofun
    | scanned hlookup hscan hsaves => exact hsaves.error_of_dry hdry
  have hsaved : v.efforts.countP (·.error.isNone) = (v.efforts.map (·.item)).length := by
    rw [List.length_map, List.countP_eq_length]
    exact fun e he => by rw [herror e he]; rfl
  have hfailed : v.efforts.countP (·.error.isSome) = 0 :=
    List.countP_eq_zero.2 fun e he => by simp [herror e he]
  have hlines : v.efforts.filterMap (·.failure?) = [] :=
    List.filterMap_eq_nil_iff.2 fun e he => by rw [Effort.failure?, herror e he]; rfl
  rw [Visit.outcome, hsaved, hfailed, Visit.failures, hlines, List.append_nil]
  rfl

/-- All visits of a dry run come to what their findings say. -/
theorem VisitsAll.outcomes_of_dry (hdry : p.options.dryRun = true)
    (h : p.VisitsAll credentials t s visits t' s') :
    visits.map (·.outcome) = (visits.map (·.findings)).map (·.outcome) := by
  induction h with
  | nil => rfl
  | cons first rest ih => rw [List.map_cons, ih, first.outcome_of_dry hdry]; rfl

/-! ### What a dry run announces -/

/-- **A dry run announces each item in place of saving it**, in order. -/
theorem SavesAll.announced (hdry : p.options.dryRun = true)
    (h : p.SavesAll items t s efforts t' s') :
    (p.saveItems items).reports wouldSave? t s = efforts.map offer := by
  induction h with
  | nil => rfl
  | @cons item items e efforts t t₁ t' s s₁ s' first rest ih =>
    -- on a dry run `saveItem` is the one report
    have hitem : (p.saveItem item).reports wouldSave? t s = [offer e] := by
      rw [offer, first.item_eq, saveItem, if_pos hdry]
      rfl
    rw [saveItems, first.ends.reports_bind, hitem, rest.ends.reports_bind_pure, ih]
    rfl

/-- A name that is dropped is not announced. -/
theorem dedupEvents_silent (items : List Item) : ∀ e ∈ dedupEvents items, wouldSave? e = none := by
  intro e he
  obtain ⟨x, -, hx⟩ := List.mem_filterMap.1 he
  split at hx
  · cases hx
  · obtain rfl := Option.some.inj hx
    rfl

/-- An item that is not listed is not announced. -/
theorem prepareEvents_silent (unique : List Item) (c : Credential) :
    ∀ e ∈ prepareEvents unique c, wouldSave? e = none := by
  intro e he
  obtain ⟨item, -, he⟩ := List.mem_flatMap.1 he
  rw [filterEvents] at he
  split at he
  · rw [List.mem_singleton.1 he]
    rfl
  · cases he

/-- A scan announces nothing. -/
theorem scan_silent (hquiet : p.Quiet) (c : Credential) : (p.scan c).Silent wouldSave? := by
  -- along the bound, for every token at which a page is asked for
  have hfrom (budget : Nat) (token : Option String) :
      (p.scanFrom c budget token).Silent wouldSave? := by
    induction budget generalizing token with
    | zero => exact .endless
    | succ budget ih =>
      rw [scanFrom_succ]
      refine ((hquiet.pages c token).bounded _).bind fun o => ?_
      cases afterPage c token o with
      | ends found => exact .pure _
      | goesOn items next => exact (ih _).bind fun _ => .pure _
  exact hfrom _ _

/-- Of what a scan collected, the items to save are announced. -/
theorem propagateItems_announced {account : String} {collected : List Item}
    (hdry : p.options.dryRun = true)
    (h : p.SavesAll (itemsOf c account collected) t s efforts t' s') :
    (p.propagateItems c account collected).reports wouldSave? t s = efforts.map offer := by
  have hdedup : (Timed.reportAll (dedupEvents collected) : Timed σ Unit).Silent wouldSave? :=
    .reportAll (dedupEvents_silent collected)
  have hprepare : (Timed.reportAll (prepareEvents (dedup collected).unique c) :
      Timed σ Unit).Silent wouldSave? :=
    .reportAll (prepareEvents_silent (dedup collected).unique c)
  have hsaves := h.announced hdry
  -- the reports before the saves are about names that are dropped or not listed
  rw [propagateItems, Timed.reports_report_bind,
    hdedup.reports_bind ((Timed.Answers.reportAll _ s).ends t), Timed.reports_report_bind,
    hprepare.reports_bind ((Timed.Answers.reportAll _ s).ends t), Timed.reports_report_bind]
  exact (h.ends.reports_bind_pure _).trans hsaves

/-- A visit of a dry run announces the items of its efforts. -/
theorem Visits.announced (hquiet : p.Quiet) (hdry : p.options.dryRun = true)
    (h : p.Visits c t s v t' s') :
    (p.propagate c).reports wouldSave? t s = v.efforts.map offer := by
  have hlookups := (hquiet.accounts c).bounded p.options.callTimeout
  cases h with
  | @unknown answer line t' s' hlookup hline =>
    rw [propagate, hlookups.reports_bind hlookup]
    rcases answer with _ | (err | account)
    · rfl
    · rfl
    · cases hline
  | @scanned account found efforts t₁ t₂ t' s₁ s₂ s' hlookup hscan hsaves =>
    rw [propagate, hlookups.reports_bind hlookup]
    show (p.propagateScan c account).reports wouldSave? t₁ s₁ = _
    rw [propagateScan, Timed.reports_report_bind, (scan_silent hquiet c).reports_bind hscan]
    have hitems := propagateItems_announced hdry hsaves
    obtain ⟨collected, _ | err⟩ := found
    · exact hitems
    · -- the report that the scan was aborted is no announcement
      have haborted := Timed.reports_report_bind wouldSave?
        (.scanAborted c.role err.message collected.length) (fun _ => do
          return (Outcome.ofScanError (scanFailure c err)).add
            (← p.propagateItems c account collected)) t₂ s₂
      rw [(propagateItems_ends hsaves).reports_bind_pure, hitems] at haborted
      exact haborted

/-- The visits announce their items one after the other. -/
theorem VisitsAll.announced (hquiet : p.Quiet) (hdry : p.options.dryRun = true)
    (h : p.VisitsAll credentials t s visits t' s') :
    (p.propagateAll credentials).reports wouldSave? t s = offers visits := by
  induction h with
  | nil => rfl
  | @cons c credentials v visits t t₁ t' s s₁ s' first rest ih =>
    rw [propagateAll, first.ends.reports_bind, first.announced hquiet hdry,
      rest.ends.reports_bind_pure, ih, offers, offers, List.flatMap_cons, List.map_append]

/-- **A dry run announces the items of its visits**, in order. -/
theorem VisitsAll.runCycle_announced (hquiet : p.Quiet) (hdry : p.options.dryRun = true)
    (h : p.VisitsAll credentials t s visits t' s') :
    (p.runCycle credentials).reports wouldSave? t s = offers visits := by
  rw [runCycle, ((Timed.Answers.read p.clock s).ends t).reports_bind, Timed.reports_report_bind,
    h.ends.reports_bind, h.announced hquiet hdry]
  exact List.append_nil _

end Dry

/-! ## Cycles with and without saves -/

/-- The propagator on a dry run, or not. -/
def onDryRun {σ : Type} (p : Propagator σ) (dry : Bool) : Propagator σ :=
  { p with options := { p.options with dryRun := dry } }

section Cycles

variable {ω : Type} {p : Propagator ω} {d : Supply} {credentials : List Credential} {t : Nat}
  {w : ω} {r : CycleRun ω}

/-- A dry run has the same supply. -/
theorem Steady.onDryRun (hp : p.Steady d) (dry : Bool) : (p.onDryRun dry).Steady d :=
  ⟨⟨hp.accounts, hp.pages, hp.saves⟩, hp.account_eq, hp.page_eq⟩

/-- **A dry run does not call the sink.** -/
theorem RunsAs.saves_of_dry (hdry : p.options.dryRun = true) (h : p.RunsAs credentials t w r) :
    r.contacts.filterMap Contact.saved? = [] := by
  obtain ⟨hsaves, hwithin⟩ := h.visits.saves_eq
  rw [hsaves, List.filterMap_nil, List.nil_append]
  exact List.flatMap_eq_nil_iff.2 fun e he => by rw [(hwithin e he).dry hdry]; rfl

/-- A cycle that meets a credential whose tokens lead on for ever goes on without end, and a dry one
has not called the sink by then. -/
theorem Steady.exists_stalls (hp : p.Steady d) (h : ∃ c ∈ credentials, d.Endless c) (t : Nat)
    (w : ω) : ∃ enough, ∀ budget, enough ≤ budget → ∃ l : Ledger ω,
      ((p.allowing budget).noted.runCycle credentials).Stalls t ⟨[], w⟩ l ∧
        (p.options.dryRun = true → l.contacts.filterMap Contact.saved? = []) := by
  classical
  -- the first credential of this kind, so that those before it come to an end
  obtain ⟨c, hfirst⟩ : ∃ c, credentials.find? (fun c => decide (d.Endless c)) = some c := by
    rw [← Option.isSome_iff_exists, List.find?_isSome]
    simpa using h
  obtain ⟨hc, before, after, rfl, hbefore⟩ := List.find?_eq_some_iff_append.1 hfirst
  obtain ⟨enough, r, hruns⟩ := exists_runsAs hp.toSettled
    (fun b hb => hp.scanEnds (by simpa using hbefore b hb)) t w
  refine ⟨enough, fun budget hbudget => ?_⟩
  have hrun := hruns budget hbudget
  obtain ⟨asked, w', -, hstalls⟩ :=
    (hp.allowing budget).propagate_stalls (of_decide_eq_true hc) r.time ⟨r.contacts, r.outside⟩
  refine ⟨_, hrun.visits.stalls hstalls, fun hdry => ?_⟩
  have hdry' : (p.allowing budget).options.dryRun = true := hdry
  rw [List.filterMap_append, hrun.saves_of_dry hdry', List.nil_append,
    List.filterMap_cons_none rfl, List.filterMap_map]
  -- what is noted after those before it are its lookup and its pages
  exact List.filterMap_eq_nil_iff.2 fun _ _ => rfl

end Cycles

end Propagator

/-- What a dry run and a run with saves have in common. -/
structure CycleRun.Rehearses {ω : Type} (r q : CycleRun ω) : Prop where
  /-- The dry run does not call the sink. -/
  saves_eq : r.contacts.filterMap Contact.saved? = []
  credentials_eq : r.report.credentials = q.report.credentials
  outcome : r.report.outcome.Foretells q.report.outcome
  /-- The errors of the dry run are those of the run but for the saves that failed. -/
  errors_eq : r.report.outcome.errors = q.visits.flatMap (·.trouble.toList)
  failures_eq : q.report.outcome.errors =
    q.visits.flatMap fun v => v.trouble.toList ++ v.efforts.filterMap (·.failure?)

section Cycles

variable {ω : Type} {p : Propagator ω} {d : Supply} {credentials : List Credential} {t u : Nat}
  {w x : ω} {r q : CycleRun ω}

/-- The visits of a dry run find what those of the run do. -/
theorem findings_of_runsAs (hp : p.Steady d)
    (hdry : (p.onDryRun true).RunsAs credentials t w r)
    (hreal : (p.onDryRun false).RunsAs credentials u x q) :
    r.visits.map (·.findings) = q.visits.map (·.findings) :=
  (hp.onDryRun true).noted.findings_all (hp.onDryRun false).noted hdry.visits hreal.visits

/-- **A dry run rehearses the run**, over the same credentials. -/
theorem rehearses_of_runsAs (hp : p.Steady d)
    (hdry : (p.onDryRun true).RunsAs credentials t w r)
    (hreal : (p.onDryRun false).RunsAs credentials u x q) : r.Rehearses q := by
  have hfindings := findings_of_runsAs hp hdry hreal
  -- every part of the report of the dry run is read off the findings, which are those of the run
  have houtcome : r.report.outcome = .total ((q.visits.map (·.findings)).map (·.outcome)) := by
    rw [hdry.report_eq, hdry.visits.outcomes_of_dry rfl, hfindings]
  constructor
  · exact hdry.saves_of_dry rfl
  · rw [hdry.report_eq, hreal.report_eq]
  · rw [houtcome, hreal.report_eq]
    exact foretells_total q.visits
  · rw [houtcome, Outcome.total_eq]
    simp only [List.flatMap_map]
    rfl
  · rw [hreal.report_eq, Outcome.total_eq]
    simp only [List.flatMap_map]
    rfl

/-- A dry run announces what the run offers to the sink. -/
theorem announced_of_runsAs (hp : p.Steady d) (hquiet : p.Quiet)
    (hdry : (p.onDryRun true).RunsAs credentials t w r)
    (hreal : (p.onDryRun false).RunsAs credentials u x q) :
    ((p.onDryRun true).runCycle credentials).reports Propagator.wouldSave? t w =
      Propagator.offers q.visits := by
  have hvisits := (p.onDryRun true).noted_alike.visitsAll hdry.visits
  have hquiet' : (p.onDryRun true).Quiet := ⟨hquiet.accounts, hquiet.pages⟩
  rw [hvisits.runCycle_announced hquiet' rfl, Propagator.offers_eq, Propagator.offers_eq,
    findings_of_runsAs hp hdry hreal]

end Cycles

/-- **A dry run foretells the run.** Let the accounts and the pages that are answered depend on
nothing but the credential and the page token, and let the tokens of every credential come to an
end. Then a dry run makes no call to the sink, and whatever the sink answers in a run with the same
options but for that, and whenever that run begins: its report has the same numbers of credentials,
items scanned, duplicates, items not listed and scan errors; the items that it says to have saved
are those that the run saves or gives up, and it gives up none; its errors are those of the run, in
the same order, without the saves that failed; and it announces the items that are offered to the
sink, in this order, each once. If the tokens of a credential lead on for ever, neither of the runs
comes to an end, and the dry one makes no call to the sink all the same. -/
theorem dry_run_foretells {ω : Type} {d : Supply} {p : Propagator ω} (hp : p.Steady d)
    (credentials : List Credential) (t u : Nat) (w x : ω) :
    ((∀ c ∈ credentials, ¬ d.Endless c) → ∃ enough r q, ∀ budget, enough ≤ budget →
      ((p.onDryRun true).allowing budget).RunsAs credentials t w r ∧
      ((p.onDryRun false).allowing budget).RunsAs credentials u x q ∧
      r.Rehearses q ∧
      SinkLaw p.options.retry q.visits q.report (q.contacts.filterMap Contact.saved?) ∧
      (p.Quiet → (((p.onDryRun true).allowing budget).runCycle credentials).reports
        Propagator.wouldSave? t w = Propagator.offers q.visits)) ∧
    ((∃ c ∈ credentials, d.Endless c) → ∃ enough, ∀ budget, enough ≤ budget →
      (∃ l : Ledger ω, l.contacts.filterMap Contact.saved? = [] ∧
        (((p.onDryRun true).allowing budget).noted.runCycle credentials).Stalls t ⟨[], w⟩ l) ∧
      ∃ l : Ledger ω,
        (((p.onDryRun false).allowing budget).noted.runCycle credentials).Stalls u ⟨[], x⟩ l) := by
  have hdry := hp.onDryRun true
  have hreal := hp.onDryRun false
  refine ⟨fun hends => ?_, fun hendless => ?_⟩
  · -- all tokens come to an end: both runs exist, and are compared under a bound that serves both
    obtain ⟨enough₁, r, hfirst⟩ := Propagator.exists_runsAs hdry.toSettled
      (fun c hc => hdry.scanEnds (hends c hc)) t w
    obtain ⟨enough₂, q, hsecond⟩ := Propagator.exists_runsAs hreal.toSettled
      (fun c hc => hreal.scanEnds (hends c hc)) u x
    refine ⟨max enough₁ enough₂, r, q, fun budget hbudget => ?_⟩
    have hr := hfirst budget (Nat.le_trans (Nat.le_max_left _ _) hbudget)
    have hq := hsecond budget (Nat.le_trans (Nat.le_max_right _ _) hbudget)
    have hsink := sinkLaw_of_runsAs hq rfl
    exact ⟨hr, hq, rehearses_of_runsAs (hp.allowing budget) hr hq, hsink, fun hquiet =>
      announced_of_runsAs (hp.allowing budget) ⟨hquiet.accounts, hquiet.pages⟩ hr hq⟩
  · -- some tokens lead on for ever: both runs stall there
    obtain ⟨enough₁, hfirst⟩ := hdry.exists_stalls hendless t w
    obtain ⟨enough₂, hsecond⟩ := hreal.exists_stalls hendless u x
    refine ⟨max enough₁ enough₂, fun budget hbudget => ?_⟩
    obtain ⟨l, hl, hnone⟩ := hfirst budget (Nat.le_trans (Nat.le_max_left _ _) hbudget)
    obtain ⟨l', hl', -⟩ := hsecond budget (Nat.le_trans (Nat.le_max_right _ _) hbudget)
    exact ⟨⟨l, hnone rfl, hl⟩, l', hl'⟩

/-- A supply in which the account of one role is not known, the tokens of another lead on for ever,
and the second page of any other role is refused. -/
def Supply.winding : Supply where
  account c := if c.role = "lost" then none else some (.ok "1")
  page c token :=
    if c.role = "winding" then some (.ok ⟨[], some (token.getD "" ++ "x")⟩)
    else match token with
      | none => some (.ok ⟨[⟨"a", "1"⟩, ⟨"b", "2"⟩], some "more"⟩)
      | some _ => some (.error (.page c.role "gone"))

/-- A dry run over credentials with trouble, and a run with saves that begins an hour later, when
the sink has been called seven times. -/
theorem dry_run_foretells_of_winding :
    let d := Supply.winding
    let p := d.served
    let credential (role : String) : Credential := ⟨role, "eu", none, none, .empty⟩
    let ending := [credential "lost", credential "torn"]
    let endless := [credential "torn", credential "winding"]
    p.Steady d ∧ p.Quiet ∧ (∀ c ∈ ending, ¬ d.Endless c) ∧ (∃ c ∈ endless, d.Endless c) ∧
      (∃ enough r q, ∀ budget, enough ≤ budget →
        ((p.onDryRun true).allowing budget).RunsAs ending 0 0 r ∧
        ((p.onDryRun false).allowing budget).RunsAs ending 3600000 7 q ∧
        r.Rehearses q ∧
        SinkLaw p.options.retry q.visits q.report (q.contacts.filterMap Contact.saved?) ∧
        (((p.onDryRun true).allowing budget).runCycle ending).reports Propagator.wouldSave? 0 0 =
          Propagator.offers q.visits) ∧
      ∃ enough, ∀ budget, enough ≤ budget →
        (∃ l : Ledger Nat, l.contacts.filterMap Contact.saved? = [] ∧
          (((p.onDryRun true).allowing budget).noted.runCycle endless).Stalls 0 ⟨[], 0⟩ l) ∧
        ∃ l : Ledger Nat, (((p.onDryRun false).allowing budget).noted.runCycle endless).Stalls
          3600000 ⟨[], 7⟩ l := by
  intro d p credential ending endless
  have hsteady : p.Steady d := d.steady_served
  have hsilent {α : Type} (answer : Option α) :
      (supplied answer).Silent Propagator.wouldSave? := by
    cases answer <;> exact fun _ _ => rfl
  have hquiet : p.Quiet :=
    ⟨fun c => hsilent (d.account c), fun c token => hsilent (d.page c token)⟩
  have hends : ∀ c ∈ ending, ¬ d.Endless c := by
    refine List.forall_mem_cons.2 ⟨?_, List.forall_mem_cons.2 ⟨?_, nofun⟩⟩
    · rintro ⟨⟨account, haccount⟩, -⟩
      cases haccount
    · rintro ⟨-, hnone⟩
      exact hnone ⟨_, _, .more rfl rfl nofun (.failed rfl)⟩
  have hendless : d.Endless (credential "winding") := by
    refine ⟨⟨"1", rfl⟩, ?_⟩
    rintro ⟨asked, found, hwalk⟩
    -- every page leads on, so there is none that a walk could end with
    generalize none = token at hwalk
    induction hwalk with
    | failed hanswer => cases hanswer
    | last hanswer hnext =>
      cases hanswer
      cases hnext
    | repeated hanswer hnext =>
      cases hanswer
      simp at hnext
    | more hanswer hnext hne rest ih => exact ih
  have hsome : ∃ c ∈ endless, d.Endless c :=
    ⟨_, List.mem_cons_of_mem _ List.mem_cons_self, hendless⟩
  refine ⟨hsteady, hquiet, hends, hsome, ?_, ?_⟩
  · obtain ⟨enough, r, q, hruns⟩ :=
      (dry_run_foretells hsteady ending 0 3600000 0 7).1 hends
    refine ⟨enough, r, q, fun budget hbudget => ?_⟩
    obtain ⟨hr, hq, hrehearses, hsink, hannounced⟩ := hruns budget hbudget
    exact ⟨hr, hq, hrehearses, hsink, hannounced hquiet⟩
  · exact (dry_run_foretells hsteady endless 0 3600000 0 7).2 hsome

end GatewayDirectory.Sync
