import GatewayDirectory.Proofs.Sync.Alike

/-!
# The calls of a cycle

`Propagator.noted p` does what `p` does and notes every call that it makes to the account resolver,
the inventory or the sink, in order, before the call is made. Its runs are those of `p`
(`noted_alike`). The sink is called for each effort as often as the effort says and for nothing
else (`VisitsAll.saves_eq`), at least once and at most as often as the options allow. `p.RunsAs`
says what a run of a cycle comes to, calls included; runs over lists of credentials are put together
with `RunsAs.append`.
-/

namespace GatewayDirectory.Sync

/-- A call that a cycle makes. -/
inductive Contact where
  | account (c : Credential)
  | page (c : Credential) (token : Option String)
  | save (item : SyncItem)
deriving DecidableEq, Inhabited

/-- The item that a call asks to save. -/
def Contact.saved? : Contact → Option SyncItem
  | .save item => some item
  | .account _ | .page _ _ => none

/-- The calls that were made, in order, and all that lies outside. -/
structure Ledger (ω : Type) where
  contacts : List Contact
  outside : ω

namespace Ledger

variable {ω α : Type}

/-- The outside as a part of a ledger. -/
def outsidePart : Part (Ledger ω) ω := ⟨Ledger.outside, fun outside l => { l with outside }⟩

/-- The outside is a lawful part of a ledger. -/
theorem outsidePart_lawful : (outsidePart : Part (Ledger ω) ω).Lawful :=
  ⟨fun _ _ => rfl, fun _ => rfl, fun _ _ _ => rfl⟩

/-- A call on the outside that is noted as it is made. -/
def noting (contact : Contact) (x : Timed ω α) : Timed (Ledger ω) α := do
  Timed.modify fun l => { l with contacts := l.contacts ++ [contact] }
  Timed.within outsidePart x

/-- A noted call runs as the call does. -/
theorem run_noting (contact : Contact) (x : Timed ω α) (t : Nat) (l : Ledger ω) :
    (noting contact x).run t l =
      ⟨(x.run t l.outside).ending, ⟨l.contacts ++ [contact], (x.run t l.outside).state⟩,
        (x.run t l.outside).time, (x.run t l.outside).events⟩ := by
  show (Timed.within outsidePart x).run t _ = _
  rw [Timed.run_within outsidePart_lawful]
  rfl

/-- To cut off a noted call is to cut off the call. -/
theorem bounded_noting (limit : Nat) (contact : Contact) (x : Timed ω α) :
    Timed.bounded limit (noting contact x) = noting contact (Timed.bounded limit x) := by
  show Timed.step _ _ = Timed.step _ _
  congr 1
  funext l
  exact Timed.bounded_within outsidePart limit x

/-- Seen from outside, a noted call under a limit is the call under that limit. -/
theorem noting_mirrors (limit : Nat) (contact : Contact) (x : Timed ω α) :
    Timed.Mirrors Ledger.outside (Timed.bounded limit (noting contact x))
      (Timed.bounded limit x) := by
  intro t l
  rw [bounded_noting, run_noting]
  rfl

/-- The ledger with earlier calls before its own. -/
def after (earlier : List Contact) (l : Ledger ω) : Ledger ω :=
  ⟨earlier ++ l.contacts, l.outside⟩

/-- What was noted earlier makes no difference to a noted call. -/
theorem noting_mirrors_after (earlier : List Contact) (limit : Nat) (contact : Contact)
    (x : Timed ω α) :
    Timed.Mirrors (after earlier) (Timed.bounded limit (noting contact x))
      (Timed.bounded limit (noting contact x)) := by
  intro t l
  rw [bounded_noting, run_noting, run_noting, Timed.Trace.seen, after, after, List.append_assoc]

/-- To note a call does not keep it from settling. -/
theorem noting_settles (contact : Contact) {x : Timed ω α} (hx : x.Settles) :
    (noting contact x).Settles := by
  intro t l
  rw [run_noting]
  exact hx t l.outside

/-- A noted call adds itself to the ledger. -/
theorem contacts_of_noting {limit t t' : Nat} {contact : Contact} {x : Timed ω α} {o : Option α}
    {l l' : Ledger ω} (h : (Timed.bounded limit (noting contact x)).Ends t l o t' l') :
    l'.contacts = l.contacts ++ [contact] := by
  obtain ⟨events, hevents⟩ := h
  rw [bounded_noting, run_noting] at hevents
  rw [← (Timed.Trace.mk.inj hevents).2.1]

end Ledger

/-- The propagator whose calls are noted. -/
def Propagator.noted {ω : Type} (p : Propagator ω) : Propagator (Ledger ω) where
  accounts c := Ledger.noting (.account c) (p.accounts c)
  inventory c token := Ledger.noting (.page c token) (p.inventory c token)
  sink :=
    { kind := p.sink.kind
      save := fun key id token =>
        Ledger.noting (.save ⟨key, id, token⟩) (p.sink.save key id token) }
  options := p.options
  clock l := p.clock l.outside
  pageBudget := p.pageBudget

/-- The effort took at least one call and at most as many as the options allow, and none on a dry
run. -/
structure Effort.Within (options : Options) (e : Effort) : Prop where
  dry : options.dryRun = true → e.attempts = 0
  bounds : options.dryRun = false → 1 ≤ e.attempts ∧ e.attempts ≤ max options.retry 1

namespace Propagator

variable {ω : Type}

/-! ## A noted propagator works as it does without notes -/

/-- Noted calls are seen from outside as the calls are. -/
theorem noted_alike (p : Propagator ω) : Alike Ledger.outside p.noted p where
  accounts limit _ := Ledger.noting_mirrors limit _ _
  pages limit _ _ := Ledger.noting_mirrors limit _ _
  sink limit _ _ _ := Ledger.noting_mirrors limit _ _
  clock _ := rfl
  options := rfl
  kind := rfl
  pageBudget := rfl

/-- A noted propagator works as it does whatever was noted earlier. -/
theorem noted_alike_after (p : Propagator ω) (earlier : List Contact) :
    Alike (Ledger.after earlier) p.noted p.noted where
  accounts limit _ := Ledger.noting_mirrors_after earlier limit _ _
  pages limit _ _ := Ledger.noting_mirrors_after earlier limit _ _
  sink limit _ _ _ := Ledger.noting_mirrors_after earlier limit _ _
  clock _ := rfl
  options := rfl
  kind := rfl
  pageBudget := rfl

/-- If the calls settle, so do the noted ones. -/
theorem Settled.noted {p : Propagator ω} (hp : p.Settled) : p.noted.Settled where
  accounts c := Ledger.noting_settles _ (hp.accounts c)
  pages c token := Ledger.noting_settles _ (hp.pages c token)
  saves key id token := Ledger.noting_settles _ (hp.saves key id token)

/-- A scan that ends does so with notes too. -/
theorem ScanEnds.noted {p : Propagator ω} {c : Credential} (h : p.ScanEnds c) :
    p.noted.ScanEnds c := by
  intro account t l t' l' hlookup
  -- the account is found without notes too, so that the bound on the pages is known
  have hplain := (p.noted_alike.accounts p.options.callTimeout c).ends hlookup
  obtain ⟨budget, hbudget⟩ := h account t l.outside t' l'.outside hplain
  refine ⟨budget, ?_⟩
  have hmirrors := p.noted_alike.scanFrom c budget none t' l'
  rw [scan_allowing] at hbudget ⊢
  rw [← hmirrors] at hbudget
  exact hbudget

/-! ## What is noted -/

section Noted

variable {p : Propagator ω} {item : SyncItem} {items : List SyncItem} {c : Credential} {e : Effort}
  {efforts : List Effort} {v : Visit} {visits : List Visit} {t t' : Nat} {l l' : Ledger ω}

/-- Each attempt is one call to the sink, the first included. -/
theorem attemptSave_contacts {left attempt : Nat} {r : Except SinkError Nat}
    (h : (p.noted.attemptSave item left attempt).Ends t l r t' l') :
    ∃ n, 1 ≤ n ∧ n ≤ left + 1 ∧ l'.contacts = l.contacts ++ List.replicate n (.save item) ∧
      (∀ m, r = .ok m → m + 1 = attempt + n) ∧ ∀ e, r = .error e → n = left + 1 := by
  -- along the attempts that are left, with the calls noted so far in `l`
  induction left generalizing attempt t l with
  | zero =>
    obtain ⟨o, t₁, l₁, hcall, hend⟩ := attemptSave_cases h
    have hnoted := Ledger.contacts_of_noting hcall
    rcases hend with ⟨-, rfl, -, rfl⟩ | ⟨e, -, ⟨-, rfl, -, rfl⟩ | ⟨fewer, hfewer, -⟩⟩
    · refine ⟨1, Nat.le_refl 1, Nat.le_refl 1, hnoted, fun m hm => ?_, fun e he => by cases he⟩
      cases hm
      rfl
    · refine ⟨1, Nat.le_refl 1, Nat.le_refl 1, hnoted, fun m hm => ?_, fun _ _ => rfl⟩
      cases hm
    · omega
  | succ left ih =>
    obtain ⟨o, t₁, l₁, hcall, hend⟩ := attemptSave_cases h
    have hnoted := Ledger.contacts_of_noting hcall
    rcases hend with ⟨-, rfl, -, rfl⟩ | ⟨e, -, ⟨hleft, -⟩ | ⟨fewer, hfewer, hrest⟩⟩
    · refine ⟨1, Nat.le_refl 1, by omega, hnoted, fun m hm => ?_, fun e he => by cases he⟩
      cases hm
      rfl
    · omega
    · -- the rest makes `n` calls; the one that has just failed comes in front of them
      obtain rfl : left = fewer := Nat.succ.inj hfewer
      obtain ⟨n, hpos, hle, hcontacts, hok, herror⟩ := ih hrest
      refine ⟨n + 1, by omega, by omega, ?_, fun m hm => ?_, fun e he => ?_⟩
      · rw [hcontacts, hnoted, List.append_assoc, List.replicate_succ]
        rfl
      · have := hok m hm
        omega
      · have := herror e he
        omega

/-- The calls to the sink that an effort took. -/
def effortContacts (e : Effort) : List Contact := List.replicate e.attempts (.save e.item)

/-- **An effort takes at least one call and at most as many as the options allow**, none on a dry
run. -/
theorem Saves.contacts (h : p.noted.Saves item t l e t' l') :
    l'.contacts = l.contacts ++ effortContacts e ∧ e.Within p.options := by
  cases h with
  | dry hdry =>
    refine ⟨(List.append_nil _).symm, fun _ => rfl, fun hnot => ?_⟩
    have : p.options.dryRun = true := hdry
    simp [this] at hnot
  | @saved attempts _ _ hdry hsave =>
    obtain ⟨n, hpos, hle, hcontacts, hok, -⟩ := attemptSave_contacts hsave
    have hretry : p.noted.options.retry = p.options.retry := rfl
    rw [hretry] at hle
    -- the attempts are numbered from one, so that the last number is how many there were
    obtain rfl : attempts = n := by
      have := hok attempts rfl
      omega
    have hmost : attempts ≤ max p.options.retry 1 := by omega
    refine ⟨hcontacts, fun hnot => ?_, fun _ => ⟨hpos, hmost⟩⟩
    have : p.options.dryRun = false := hdry
    simp [this] at hnot
  | @abandoned err _ _ hdry hsave =>
    obtain ⟨n, hpos, hle, hcontacts, -, herror⟩ := attemptSave_contacts hsave
    -- an item is given up only when no attempt is left
    have hn : n = max p.noted.options.retry 1 := by
      have := herror err rfl
      omega
    rw [hn] at hcontacts
    refine ⟨hcontacts, fun hnot => ?_, fun _ => ⟨Nat.le_max_right _ _, Nat.le_refl _⟩⟩
    have : p.options.dryRun = false := hdry
    simp [this] at hnot

/-- The calls to the sink are those of the efforts, one after the other. -/
theorem SavesAll.contacts (h : p.noted.SavesAll items t l efforts t' l') :
    l'.contacts = l.contacts ++ efforts.flatMap effortContacts ∧
      ∀ e ∈ efforts, e.Within p.options := by
  induction h with
  | nil => exact ⟨(List.append_nil _).symm, fun e he => by cases he⟩
  | cons first rest ih =>
    obtain ⟨hfirst, hbounds⟩ := first.contacts
    obtain ⟨hrest, hothers⟩ := ih
    refine ⟨?_, List.forall_mem_cons.2 ⟨hbounds, hothers⟩⟩
    rw [hrest, hfirst, List.flatMap_cons, List.append_assoc]

/-- A scan calls the inventory alone. -/
theorem scanFrom_contacts {budget : Nat} {token : Option String} {found : Scan}
    (h : (p.noted.scanFrom c budget token).Ends t l found t' l') :
    ∃ asked : List (Option String), l'.contacts = l.contacts ++ asked.map (.page c) := by
  -- along the bound on pages: each page asked for is one note
  induction budget generalizing token t l found with
  | zero =>
    obtain ⟨events, hevents⟩ := h
    cases hevents
  | succ budget ih =>
    obtain ⟨o, t₁, l₁, hcall, hend⟩ := scanFrom_cases h
    have hnoted := Ledger.contacts_of_noting hcall
    rcases hend with ⟨-, -, rfl⟩ | ⟨items, next, rest, -, hrest, -⟩
    · exact ⟨[token], hnoted⟩
    · obtain ⟨asked, hasked⟩ := ih hrest
      refine ⟨token :: asked, ?_⟩
      rw [hasked, hnoted, List.append_assoc]
      rfl

/-- A visit asks for the account, then for pages, and then makes the calls of its efforts. -/
theorem Visits.contacts (h : p.noted.Visits c t l v t' l') :
    (∃ asked : List (Option String), l'.contacts =
      l.contacts ++ (.account c :: asked.map (.page c) ++ v.efforts.flatMap effortContacts)) ∧
      ∀ e ∈ v.efforts, e.Within p.options := by
  cases h with
  | unknown hlookup hline =>
    exact ⟨⟨[], Ledger.contacts_of_noting hlookup⟩, fun e he => by cases he⟩
  | scanned hlookup hscan hsaves =>
    obtain ⟨asked, hasked⟩ := scanFrom_contacts hscan
    obtain ⟨hcontacts, hbounds⟩ := hsaves.contacts
    refine ⟨⟨asked, ?_⟩, hbounds⟩
    rw [hcontacts, hasked, Ledger.contacts_of_noting hlookup]
    simp only [List.append_assoc, List.cons_append, List.nil_append]

/-- Each call of an effort asks to save the item of the effort. -/
theorem filterMap_effortContacts (efforts : List Effort) :
    (efforts.flatMap effortContacts).filterMap Contact.saved? =
      efforts.flatMap fun e => List.replicate e.attempts e.item := by
  induction efforts with
  | nil => rfl
  | cons e efforts ih =>
    rw [List.flatMap_cons, List.flatMap_cons, List.filterMap_append, ih, effortContacts,
      List.filterMap_replicate_of_some
        (show Contact.saved? (.save e.item) = some e.item from rfl)]

/-- **The sink is called for the efforts of a cycle and for nothing else**, as often as each of them
says. -/
theorem VisitsAll.saves_eq {credentials : List Credential}
    (h : p.noted.VisitsAll credentials t l visits t' l') :
    l'.contacts.filterMap Contact.saved? = l.contacts.filterMap Contact.saved? ++
        (visits.flatMap (·.efforts)).flatMap (fun e => List.replicate e.attempts e.item) ∧
      ∀ e ∈ visits.flatMap (·.efforts), e.Within p.options := by
  induction h with
  | nil => exact ⟨(List.append_nil _).symm, fun e he => by cases he⟩
  | @cons c credentials v visits t t₁ t' l l₁ l' first rest ih =>
    obtain ⟨⟨asked, hfirst⟩, hbounds⟩ := first.contacts
    obtain ⟨hrest, hothers⟩ := ih
    -- of the calls of a visit only those of its efforts go to the sink
    have hpages : (asked.map (Contact.page c)).filterMap Contact.saved? = [] := by
      rw [List.filterMap_map]
      exact List.filterMap_eq_nil_iff.2 fun _ _ => rfl
    have hsaved : l₁.contacts.filterMap Contact.saved? = l.contacts.filterMap Contact.saved? ++
        v.efforts.flatMap fun e => List.replicate e.attempts e.item := by
      rw [hfirst, List.filterMap_append, List.filterMap_append,
        List.filterMap_cons_none rfl, hpages, filterMap_effortContacts, List.nil_append]
    refine ⟨?_, fun e he => ?_⟩
    · rw [hrest, hsaved, List.flatMap_cons, List.flatMap_append, List.append_assoc]
    · rw [List.flatMap_cons, List.mem_append] at he
      rcases he with he | he
      · exact hbounds e he
      · exact hothers e he

end Noted

end Propagator

/-! ## Runs of a cycle -/

/-- What a run of a cycle comes to. -/
structure CycleRun (ω : Type) where
  report : Report
  visits : List Visit
  contacts : List Contact
  /-- The time at its end. -/
  time : Nat
  /-- The state that it leaves. -/
  outside : ω

/-- A run and then another one, told as one run. -/
def CycleRun.append {ω : Type} (r q : CycleRun ω) : CycleRun ω where
  report := ⟨r.report.startedAt, r.report.credentials + q.report.credentials,
    r.report.outcome.add q.report.outcome⟩
  visits := r.visits ++ q.visits
  contacts := r.contacts ++ q.contacts
  time := q.time
  outside := q.outside

namespace Propagator

variable {ω : Type}

/-- From a time and a state, a cycle ends with that report at that time, makes those visits and
those calls, and leaves that state. -/
structure RunsAs (p : Propagator ω) (credentials : List Credential) (t : Nat) (w : ω)
    (r : CycleRun ω) : Prop where
  ends : (p.runCycle credentials).Ends t w r.report r.time r.outside
  noted : (p.noted.runCycle credentials).Ends t ⟨[], w⟩ r.report r.time ⟨r.contacts, r.outside⟩
  visits : p.noted.VisitsAll credentials t ⟨[], w⟩ r.visits r.time ⟨r.contacts, r.outside⟩

variable {p : Propagator ω} {credentials more : List Credential} {t : Nat} {w : ω}
  {r q : CycleRun ω}

/-- The visits of a cycle are a run. -/
theorem VisitsAll.runsAs {visits : List Visit} {t' : Nat} {l : Ledger ω}
    (h : p.noted.VisitsAll credentials t ⟨[], w⟩ visits t' l) :
    p.RunsAs credentials t w
      ⟨⟨p.clock w, credentials.length, .total (visits.map (·.outcome))⟩, visits, l.contacts, t',
        l.outside⟩ :=
  ⟨(p.noted_alike.runCycle credentials).ends h.runCycle_ends, h.runCycle_ends, h⟩

/-- The report of a run is the total of its visits. -/
theorem RunsAs.report_eq (h : p.RunsAs credentials t w r) :
    r.report = ⟨p.clock w, credentials.length, .total (r.visits.map (·.outcome))⟩ :=
  (h.noted.unique h.visits.runCycle_ends).1

/-- **A cycle over two lists is a cycle over the first and then one over the second.** -/
theorem RunsAs.append (h : p.RunsAs credentials t w r)
    (h' : p.RunsAs more r.time r.outside q) :
    p.RunsAs (credentials ++ more) t w (r.append q) := by
  -- the second run begins with the notes of the first, which make no difference to it
  have hlater := (p.noted_alike_after r.contacts).visitsAll h'.visits
  rw [Ledger.after, List.append_nil] at hlater
  have hall := (h.visits.append hlater).runsAs
  have hreport : (r.append q).report = ⟨p.clock w, (credentials ++ more).length,
      .total ((r.visits ++ q.visits).map (·.outcome))⟩ := by
    rw [CycleRun.append, h.report_eq, h'.report_eq, List.length_append, List.map_append,
      Outcome.total_append]
  refine ⟨?_, ?_, h.visits.append hlater⟩
  · rw [hreport]
    exact hall.ends
  · rw [hreport]
    exact hall.noted

/-- **A cycle over credentials whose scans end is a run**, the same one under every bound on pages
that is large enough. -/
theorem exists_runsAs (hp : p.Settled) (hscans : ∀ c ∈ credentials, p.ScanEnds c) (t : Nat)
    (w : ω) : ∃ enough r, ∀ budget, enough ≤ budget →
      (p.allowing budget).RunsAs credentials t w r := by
  obtain ⟨enough, visits, t', l, hvisits⟩ :=
    exists_visitsAll hp.noted (fun c hc => (hscans c hc).noted) t ⟨[], w⟩
  refine ⟨enough, ⟨⟨p.clock w, credentials.length, .total (visits.map (·.outcome))⟩, visits,
    l.contacts, t', l.outside⟩, fun budget hbudget => ?_⟩
  -- to note the calls and to set the bound are done in either order
  have hall : (p.allowing budget).noted.VisitsAll credentials t ⟨[], w⟩ visits t' l :=
    hvisits budget hbudget
  exact hall.runsAs

end Propagator

end GatewayDirectory.Sync
