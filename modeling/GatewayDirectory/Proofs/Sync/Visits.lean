import GatewayDirectory.Proofs.Sync.Grouping
import GatewayDirectory.Proofs.Sync.Steps

/-!
# What becomes of each credential

A cycle is told as data: a `Visit` for each credential holds the items that its scan collected and
an `Effort` for each item that was to be saved. `Propagator.VisitsAll` says which visits a run
makes. A run ends with the total of what its visits come to (`VisitsAll.runCycle_ends`), and there
are visits for every run whose calls answer some time or hang and whose scans come to an end
(`exists_visitsAll`).
-/

namespace GatewayDirectory.Sync

/-! ## Outcomes add up -/

namespace Outcome

/-- Nothing, and then something, is that something. -/
@[simp] theorem none_add (a : Outcome) : none.add a = a := by
  cases a
  simp [add, none]

/-- It does not matter how three parts are bracketed. -/
theorem add_assoc (a b c : Outcome) : (a.add b).add c = a.add (b.add c) := by
  simp [add, Nat.add_assoc, List.append_assoc]

/-- What several parts come to, one after the other. -/
def total (parts : List Outcome) : Outcome := parts.foldr add none

/-- No parts come to nothing. -/
@[simp] theorem total_nil : total [] = none := rfl

/-- The first part is added in front of the rest. -/
@[simp] theorem total_cons (a : Outcome) (parts : List Outcome) :
    total (a :: parts) = a.add (total parts) := rfl

/-- The total over two lists is the sum of their totals. -/
theorem total_append (parts more : List Outcome) :
    total (parts ++ more) = (total parts).add (total more) := by
  induction parts with
  | nil => rw [List.nil_append, total_nil, none_add]
  | cons a parts ih => rw [List.cons_append, total_cons, total_cons, ih, add_assoc]

end Outcome

/-! ## Efforts and visits -/

/-- What became of an item that was to be saved. -/
structure Effort where
  item : SyncItem
  /-- How often the sink was called for it. -/
  attempts : Nat
  /-- The error that it was given up with, if it was. -/
  error : Option SinkError
deriving DecidableEq, Inhabited

namespace Effort

/-- The line that reports the item as given up. -/
def failure? (e : Effort) : Option String :=
  e.error.map fun err => e.item.key ++ ": " ++ err.message

/-- What the effort comes to. -/
def outcome (e : Effort) : Outcome :=
  match e.failure? with
  | none => .ofSaved
  | some line => .ofFailed line

/-- Efforts come to the number of items saved and of items given up, with a line for each of
these. -/
theorem total_outcome (efforts : List Effort) :
    Outcome.total (efforts.map outcome) =
      ⟨0, 0, 0, efforts.countP (·.error.isNone), efforts.countP (·.error.isSome), 0,
        efforts.filterMap failure?⟩ := by
  induction efforts with
  | nil => rfl
  | cons e efforts ih =>
    rw [List.map_cons, Outcome.total_cons, ih]
    obtain ⟨item, attempts, _ | err⟩ := e
    · have hkept : (Effort.mk item attempts none).failure? = none := rfl
      simp [outcome, hkept, Outcome.add, Outcome.ofSaved, Outcome.none, Nat.add_comm]
    · simp [outcome, failure?, Outcome.add, Outcome.ofFailed, Outcome.none, Nat.add_comm]

end Effort

/-- What became of a credential. -/
structure Visit where
  credential : Credential
  /-- Why its account is not known, or why its scan ended early. -/
  trouble : Option String
  /-- What its scan collected. -/
  collected : List Item
  efforts : List Effort
deriving DecidableEq, Inhabited

namespace Visit

/-- The lines that report what went wrong, in order. -/
def failures (v : Visit) : List String := v.trouble.toList ++ v.efforts.filterMap (·.failure?)

/-- How many of the items whose name occurs once are not listed. -/
def filtered (v : Visit) : Nat :=
  (dedup v.collected).unique.countP fun x => (filterRename v.credential x).isNone

/-- What the visit comes to. -/
def outcome (v : Visit) : Outcome where
  scanned := v.collected.length
  duplicates := (dedup v.collected).duplicates.length
  filtered := v.filtered
  saved := v.efforts.countP (·.error.isNone)
  failed := v.efforts.countP (·.error.isSome)
  scanErrors := v.trouble.toList.length
  errors := v.failures

end Visit

/-- The line for a credential whose account could not be found; none if it was. -/
def unknownAccount (c : Credential) : Option (Except AccountError String) → Option String
  | some (.ok _) => none
  | some (.error e) => some (c.role ++ ": " ++ e.message)
  | none => some (c.role ++ ": account resolution timed out")

/-- The line for a scan that ended early. -/
def scanFailure (c : Credential) (e : InventoryError) : String := c.role ++ ": " ++ e.message

/-- The items that are to be saved of those that a scan collected. -/
def itemsOf (c : Credential) (account : String) (collected : List Item) : List SyncItem :=
  (prepare (dedup collected).unique c account).1

namespace Propagator

variable {σ : Type}

/-! ## Runs as visits -/

/-- Saving an item from a time and a state is that effort, and leaves a time and a state. -/
inductive Saves (p : Propagator σ) (item : SyncItem) (t : Nat) (s : σ) :
    Effort → Nat → σ → Prop
  /-- A dry run does not call the sink. -/
  | dry (hdry : p.options.dryRun = true) : Saves p item t s ⟨item, 0, none⟩ t s
  | saved {attempts t' : Nat} {s' : σ} (hdry : p.options.dryRun = false)
    (hsave : (p.saveWithRetry item).Ends t s (.ok attempts) t' s') :
    Saves p item t s ⟨item, attempts, none⟩ t' s'
  | abandoned {e : SinkError} {t' : Nat} {s' : σ} (hdry : p.options.dryRun = false)
    (hsave : (p.saveWithRetry item).Ends t s (.error e) t' s') :
    Saves p item t s ⟨item, max p.options.retry 1, some e⟩ t' s'

/-- Items are saved one after the other. -/
inductive SavesAll (p : Propagator σ) : List SyncItem → Nat → σ → List Effort → Nat → σ → Prop
  | nil {t : Nat} {s : σ} : SavesAll p [] t s [] t s
  | cons {item : SyncItem} {items : List SyncItem} {e : Effort} {efforts : List Effort}
    {t t₁ t' : Nat} {s s₁ s' : σ} (first : p.Saves item t s e t₁ s₁)
    (rest : SavesAll p items t₁ s₁ efforts t' s') :
    SavesAll p (item :: items) t s (e :: efforts) t' s'

/-- To propagate a credential from a time and a state is that visit, and leaves a time and a
state. -/
inductive Visits (p : Propagator σ) (c : Credential) (t : Nat) (s : σ) :
    Visit → Nat → σ → Prop
  /-- The account is not known. -/
  | unknown {answer : Option (Except AccountError String)} {line : String} {t' : Nat} {s' : σ}
    (hlookup : (Timed.bounded p.options.callTimeout (p.accounts c)).Ends t s answer t' s')
    (hline : unknownAccount c answer = some line) : Visits p c t s ⟨c, some line, [], []⟩ t' s'
  /-- What the scan collects is prepared and saved, whether or not the scan ended early. -/
  | scanned {account : String} {found : Scan} {efforts : List Effort} {t₁ t₂ t' : Nat}
    {s₁ s₂ s' : σ}
    (hlookup : (Timed.bounded p.options.callTimeout (p.accounts c)).Ends t s
      (some (.ok account)) t₁ s₁)
    (hscan : (p.scan c).Ends t₁ s₁ found t₂ s₂)
    (hsaves : p.SavesAll (itemsOf c account found.items) t₂ s₂ efforts t' s') :
    Visits p c t s ⟨c, found.error.map (scanFailure c), found.items, efforts⟩ t' s'

/-- Credentials are propagated one after the other. -/
inductive VisitsAll (p : Propagator σ) : List Credential → Nat → σ → List Visit → Nat → σ → Prop
  | nil {t : Nat} {s : σ} : VisitsAll p [] t s [] t s
  | cons {c : Credential} {credentials : List Credential} {v : Visit} {visits : List Visit}
    {t t₁ t' : Nat} {s s₁ s' : σ} (first : p.Visits c t s v t₁ s₁)
    (rest : VisitsAll p credentials t₁ s₁ visits t' s') :
    VisitsAll p (c :: credentials) t s (v :: visits) t' s'

section Runs

variable {p : Propagator σ} {c : Credential} {item : SyncItem} {items : List SyncItem}
  {credentials more : List Credential} {e : Effort} {efforts : List Effort} {v : Visit}
  {visits visits' : List Visit} {t t₁ t' : Nat} {s s₁ s' : σ}

/-- The effort is about the item that was to be saved. -/
theorem Saves.item_eq (h : p.Saves item t s e t' s') : e.item = item := by
  cases h <;> rfl

/-- There is one effort for each item, in the order of the items. -/
theorem SavesAll.items_eq (h : p.SavesAll items t s efforts t' s') :
    efforts.map (·.item) = items := by
  induction h with
  | nil => rfl
  | cons first rest ih => rw [List.map_cons, first.item_eq, ih]

/-- The visit is one to the credential that is propagated. -/
theorem Visits.credential_eq (h : p.Visits c t s v t' s') : v.credential = c := by
  cases h <;> rfl

/-- There is one visit to each credential, in the order of the credentials. -/
theorem VisitsAll.credentials_eq (h : p.VisitsAll credentials t s visits t' s') :
    visits.map (·.credential) = credentials := by
  induction h with
  | nil => rfl
  | cons first rest ih => rw [List.map_cons, first.credential_eq, ih]

/-- Each of the visits is one to a credential of the list. -/
theorem VisitsAll.exists_of_mem (h : p.VisitsAll credentials t s visits t' s') (hv : v ∈ visits) :
    ∃ t s t' s', v.credential ∈ credentials ∧ p.Visits v.credential t s v t' s' := by
  induction h with
  | nil => cases hv
  | @cons c credentials first visits t t₁ t' s s₁ s' hfirst rest ih =>
    -- the visit is the first one, or one of the rest, where the hypothesis of induction has it
    rcases List.mem_cons.1 hv with rfl | hv
    · have hc := hfirst.credential_eq
      rw [← hc] at hfirst
      exact ⟨t, s, t₁, s₁, hc ▸ List.mem_cons_self, hfirst⟩
    · obtain ⟨t₂, s₂, t₃, s₃, hmem, hvisit⟩ := ih hv
      exact ⟨t₂, s₂, t₃, s₃, List.mem_cons_of_mem _ hmem, hvisit⟩

/-- Visits go on where those before left off. -/
theorem VisitsAll.append (h : p.VisitsAll credentials t s visits t₁ s₁)
    (h' : p.VisitsAll more t₁ s₁ visits' t' s') :
    p.VisitsAll (credentials ++ more) t s (visits ++ visits') t' s' := by
  induction h with
  | nil => exact h'
  | cons first rest ih => exact .cons first (ih h')

/-- **Saving an item reports what the effort comes to.** -/
theorem Saves.ends (h : p.Saves item t s e t' s') : (p.saveItem item).Ends t s e.outcome t' s' := by
  cases h with
  | dry hdry =>
    simp only [saveItem, hdry, if_true]
    exact .reported _ (.pure _ t s)
  | saved hdry hsave =>
    simp only [saveItem, hdry, Bool.false_eq_true, if_false]
    exact hsave.bind (.reported _ (.pure _ t' s'))
  | abandoned hdry hsave =>
    simp only [saveItem, hdry, Bool.false_eq_true, if_false]
    exact hsave.bind (.reported _ (.pure _ t' s'))

/-- Saving several items reports the total of the efforts. -/
theorem SavesAll.ends (h : p.SavesAll items t s efforts t' s') :
    (p.saveItems items).Ends t s (.total (efforts.map (·.outcome))) t' s' := by
  induction h with
  | nil => exact .pure _ _ _
  | cons first rest ih => exact first.ends.bind (ih.bind (.pure _ _ _))

/-- What was collected is prepared and saved as the efforts say. -/
theorem propagateItems_ends {account : String} {collected : List Item}
    (h : p.SavesAll (itemsOf c account collected) t s efforts t' s') :
    (p.propagateItems c account collected).Ends t s
      (Visit.outcome ⟨c, none, collected, efforts⟩) t' s' := by
  -- the counters before the saving, then what the efforts add to them
  have hcomes : Visit.outcome ⟨c, none, collected, efforts⟩ =
      Outcome.add { Outcome.none with
        scanned := collected.length, duplicates := (dedup collected).duplicates.length,
        filtered := (prepare (dedup collected).unique c account).2 }
        (.total (efforts.map (·.outcome))) := by
    rw [Effort.total_outcome]
    simp [Visit.outcome, Visit.filtered, Visit.failures, Outcome.add, Outcome.none,
      prepare_eq_filterMap]
  rw [hcomes]
  have hsaved := h.ends
  -- the reports on the way take no time and change nothing
  refine .reported _ ?_
  refine ((Timed.Answers.reportAll _ s).ends t).bind ?_
  refine .reported _ ?_
  refine ((Timed.Answers.reportAll _ s).ends t).bind ?_
  refine .reported _ ?_
  exact hsaved.bind (.pure _ _ _)

/-- **To propagate a credential reports what the visit comes to.** -/
theorem Visits.ends (h : p.Visits c t s v t' s') : (p.propagate c).Ends t s v.outcome t' s' := by
  cases h with
  | @unknown answer line t' s' hlookup hline =>
    -- a late answer and an error have a line to report, an account that is found has none
    rcases answer with _ | (err | account)
    · cases hline
      exact hlookup.bind (.reported _ (.pure _ t' s'))
    · cases hline
      exact hlookup.bind (.reported _ (.pure _ t' s'))
    · cases hline
  | @scanned account found efforts t₁ t₂ t' s₁ s₂ s' hlookup hscan hsaves =>
    refine hlookup.bind (.reported _ (hscan.bind ?_))
    have hitems := propagateItems_ends hsaves
    -- a scan that ended early adds its error in front of what was collected
    obtain ⟨collected, _ | err⟩ := found
    · exact hitems
    · have hcomes : Visit.outcome ⟨c, some (scanFailure c err), collected, efforts⟩ =
          (Outcome.ofScanError (scanFailure c err)).add
            (Visit.outcome ⟨c, none, collected, efforts⟩) := by
        simp [Visit.outcome, Visit.filtered, Visit.failures, Outcome.add, Outcome.ofScanError,
          Outcome.none]
      show Timed.Ends _ _ _ (Visit.outcome ⟨c, some (scanFailure c err), collected, efforts⟩) _ _
      rw [hcomes]
      exact .reported _ (hitems.bind (.pure _ _ _))

/-- The credentials are counted as they are gone through. -/
theorem VisitsAll.ends (h : p.VisitsAll credentials t s visits t' s') :
    (p.propagateAll credentials).Ends t s
      (credentials.length, .total (visits.map (·.outcome))) t' s' := by
  induction h with
  | nil => exact .pure _ _ _
  | cons first rest ih => exact first.ends.bind (ih.bind (.pure _ _ _))

/-- **A cycle reports the total of its visits.** -/
theorem VisitsAll.runCycle_ends (h : p.VisitsAll credentials t s visits t' s') :
    (p.runCycle credentials).Ends t s
      ⟨p.clock s, credentials.length, .total (visits.map (·.outcome))⟩ t' s' := by
  refine ((Timed.Answers.read _ s).ends t).bind ?_
  refine .reported _ (h.ends.bind ?_)
  exact .reported _ (.reported _ (.pure _ t' s'))

end Runs

/-! ## Every run is one of visits -/

/-- Every call that the propagator makes answers some time or hangs. -/
structure Settled (p : Propagator σ) : Prop where
  accounts : ∀ c, (p.accounts c).Settles
  pages : ∀ c token, (p.inventory c token).Settles
  saves : ∀ key id token, (p.sink.save key id token).Settles

/-- Whenever the account of the credential is found, the scan after it asks for finitely many pages:
there is a bound on them that it does not reach. -/
def ScanEnds (p : Propagator σ) (c : Credential) : Prop :=
  ∀ account t s t' s',
    (Timed.bounded p.options.callTimeout (p.accounts c)).Ends t s (some (.ok account)) t' s' →
    ∃ budget, (((p.allowing budget).scan c).run t' s').ending ≠ .endless

section Existence

variable {p : Propagator σ} {c : Credential}

/-- However the sink answers, the attempts to save an item come to an end. -/
theorem exists_attemptSave (hp : p.Settled) (item : SyncItem) (left attempt t : Nat) (s : σ) :
    ∃ r t' s', (p.attemptSave item left attempt).Ends t s r t' s' := by
  induction left generalizing attempt t s with
  | zero =>
    obtain ⟨o, t₁, s₁, hcall, -⟩ :=
      (hp.saves item.key item.id item.token).ends_bounded p.options.callTimeout t s
    -- the last attempt: its error is the one that is reported
    cases ho : o.getD (.error .timeout) with
    | ok u => exact ⟨_, _, _, attemptSave_saved hcall ho⟩
    | error e => exact ⟨_, _, _, attemptSave_abandoned hcall ho⟩
  | succ left ih =>
    obtain ⟨o, t₁, s₁, hcall, -⟩ :=
      (hp.saves item.key item.id item.token).ends_bounded p.options.callTimeout t s
    cases ho : o.getD (.error .timeout) with
    | ok u => exact ⟨_, _, _, attemptSave_saved hcall ho⟩
    | error e =>
      -- a failed attempt that is not the last is followed by the pause
      obtain ⟨r, t', s', hrest⟩ := ih (attempt + 1) (t₁ + p.options.retryInterval) s₁
      exact ⟨_, _, _, attemptSave_retried hcall ho hrest⟩

/-- For every item there is an effort, if the sink settles. -/
theorem exists_saves (hp : p.Settled) (item : SyncItem) (t : Nat) (s : σ) :
    ∃ e t' s', p.Saves item t s e t' s' := by
  -- in a dry run the effort is empty
  cases hdry : p.options.dryRun with
  | true => exact ⟨_, _, _, .dry hdry⟩
  | false =>
    obtain ⟨r, t', s', hsave⟩ := exists_attemptSave hp item (max p.options.retry 1 - 1) 1 t s
    cases r with
    | ok attempts => exact ⟨_, _, _, .saved hdry hsave⟩
    | error e => exact ⟨_, _, _, .abandoned hdry hsave⟩

/-- However the sink answers, saving several items is a list of efforts. -/
theorem exists_savesAll (hp : p.Settled) (items : List SyncItem) (t : Nat) (s : σ) :
    ∃ efforts t' s', p.SavesAll items t s efforts t' s' := by
  induction items generalizing t s with
  | nil => exact ⟨[], t, s, .nil⟩
  | cons item items ih =>
    obtain ⟨e, t₁, s₁, first⟩ := exists_saves hp item t s
    obtain ⟨efforts, t', s', rest⟩ := ih t₁ s₁
    exact ⟨e :: efforts, t', s', .cons first rest⟩

/-- The bound on pages has no part in the saving of items. -/
theorem SavesAll.allowing {items : List SyncItem} {efforts : List Effort} {t t' : Nat} {s s' : σ}
    (h : p.SavesAll items t s efforts t' s') (budget : Nat) :
    (p.allowing budget).SavesAll items t s efforts t' s' := by
  induction h with
  | nil => exact .nil
  | cons first rest ih =>
    -- each effort carries over by its own kind, as only the scan looks at the bound
    refine .cons ?_ ih
    cases first with
    | dry hdry => exact .dry hdry
    | saved hdry hsave => exact .saved hdry ((p.saveWithRetry_allowing budget _).symm ▸ hsave)
    | abandoned hdry hsave =>
      exact .abandoned hdry ((p.saveWithRetry_allowing budget _).symm ▸ hsave)

/-- **A scan that does not reach its bound ends**, and in the same way under every larger bound. -/
theorem scanFrom_ends (hp : p.Settled) {budget : Nat} {token : Option String} {t : Nat} {s : σ}
    (h : ((p.scanFrom c budget token).run t s).ending ≠ .endless) :
    ∃ found t' s', ∀ more, budget ≤ more → (p.scanFrom c more token).Ends t s found t' s' := by
  -- along the bound: the page after this one is listed under one less
  induction budget generalizing token t s with
  | zero => exact absurd rfl h
  | succ budget ih =>
    obtain ⟨o, t₁, s₁, hcall, -⟩ := (hp.pages c token).ends_bounded p.options.callTimeout t s
    cases ho : afterPage c token o with
    | ends found =>
      refine ⟨found, t₁, s₁, fun more hmore => ?_⟩
      obtain ⟨more, rfl⟩ := Nat.exists_eq_add_of_le' hmore
      exact scanFrom_stops hcall ho (more + budget)
    | goesOn items next =>
      -- a rest that reached its bound would be a scan that reached its bound
      have hrest : ((p.scanFrom c budget (some next)).run t₁ s₁).ending ≠ .endless :=
        fun hrest => h (scanFrom_stalls hcall ho ⟨hrest, rfl⟩).1
      obtain ⟨found, t', s', hends⟩ := ih hrest
      refine ⟨{ found with items := items ++ found.items }, t', s', fun more hmore => ?_⟩
      obtain ⟨more, rfl⟩ := Nat.exists_eq_add_of_le' hmore
      exact scanFrom_goesOn hcall ho (hends (more + budget) (Nat.le_add_left budget more))

/-- A scan ends in one way, whatever its bound on pages. -/
theorem Settled.scanFrom_unique (hp : p.Settled) {budget budget' t t₁ t₂ : Nat}
    {token : Option String} {s s₁ s₂ : σ} {found found' : Scan}
    (h : (p.scanFrom c budget token).Ends t s found t₁ s₁)
    (h' : (p.scanFrom c budget' token).Ends t s found' t₂ s₂) : found = found' := by
  have hends : ((p.scanFrom c budget token).run t s).ending ≠ .endless := by
    rw [h.ending_run]
    exact nofun
  have hends' : ((p.scanFrom c budget' token).run t s).ending ≠ .endless := by
    rw [h'.ending_run]
    exact nofun
  obtain ⟨one, _, _, hone⟩ := scanFrom_ends hp hends
  obtain ⟨other, _, _, hother⟩ := scanFrom_ends hp hends'
  -- under a bound that is large enough for both they are one scan
  calc found = one := (h.unique (hone budget (Nat.le_refl _))).1
    _ = other := ((hone _ (Nat.le_max_left budget budget')).unique
        (hother _ (Nat.le_max_right budget budget'))).1
    _ = found' := ((hother budget' (Nat.le_refl _)).unique h').1

/-- **A credential whose scans end is visited**, in the same way under every bound on pages that is
large enough. -/
theorem exists_visits (hp : p.Settled) (hscan : p.ScanEnds c) (t : Nat) (s : σ) :
    ∃ enough v t' s', ∀ budget, enough ≤ budget → (p.allowing budget).Visits c t s v t' s' := by
  obtain ⟨answer, t₁, s₁, hlookup, -⟩ := (hp.accounts c).ends_bounded p.options.callTimeout t s
  cases hline : unknownAccount c answer with
  | some line => exact ⟨0, _, _, _, fun budget _ => .unknown hlookup hline⟩
  | none =>
    obtain ⟨account, rfl⟩ : ∃ account, answer = some (.ok account) := by
      -- there is no line to report, so that the lookup gave an account
      rcases answer with _ | (e | account)
      · cases hline
      · cases hline
      · exact ⟨account, rfl⟩
    -- the bound depends on the account, on the time and on the state after the lookup
    obtain ⟨enough, hbound⟩ := hscan account t s t₁ s₁ hlookup
    rw [scan_allowing] at hbound
    obtain ⟨found, t₂, s₂, hfound⟩ := scanFrom_ends hp hbound
    obtain ⟨efforts, t', s', hsaves⟩ := exists_savesAll hp (itemsOf c account found.items) t₂ s₂
    refine ⟨enough, ⟨c, found.error.map (scanFailure c), found.items, efforts⟩, t', s',
      fun budget hbudget => ?_⟩
    have hscanned : ((p.allowing budget).scan c).Ends t₁ s₁ found t₂ s₂ := by
      rw [scan_allowing]
      exact hfound budget hbudget
    exact .scanned hlookup hscanned (hsaves.allowing budget)

/-- **A cycle over credentials whose scans end is one of visits.** -/
theorem exists_visitsAll (hp : p.Settled) {credentials : List Credential}
    (hscan : ∀ c ∈ credentials, p.ScanEnds c) (t : Nat) (s : σ) :
    ∃ enough visits t' s', ∀ budget, enough ≤ budget →
      (p.allowing budget).VisitsAll credentials t s visits t' s' := by
  induction credentials generalizing t s with
  | nil => exact ⟨0, [], t, s, fun budget _ => .nil⟩
  | cons c credentials ih =>
    obtain ⟨hfirst, hothers⟩ := List.forall_mem_cons.1 hscan
    obtain ⟨enough₁, v, t₁, s₁, first⟩ := exists_visits hp hfirst t s
    obtain ⟨enough₂, visits, t', s', rest⟩ := ih hothers t₁ s₁
    -- each part needs a bound of its own; the larger one serves both
    refine ⟨max enough₁ enough₂, v :: visits, t', s', fun budget hbudget => ?_⟩
    exact .cons (first budget (Nat.le_trans (Nat.le_max_left _ _) hbudget))
      (rest budget (Nat.le_trans (Nat.le_max_right _ _) hbudget))

end Existence

end Propagator

end GatewayDirectory.Sync
