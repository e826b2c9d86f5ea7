import GatewayDirectory.Proofs.Sync.Contacts
import GatewayDirectory.Proofs.Sync.Keys
import Mathlib.Algebra.BigOperators.Group.Finset.Basic
import Mathlib.Algebra.GroupWithZero.Nat
import Mathlib.Data.Finset.Card

/-!
# What a report adds up to

Every item that a cycle scans is accounted for: it is saved, given up, not listed, or one of several
with the same name. `Visit.balance` says so for one credential, from what `dedup` and `prepare` do
with a list of items, and `ReportLaw` for the report of a whole cycle, along with what is said there
about duplicates and errors. `SinkLaw` says what the sink was called for.
-/

namespace GatewayDirectory.Sync

open Finset

/-! ## Items by the number of their name's occurrences -/

/-- The names that occur more than once. -/
def repeatedNames (items : List Item) : Finset String :=
  (items.map (·.name)).toFinset.filter fun name => 1 < occurrences name items

/-- **The duplicates of a scan are the names that occur more than once.** -/
theorem length_duplicates (items : List Item) :
    (dedup items).duplicates.length = (repeatedNames items).card := by
  obtain ⟨hnodup, hmem⟩ := firstNames_spec items
  rw [duplicates_eq]
  -- both sides hold the names that occur more than once, and `firstNames` has no name twice
  have hset : ((firstNames items).filter fun name => decide (1 < occurrences name items)).toFinset =
      repeatedNames items := by
    ext name
    rw [List.mem_toFinset, List.mem_filter, hmem, repeatedNames, mem_filter, List.mem_toFinset,
      decide_eq_true_iff]
  rw [← hset, List.toFinset_card_of_nodup (hnodup.filter _)]

/-- The items that a scan keeps are as many as the names that occur once. -/
theorem length_unique (items : List Item) :
    (dedup items).unique.length =
      ((items.map (·.name)).toFinset.filter fun name => ¬ 1 < occurrences name items).card := by
  have hset : ((dedup items).unique.map (·.name)).toFinset =
      (items.map (·.name)).toFinset.filter fun name => ¬ 1 < occurrences name items := by
    ext name
    rw [List.mem_toFinset, mem_filter, List.mem_toFinset]
    constructor
    · intro h
      obtain ⟨x, hx, rfl⟩ := List.mem_map.1 h
      obtain ⟨hmem, honce⟩ := mem_unique_iff.1 hx
      exact ⟨List.mem_map_of_mem hmem, by omega⟩
    · -- a name that occurs but not twice occurs once, and its item is kept
      rintro ⟨h, hle⟩
      have hpos := occurrences_pos_iff.2 h
      obtain ⟨x, hx, rfl⟩ := List.mem_map.1 h
      exact List.mem_map_of_mem (mem_unique_iff.2 ⟨hx, by omega⟩)
  rw [← hset, List.toFinset_card_of_nodup (nodup_unique_names items), List.length_map]

/-- **Every item is kept or is one of several with its name.** -/
theorem length_eq_unique_add (items : List Item) :
    items.length =
      (dedup items).unique.length + ∑ name ∈ repeatedNames items, occurrences name items := by
  -- each of the names that occur once adds one to the sum
  have honce : ∑ name ∈ (items.map (·.name)).toFinset with ¬ 1 < occurrences name items,
      occurrences name items = (dedup items).unique.length := by
    rw [length_unique, card_eq_sum_ones]
    refine sum_congr rfl fun name hname => ?_
    obtain ⟨hmem, hle⟩ := mem_filter.1 hname
    have hpos := occurrences_pos_iff.2 (List.mem_toFinset.1 hmem)
    omega
  -- the items are counted name by name, and the names parted by how often they occur
  calc items.length = (items.map (·.name)).length := (List.length_map _).symm
    _ = ∑ name ∈ (items.map (·.name)).toFinset, (items.map (·.name)).count name :=
      (List.sum_toFinset_count_eq_length _).symm
    _ = ∑ name ∈ (items.map (·.name)).toFinset, occurrences name items :=
      sum_congr rfl fun name _ => count_map_name name items
    _ = ∑ name ∈ repeatedNames items, occurrences name items +
        ∑ name ∈ (items.map (·.name)).toFinset with ¬ 1 < occurrences name items,
          occurrences name items :=
      (sum_filter_add_sum_filter_not _ _ _).symm
    _ = (dedup items).unique.length + ∑ name ∈ repeatedNames items, occurrences name items := by
      rw [honce, Nat.add_comm]

/-! ## One credential -/

/-- Each effort is a save or was given up. -/
theorem length_efforts (efforts : List Effort) :
    efforts.countP (·.error.isNone) + efforts.countP (·.error.isSome) = efforts.length := by
  rw [List.length_eq_countP_add_countP (·.error.isNone)]
  congr 1
  refine List.countP_congr fun e _ => ?_
  cases e.error <;> simp

/-- The items that are kept are to be saved or not listed. -/
theorem length_itemsOf (c : Credential) (account : String) (items : List Item) :
    (itemsOf c account items).length +
        (dedup items).unique.countP (fun x => (filterRename c x).isNone) =
      (dedup items).unique.length := by
  rw [itemsOf, prepare_eq_filterMap, List.length_map, List.length_filterMap_eq_countP,
    List.length_eq_countP_add_countP fun x => (filterRename c x).isSome]
  congr 1
  refine List.countP_congr fun x _ => ?_
  cases filterRename c x <;> simp

namespace Visit

/-- The line count of a visit is that of its troubles. -/
theorem length_failures (v : Visit) :
    v.failures.length = v.efforts.countP (·.error.isSome) + v.trouble.toList.length := by
  have hlines : (v.efforts.filterMap (·.failure?)).length = v.efforts.countP (·.error.isSome) := by
    rw [List.length_filterMap_eq_countP]
    refine List.countP_congr fun e _ => ?_
    rw [Effort.failure?, Option.isSome_map]
  rw [failures, List.length_append, hlines, Nat.add_comm]

/-- **What a visit collected is accounted for**: saved, given up, not listed, or one of several with
the same name. -/
theorem balance {σ : Type} {p : Propagator σ} {c : Credential} {v : Visit} {t t' : Nat} {s s' : σ}
    (h : p.Visits c t s v t' s') :
    v.collected.length = v.efforts.countP (·.error.isNone) + v.efforts.countP (·.error.isSome) +
      v.filtered + ∑ name ∈ repeatedNames v.collected, occurrences name v.collected := by
  rw [length_efforts]
  cases h with
  -- without an account nothing was collected
  | unknown hlookup hline => rfl
  | @scanned account found efforts _ _ _ _ _ _ hlookup hscan hsaves =>
    have hefforts : efforts.length = (itemsOf c account found.items).length := by
      rw [← hsaves.items_eq, List.length_map]
    have hsplit := length_itemsOf c account found.items
    have hall := length_eq_unique_add found.items
    show found.items.length = efforts.length +
      (dedup found.items).unique.countP (fun x => (filterRename c x).isNone) +
      ∑ name ∈ repeatedNames found.items, occurrences name found.items
    omega

end Visit

/-! ## A whole cycle -/

/-- Parts come to the sums of their counts and to their lines in order. -/
theorem Outcome.total_eq (parts : List Outcome) :
    total parts =
      ⟨(parts.map (·.scanned)).sum, (parts.map (·.duplicates)).sum, (parts.map (·.filtered)).sum,
        (parts.map (·.saved)).sum, (parts.map (·.failed)).sum, (parts.map (·.scanErrors)).sum,
        parts.flatMap (·.errors)⟩ := by
  induction parts with
  | nil => rfl
  | cons a parts ih =>
    rw [total_cons, ih]
    rfl

/-- How a report adds up, given the visits of its cycle. -/
structure ReportLaw (credentials : List Credential) (visits : List Visit) (r : Report) :
    Prop where
  credentials_eq : r.credentials = credentials.length
  scanned_eq : r.outcome.scanned = r.outcome.saved + r.outcome.failed + r.outcome.filtered +
    (visits.map fun v => ∑ name ∈ repeatedNames v.collected, occurrences name v.collected).sum
  duplicates_eq : r.outcome.duplicates = (visits.map fun v => (repeatedNames v.collected).card).sum
  /-- One line for each failure, in the order in which they came about. -/
  errors_eq : r.outcome.errors = visits.flatMap (·.failures)
  errors_length : r.outcome.errors.length = r.outcome.failed + r.outcome.scanErrors
  /-- At most one of each credential. -/
  scanErrors_eq : r.outcome.scanErrors = visits.countP (·.trouble.isSome)
  scanErrors_le : r.outcome.scanErrors ≤ credentials.length
  success_iff : r.success = true ↔ r.outcome.errors = []

/-- What the sink was called for in a cycle that is no dry run, given its visits. -/
structure SinkLaw (retry : Nat) (visits : List Visit) (r : Report) (saves : List SyncItem) :
    Prop where
  /-- There is an effort for each item that was saved or given up. -/
  efforts_length : (visits.flatMap (·.efforts)).length = r.outcome.saved + r.outcome.failed
  attempts : ∀ e ∈ visits.flatMap (·.efforts), 1 ≤ e.attempts ∧ e.attempts ≤ max retry 1
  saves_eq : saves =
    (visits.flatMap (·.efforts)).flatMap fun e => List.replicate e.attempts e.item

section Cycle

variable {σ : Type} {p : Propagator σ} {credentials : List Credential} {visits : List Visit}
  {t t' : Nat} {s s' : σ}

/-- The visits of a cycle are accounted for together. -/
theorem balance_all (h : p.VisitsAll credentials t s visits t' s') :
    (visits.map fun v => v.collected.length).sum =
      (visits.map fun v => v.efforts.countP (·.error.isNone)).sum +
        (visits.map fun v => v.efforts.countP (·.error.isSome)).sum +
        (visits.map (·.filtered)).sum +
        (visits.map fun v =>
          ∑ name ∈ repeatedNames v.collected, occurrences name v.collected).sum := by
  induction h with
  | nil => rfl
  | cons first rest ih =>
    have hfirst := Visit.balance first
    simp only [List.map_cons, List.sum_cons]
    omega

/-- There is a line for each item given up and for each trouble. -/
theorem length_flatMap_failures (visits : List Visit) :
    (visits.flatMap (·.failures)).length =
      (visits.map fun v => v.efforts.countP (·.error.isSome)).sum +
        (visits.map fun v => v.trouble.toList.length).sum := by
  induction visits with
  | nil => rfl
  | cons v visits ih =>
    rw [List.flatMap_cons, List.length_append, ih, v.length_failures]
    simp only [List.map_cons, List.sum_cons]
    omega

/-- A visit has at most one trouble, so that they are counted by the visits that have one. -/
theorem sum_troubles (visits : List Visit) :
    (visits.map fun v => v.trouble.toList.length).sum = visits.countP (·.trouble.isSome) := by
  induction visits with
  | nil => rfl
  | cons v visits ih =>
    rw [List.map_cons, List.sum_cons, ih, List.countP_cons, Nat.add_comm]
    cases v.trouble <;> rfl

/-- **A report adds up.** -/
theorem reportLaw_of_runsAs {ω : Type} {p : Propagator ω} {w : ω} {r : CycleRun ω}
    (h : p.RunsAs credentials t w r) : ReportLaw credentials r.visits r.report := by
  have htotal := Outcome.total_eq (r.visits.map (·.outcome))
  simp only [List.map_map, List.flatMap_map] at htotal
  -- one visit for each credential bounds the scan errors
  have hlength : r.visits.length = credentials.length := by
    rw [← h.visits.credentials_eq, List.length_map]
  have herrors := length_flatMap_failures r.visits
  have htroubles := sum_troubles r.visits
  have hle : r.visits.countP (·.trouble.isSome) ≤ r.visits.length := List.countP_le_length
  rw [h.report_eq, htotal]
  refine ⟨rfl, balance_all h.visits, ?_, rfl, herrors, htroubles, ?_, ?_⟩
  · show (r.visits.map fun v => (dedup v.collected).duplicates.length).sum = _
    simp only [length_duplicates]
  · show (r.visits.map fun v => v.trouble.toList.length).sum ≤ credentials.length
    omega
  · rw [← List.length_eq_zero_iff, Report.success, Bool.and_eq_true, beq_iff_eq, beq_iff_eq]
    show (r.visits.map fun v => v.efforts.countP (·.error.isSome)).sum = 0 ∧
      (r.visits.map fun v => v.trouble.toList.length).sum = 0 ↔
        (r.visits.flatMap (·.failures)).length = 0
    omega

/-- **The sink is called for what is saved or given up**, and for nothing else. -/
theorem sinkLaw_of_runsAs {ω : Type} {p : Propagator ω} {w : ω} {r : CycleRun ω}
    (h : p.RunsAs credentials t w r) (hdry : p.options.dryRun = false) :
    SinkLaw p.options.retry r.visits r.report (r.contacts.filterMap Contact.saved?) := by
  obtain ⟨hsaves, hattempts⟩ := h.visits.saves_eq
  refine ⟨?_, fun e he => (hattempts e he).bounds hdry, hsaves⟩
  have htotal := Outcome.total_eq (r.visits.map (·.outcome))
  simp only [List.map_map, List.flatMap_map] at htotal
  rw [h.report_eq, htotal, List.length_flatMap]
  show _ = (r.visits.map fun v => v.efforts.countP (·.error.isNone)).sum +
    (r.visits.map fun v => v.efforts.countP (·.error.isSome)).sum
  -- the items saved and those given up of a visit are its efforts
  rw [← List.sum_map_add]
  simp only [length_efforts]

end Cycle

/-! ## Whatever the calls answer -/

/-- **The report of a cycle adds up, whatever the calls answer.** Of calls it is assumed only that
each of them answers some time or hangs, and of scans that they ask for finitely many pages. Then
the cycle ends; its visits go through the credentials in order, its counts add up, and without a dry
run the sink is called for each item that is saved or given up, from one time to as many as the
options allow, and for nothing else. -/
theorem report_adds_up {ω : Type} (p : Propagator ω) (credentials : List Credential) (t : Nat)
    (w : ω) (hcalls : p.Settled) (hscans : ∀ c ∈ credentials, p.ScanEnds c) :
    ∃ enough r, ∀ budget, enough ≤ budget →
      (p.allowing budget).RunsAs credentials t w r ∧
      r.visits.map (·.credential) = credentials ∧
      ReportLaw credentials r.visits r.report ∧
      (p.options.dryRun = false →
        SinkLaw p.options.retry r.visits r.report (r.contacts.filterMap Contact.saved?)) := by
  obtain ⟨enough, r, hruns⟩ := Propagator.exists_runsAs hcalls hscans t w
  refine ⟨enough, r, fun budget hbudget => ?_⟩
  have hrun := hruns budget hbudget
  have hsink := sinkLaw_of_runsAs hrun
  exact ⟨hrun, hrun.visits.credentials_eq, reportLaw_of_runsAs hrun, hsink⟩

/-- A propagator that meets trouble of each kind: the accounts of one role are never found, every
second page is refused, and saves of one gateway hang. -/
def Propagator.troubled : Propagator Unit where
  accounts c := if c.role = "lost" then .hang else do
    Timed.sleep 5
    return .ok "1"
  inventory c token := match token with
    | none => return .ok ⟨[⟨"a", "1"⟩, ⟨"b", "2"⟩, ⟨"b", "3"⟩, ⟨"c", "4"⟩], some "more"⟩
    | some _ => return .error (.page c.role "gone")
  sink := ⟨.queue, fun _ id _ => if id = "4" then .hang else return .ok ()⟩
  options := .usual
  clock _ := ⟨0, 0⟩
  pageBudget := 0

/-- A cycle over two credentials that meets all this trouble. -/
theorem report_adds_up_of_trouble :
    let p := Propagator.troubled
    let credentials : List Credential :=
      [⟨"lost", "eu", none, none, .empty⟩, ⟨"found", "eu", none, none, .empty⟩]
    p.Settled ∧ (∀ c ∈ credentials, p.ScanEnds c) ∧
      ∃ enough r, ∀ budget, enough ≤ budget →
        (p.allowing budget).RunsAs credentials 0 () r ∧
        r.visits.map (·.credential) = credentials ∧
        ReportLaw credentials r.visits r.report ∧
        (p.options.dryRun = false →
          SinkLaw p.options.retry r.visits r.report (r.contacts.filterMap Contact.saved?)) := by
  intro p credentials
  have hcalls : p.Settled := by
    refine ⟨fun c t s => ?_, fun c token t s => ?_, fun key id token t s => ?_⟩
    · by_cases hc : c.role = "lost"
      · simp [p, Propagator.troubled, hc, Timed.run]
      · simp [p, Propagator.troubled, hc, Timed.run, Timed.sleep, Timed.bind]
    · intro hendless
      cases token with
      | none => cases hendless
      | some token => cases hendless
    · by_cases hid : id = "4"
      · simp [p, Propagator.troubled, hid, Timed.run]
      · simp [p, Propagator.troubled, hid, Timed.run]
  have hscans (c : Credential) : p.ScanEnds c := by
    intro account t s t' s' hfound
    refine ⟨2, fun hendless => ?_⟩
    cases hendless
  exact ⟨hcalls, fun c _ => hscans c, report_adds_up p credentials 0 () hcalls fun c _ => hscans c⟩

end GatewayDirectory.Sync
