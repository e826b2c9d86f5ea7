import GatewayDirectory.Proofs.Sync.Visits
import GatewayDirectory.Proofs.Timed.Parts

/-!
# Propagators that work alike

Two propagators are alike, seen through a view of the state, if their calls are and they have the
same options. Then their cycles are too (`Alike.runCycle`) and make the same visits
(`Alike.visitsAll`), so that what holds of the runs of one is known of the other.
-/

namespace GatewayDirectory.Sync.Propagator

open Timed (Mirrors)

variable {σ ω : Type}

/-- Seen through a view of the state, each call of one propagator under a limit is that of the
other. -/
structure Alike (view : σ → ω) (p : Propagator σ) (q : Propagator ω) : Prop where
  accounts : ∀ limit c,
    Mirrors view (Timed.bounded limit (p.accounts c)) (Timed.bounded limit (q.accounts c))
  pages : ∀ limit c token, Mirrors view (Timed.bounded limit (p.inventory c token))
    (Timed.bounded limit (q.inventory c token))
  sink : ∀ limit key id token, Mirrors view (Timed.bounded limit (p.sink.save key id token))
    (Timed.bounded limit (q.sink.save key id token))
  clock : ∀ s, p.clock s = q.clock (view s)
  options : p.options = q.options
  kind : p.sink.kind = q.sink.kind
  pageBudget : p.pageBudget = q.pageBudget

namespace Alike

variable {view : σ → ω} {p : Propagator σ} {q : Propagator ω}

/-- The attempts to save an item are alike, whatever is left of them. -/
theorem attemptSave (h : Alike view p q) (item : SyncItem) (left attempt : Nat) :
    Mirrors view (p.attemptSave item left attempt) (q.attemptSave item left attempt) := by
  have hcall := h.sink q.options.callTimeout item.key item.id item.token
  -- along the attempts that are left: each is one call of the sink, alike by `h.sink`
  induction left generalizing attempt with
  | zero =>
    unfold Propagator.attemptSave
    rw [h.options]
    refine hcall.bind fun o => ?_
    cases o.getD (.error .timeout) with
    | ok u => exact .pure _
    | error e => exact .pure _
  | succ left ih =>
    rw [Propagator.attemptSave, Propagator.attemptSave, h.options]
    refine hcall.bind fun o => ?_
    cases o.getD (.error .timeout) with
    | ok u => exact .pure _
    -- only this branch makes another attempt, after the pause
    | error e => exact (Mirrors.report _).bind fun _ => (Mirrors.sleep _).bind fun _ => ih _

/-- An item is saved alike, with the retries. -/
theorem saveWithRetry (h : Alike view p q) (item : SyncItem) :
    Mirrors view (p.saveWithRetry item) (q.saveWithRetry item) := by
  unfold Propagator.saveWithRetry
  rw [h.options]
  exact h.attemptSave item _ 1

/-- An item is treated alike, in a dry run too. -/
theorem saveItem (h : Alike view p q) (item : SyncItem) :
    Mirrors view (p.saveItem item) (q.saveItem item) := by
  unfold Propagator.saveItem
  rw [h.options]
  by_cases hdry : q.options.dryRun = true
  · rw [if_pos hdry, if_pos hdry]
    exact (Mirrors.report _).bind fun _ => .pure _
  · rw [if_neg hdry, if_neg hdry]
    refine (h.saveWithRetry item).bind fun r => ?_
    cases r with
    | ok attempts => exact (Mirrors.report _).bind fun _ => .pure _
    | error e => exact (Mirrors.report _).bind fun _ => .pure _

/-- Several items are saved alike. -/
theorem saveItems (h : Alike view p q) (items : List SyncItem) :
    Mirrors view (p.saveItems items) (q.saveItems items) := by
  induction items with
  | nil => exact .pure _
  | cons item items ih => exact (h.saveItem item).bind fun _ => ih.bind fun _ => .pure _

/-- The scans are alike, from every page on. -/
theorem scanFrom (h : Alike view p q) (c : Credential) (budget : Nat) (token : Option String) :
    Mirrors view (p.scanFrom c budget token) (q.scanFrom c budget token) := by
  -- along the bound on pages; the token moves from page to page
  induction budget generalizing token with
  | zero => exact .endless
  | succ budget ih =>
    rw [scanFrom_succ, scanFrom_succ, h.options]
    refine (h.pages _ c token).bind fun o => ?_
    cases afterPage c token o with
    | ends found => exact .pure _
    | goesOn items next => exact (ih _).bind fun _ => .pure _

/-- What a scan collected is propagated alike. -/
theorem propagateItems (h : Alike view p q) (c : Credential) (account : String)
    (items : List Item) :
    Mirrors view (p.propagateItems c account items) (q.propagateItems c account items) := by
  refine (Mirrors.report _).bind fun _ => (Mirrors.reportAll _).bind fun _ => ?_
  refine (Mirrors.report _).bind fun _ => (Mirrors.reportAll _).bind fun _ => ?_
  exact (Mirrors.report _).bind fun _ => (h.saveItems _).bind fun _ => .pure _

/-- Scanning and propagating are alike once the account is known. -/
theorem propagateScan (h : Alike view p q) (c : Credential) (account : String) :
    Mirrors view (p.propagateScan c account) (q.propagateScan c account) := by
  unfold Propagator.propagateScan scan
  rw [h.pageBudget]
  refine (Mirrors.report _).bind fun _ => (h.scanFrom c _ none).bind fun found => ?_
  -- a scan that failed reports it and then propagates what it had collected
  cases found.error with
  | none => exact h.propagateItems c account found.items
  | some e =>
    exact (Mirrors.report _).bind fun _ =>
      (h.propagateItems c account found.items).bind fun _ => .pure _

/-- A credential is propagated alike. -/
theorem propagate (h : Alike view p q) (c : Credential) :
    Mirrors view (p.propagate c) (q.propagate c) := by
  unfold Propagator.propagate
  rw [h.options]
  refine (h.accounts _ c).bind fun answer => ?_
  rcases answer with _ | (e | account)
  · exact (Mirrors.report _).bind fun _ => .pure _
  · exact (Mirrors.report _).bind fun _ => .pure _
  · exact h.propagateScan c account

/-- The credentials are propagated alike, one after the other. -/
theorem propagateAll (h : Alike view p q) (credentials : List Credential) :
    Mirrors view (p.propagateAll credentials) (q.propagateAll credentials) := by
  induction credentials with
  | nil => exact .pure _
  | cons c credentials ih => exact (h.propagate c).bind fun _ => ih.bind fun _ => .pure _

/-- **The cycles of propagators that are alike are alike**: the report, the time that it takes and
what is seen of the state that it leaves. -/
theorem runCycle (h : Alike view p q) (credentials : List Credential) :
    Mirrors view (p.runCycle credentials) (q.runCycle credentials) := by
  -- the report begins with the time of the clock, which is the same by `h.clock`
  have hclock : Mirrors view (Timed.read p.clock) (Timed.read q.clock) := by
    intro t s
    show Timed.Trace.mk (.value (p.clock s)) (view s) t [] = _
    rw [h.clock s]
    rfl
  unfold Propagator.runCycle
  rw [h.options, h.kind]
  refine hclock.bind fun _ => (Mirrors.report _).bind fun _ => ?_
  refine (h.propagateAll credentials).bind fun _ => (Mirrors.report _).bind fun _ => ?_
  exact (Mirrors.report _).bind fun _ => .pure _

/-! ## Visits -/

variable {t t' : Nat} {s s' : σ}

/-- What becomes of an item with the one becomes of it with the other. -/
theorem saves (h : Alike view p q) {item : SyncItem} {e : Effort}
    (hsaves : p.Saves item t s e t' s') : q.Saves item t (view s) e t' (view s') := by
  cases hsaves with
  | dry hdry => exact .dry (h.options ▸ hdry)
  | saved hdry hsave => exact .saved (h.options ▸ hdry) ((h.saveWithRetry item).ends hsave)
  | abandoned hdry hsave =>
    rw [h.options]
    exact .abandoned (h.options ▸ hdry) ((h.saveWithRetry item).ends hsave)

/-- What becomes of several items with the one becomes of them with the other. -/
theorem savesAll (h : Alike view p q) {items : List SyncItem} {efforts : List Effort}
    (hsaves : p.SavesAll items t s efforts t' s') :
    q.SavesAll items t (view s) efforts t' (view s') := by
  induction hsaves with
  | nil => exact .nil
  | cons first rest ih => exact .cons (h.saves first) ih

/-- A visit of the one is a visit of the other. -/
theorem visits (h : Alike view p q) {c : Credential} {v : Visit} (hvisit : p.Visits c t s v t' s') :
    q.Visits c t (view s) v t' (view s') := by
  cases hvisit with
  | unknown hlookup hline =>
    rw [h.options] at hlookup
    exact .unknown ((h.accounts _ c).ends hlookup) hline
  | scanned hlookup hscan hsaves =>
    rw [h.options] at hlookup
    rw [scan, h.pageBudget] at hscan
    exact .scanned ((h.accounts _ c).ends hlookup) ((h.scanFrom c _ none).ends hscan)
      (h.savesAll hsaves)

/-- **Propagators that are alike make the same visits.** -/
theorem visitsAll (h : Alike view p q) {credentials : List Credential} {visits : List Visit}
    (hvisits : p.VisitsAll credentials t s visits t' s') :
    q.VisitsAll credentials t (view s) visits t' (view s') := by
  induction hvisits with
  | nil => exact .nil
  | cons first rest ih => exact .cons (h.visits first) ih

end Alike

end GatewayDirectory.Sync.Propagator
