import GatewayDirectory.Proofs.Timed.Limits
import GatewayDirectory.Sync.Cycle

/-!
# Saves and scans step by step

What one attempt to save an item and one page of a scan can come to. There is one lemma for each way
in which a step ends (`attemptSave_saved`, `attemptSave_abandoned`, `attemptSave_retried`,
`scanFrom_stops`, `scanFrom_goesOn`, `scanFrom_stalls`) and one for each loop that lists them
(`attemptSave_cases`, `scanFrom_cases`), so that what a whole loop does follows by induction on the
attempts left or on the pages that it may ask for.
-/

namespace GatewayDirectory.Sync.Propagator

variable {σ : Type}

/-! ## Attempts to save -/

section Attempts

variable {p : Propagator σ} {item : SyncItem} {o : Option (Except SinkError Unit)} {e : SinkError}
  {r : Except SinkError Nat} {left attempt t t₁ t' : Nat} {s s₁ s' : σ}

/-- An attempt that succeeds is the last one. -/
theorem attemptSave_saved
    (hcall : (Timed.bounded p.options.callTimeout (p.sink.save item.key item.id item.token)).Ends
      t s o t₁ s₁) (ho : o.getD (.error .timeout) = .ok ()) :
    (p.attemptSave item left attempt).Ends t s (.ok attempt) t₁ s₁ := by
  unfold attemptSave
  refine hcall.bind ?_
  rw [ho]
  exact (Timed.Answers.pure _ s₁).ends t₁

/-- The last attempt fails. -/
theorem attemptSave_abandoned
    (hcall : (Timed.bounded p.options.callTimeout (p.sink.save item.key item.id item.token)).Ends
      t s o t₁ s₁) (ho : o.getD (.error .timeout) = .error e) :
    (p.attemptSave item 0 attempt).Ends t s (.error e) t₁ s₁ := by
  unfold attemptSave
  refine hcall.bind ?_
  rw [ho]
  exact (Timed.Answers.pure _ s₁).ends t₁

/-- An attempt fails, and after a pause the next one is made. -/
theorem attemptSave_retried
    (hcall : (Timed.bounded p.options.callTimeout (p.sink.save item.key item.id item.token)).Ends
      t s o t₁ s₁) (ho : o.getD (.error .timeout) = .error e)
    (hrest : (p.attemptSave item left (attempt + 1)).Ends (t₁ + p.options.retryInterval) s₁
      r t' s') :
    (p.attemptSave item (left + 1) attempt).Ends t s r t' s' := by
  rw [attemptSave]
  refine hcall.bind ?_
  rw [ho]
  exact .reported _ ((Timed.Ends.sleep _ t₁ s₁).bind hrest)

/-- **What an attempt can come to**: it succeeds, or it is the last one and fails, or it fails and
the attempts left are made. -/
theorem attemptSave_cases (h : (p.attemptSave item left attempt).Ends t s r t' s') :
    ∃ o t₁ s₁,
      (Timed.bounded p.options.callTimeout (p.sink.save item.key item.id item.token)).Ends
        t s o t₁ s₁ ∧
      ((o.getD (.error .timeout) = .ok () ∧ r = .ok attempt ∧ t' = t₁ ∧ s' = s₁) ∨
        ∃ e, o.getD (.error .timeout) = .error e ∧
          ((left = 0 ∧ r = .error e ∧ t' = t₁ ∧ s' = s₁) ∨
            ∃ fewer, left = fewer + 1 ∧
              (p.attemptSave item fewer (attempt + 1)).Ends (t₁ + p.options.retryInterval) s₁
                r t' s')) := by
  have hend := h
  unfold attemptSave at hend
  obtain ⟨o, t₁, s₁, hcall, -⟩ := hend.of_bind
  refine ⟨o, t₁, s₁, hcall, ?_⟩
  cases ho : o.getD (.error .timeout) with
  | ok u =>
    obtain ⟨rfl, rfl, rfl⟩ := h.unique (attemptSave_saved hcall ho)
    exact .inl ⟨rfl, rfl, rfl, rfl⟩
  | error e =>
    refine .inr ⟨e, rfl, ?_⟩
    cases left with
    | zero =>
      obtain ⟨rfl, rfl, rfl⟩ := h.unique (attemptSave_abandoned hcall ho)
      exact .inl ⟨rfl, rfl, rfl, rfl⟩
    | succ fewer =>
      rw [attemptSave] at h
      obtain ⟨o', t₂, s₂, hcall', hrest⟩ := h.of_bind
      obtain ⟨rfl, rfl, rfl⟩ := hcall.unique hcall'
      rw [ho] at hrest
      obtain ⟨_, t₂, s₂, hreport, hpaused⟩ := hrest.of_bind
      obtain ⟨-, rfl, rfl⟩ := ((Timed.Answers.report _ s₁).ends t₁).unique hreport
      obtain ⟨_, t₃, s₃, hpause, hnext⟩ := hpaused.of_bind
      obtain ⟨-, rfl, rfl⟩ := (Timed.Ends.sleep _ t₁ s₁).unique hpause
      exact .inr ⟨fewer, rfl, hnext⟩

end Attempts

/-! ## Scans page by page -/

/-- How a scan goes on after it asked for a page. -/
inductive AfterPage where
  | ends (found : Scan)
  | goesOn (items : List Item) (next : String)

/-- How a scan goes on when it gets that answer to a token. -/
def afterPage (c : Credential) (token : Option String) :
    Option (Except InventoryError Page) → AfterPage
  | none => .ends ⟨[], some .timeout⟩
  | some (.error e) => .ends ⟨[], some e⟩
  | some (.ok page) =>
    match page.next with
    | none => .ends ⟨page.items, none⟩
    | some next =>
      if token = some next then
        .ends ⟨page.items, some (.page c.role ("page token " ++ Text.quoted next ++ " repeated"))⟩
      else .goesOn page.items next

section Pages

variable {p : Propagator σ} {c : Credential} {token : Option String}
  {o : Option (Except InventoryError Page)} {items : List Item} {next : String} {found : Scan}
  {budget t t₁ t' : Nat} {s s₁ s' : σ}

/-- A scan asks for one page and then ends or goes on. -/
theorem scanFrom_succ (p : Propagator σ) (c : Credential) (budget : Nat) (token : Option String) :
    p.scanFrom c (budget + 1) token = (do
      let o ← Timed.bounded p.options.callTimeout (p.inventory c token)
      match afterPage c token o with
      | .ends found => return found
      | .goesOn items next =>
        let rest ← p.scanFrom c budget (some next)
        return { rest with items := items ++ rest.items }) := by
  rw [scanFrom]
  congr 1
  funext o
  rcases o with _ | (e | page)
  · rfl
  · rfl
  · simp only [afterPage]
    cases page.next with
    | none => rfl
    | some next =>
      by_cases heq : token = some next
      · simp only [heq, if_true]
      · simp only [heq, if_false]

/-- The page that ends a scan is the last one asked for. -/
theorem scanFrom_stops
    (hcall : (Timed.bounded p.options.callTimeout (p.inventory c token)).Ends t s o t₁ s₁)
    (ho : afterPage c token o = .ends found) (budget : Nat) :
    (p.scanFrom c (budget + 1) token).Ends t s found t₁ s₁ := by
  rw [scanFrom_succ]
  refine hcall.bind ?_
  rw [ho]
  exact (Timed.Answers.pure _ s₁).ends t₁

/-- A page that leads on comes before what the rest of the scan finds. -/
theorem scanFrom_goesOn
    (hcall : (Timed.bounded p.options.callTimeout (p.inventory c token)).Ends t s o t₁ s₁)
    (ho : afterPage c token o = .goesOn items next)
    (hrest : (p.scanFrom c budget (some next)).Ends t₁ s₁ found t' s') :
    (p.scanFrom c (budget + 1) token).Ends t s { found with items := items ++ found.items }
      t' s' := by
  rw [scanFrom_succ]
  refine hcall.bind ?_
  rw [ho]
  exact hrest.bind ((Timed.Answers.pure _ s').ends t')

/-- Where a page leads on to a scan that goes on without end, the scan does so too. -/
theorem scanFrom_stalls
    (hcall : (Timed.bounded p.options.callTimeout (p.inventory c token)).Ends t s o t₁ s₁)
    (ho : afterPage c token o = .goesOn items next)
    (hrest : (p.scanFrom c budget (some next)).Stalls t₁ s₁ s') :
    (p.scanFrom c (budget + 1) token).Stalls t s s' := by
  rw [scanFrom_succ]
  refine hcall.stalls ?_
  rw [ho]
  exact hrest.bind _

/-- **What asking for a page can come to**: the scan ends there, or the rest of it ends. -/
theorem scanFrom_cases (h : (p.scanFrom c (budget + 1) token).Ends t s found t' s') :
    ∃ o t₁ s₁, (Timed.bounded p.options.callTimeout (p.inventory c token)).Ends t s o t₁ s₁ ∧
      ((afterPage c token o = .ends found ∧ t' = t₁ ∧ s' = s₁) ∨
        ∃ items next rest, afterPage c token o = .goesOn items next ∧
          (p.scanFrom c budget (some next)).Ends t₁ s₁ rest t' s' ∧
          found = { rest with items := items ++ rest.items }) := by
  have hend := h
  rw [scanFrom_succ] at hend
  obtain ⟨o, t₁, s₁, hcall, hrest⟩ := hend.of_bind
  refine ⟨o, t₁, s₁, hcall, ?_⟩
  cases ho : afterPage c token o with
  | ends stopped =>
    obtain ⟨rfl, rfl, rfl⟩ := h.unique (scanFrom_stops hcall ho budget)
    exact .inl ⟨rfl, rfl, rfl⟩
  | goesOn items next =>
    rw [ho] at hrest
    obtain ⟨rest, t₂, s₂, hrest, -⟩ := hrest.of_bind
    obtain ⟨rfl, rfl, rfl⟩ := h.unique (scanFrom_goesOn hcall ho hrest)
    exact .inr ⟨items, next, rest, rfl, hrest, rfl⟩

end Pages

/-! ## Other bounds on pages -/

/-- The propagator with another bound on the pages of a scan. -/
def allowing (p : Propagator σ) (budget : Nat) : Propagator σ := { p with pageBudget := budget }

/-- Another bound on pages changes no save. -/
theorem saveWithRetry_allowing (p : Propagator σ) (budget : Nat) (item : SyncItem) :
    (p.allowing budget).saveWithRetry item = p.saveWithRetry item := by
  have hattempt (left attempt : Nat) :
      (p.allowing budget).attemptSave item left attempt = p.attemptSave item left attempt := by
    induction left generalizing attempt with
    | zero =>
      unfold attemptSave
      rfl
    | succ left ih =>
      rw [attemptSave, attemptSave]
      simp only [ih]
      rfl
  exact hattempt _ _

/-- Another bound on pages changes a scan in nothing but its bound. -/
theorem scan_allowing (p : Propagator σ) (budget : Nat) (c : Credential) :
    (p.allowing budget).scan c = p.scanFrom c budget none := by
  have hscan (n : Nat) (token : Option String) :
      (p.allowing budget).scanFrom c n token = p.scanFrom c n token := by
    induction n generalizing token with
    | zero => rfl
    | succ n ih =>
      rw [scanFrom_succ, scanFrom_succ]
      simp only [ih]
      rfl
  exact hscan budget none

end GatewayDirectory.Sync.Propagator
