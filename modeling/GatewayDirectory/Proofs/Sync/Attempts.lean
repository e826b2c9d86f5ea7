import GatewayDirectory.Proofs.Sync.Contacts
import Mathlib.Algebra.BigOperators.Intervals

/-!
# How often an item is tried, and how long that takes

A sink may behave differently each time it is called: it answers after a while, or hangs. A script
lists what it would do on each attempt at an item (`Propagator.Plays`), made or not; every sink
whose calls settle plays some script (`exists_plays`), and there is a sink for every script
(`scripted_plays`). `attemptSave_run` follows the attempts through a script, one step at a time, and
`attempts_exact` says what saving an item comes to: the attempts made end with the first success or
with the last attempt allowed, there is a pause between any two of them, and nothing else takes
time.
-/

namespace GatewayDirectory.Sync

open Finset

/-! ## What a sink does on one attempt -/

/-- What a sink does when it is called. -/
inductive Behaviour where
  | answers (after : Nat) (answer : Except SinkError Unit)
  | hangs

namespace Behaviour

variable {σ : Type} {b : Behaviour} {x : Timed σ (Except SinkError Unit)} {t : Nat} {s : σ}

/-- What a call under a limit comes to. An answer that is late counts for nothing. -/
def result (limit : Nat) : Behaviour → Except SinkError Unit
  | .answers after answer => if after ≤ limit then answer else .error .timeout
  | .hangs => .error .timeout

/-- How long a call under a limit takes. -/
def spent (limit : Nat) : Behaviour → Nat
  | .answers after _ => min after limit
  | .hangs => limit

/-- The call answers in time that the item is saved. -/
def Succeeds (limit : Nat) (b : Behaviour) : Prop :=
  ∃ after, after ≤ limit ∧ b = .answers after (.ok ())

/-- A call succeeds exactly if what it comes to under the limit is a success. -/
theorem succeeds_iff {limit : Nat} : b.Succeeds limit ↔ b.result limit = .ok () := by
  cases b with
  | hangs => simp [Succeeds, result]
  | answers after answer =>
    rw [Succeeds, result]
    constructor
    · rintro ⟨_, hle, h⟩
      cases h
      exact if_pos hle
    · intro h
      split at h
      · exact ⟨after, ‹_›, by rw [h]⟩
      · cases h

/-- Run from `t` and `s`, a call shows the behaviour. -/
def Shown (x : Timed σ (Except SinkError Unit)) (t : Nat) (s : σ) : Behaviour → Prop
  | .answers after answer => (x.run t s).ending = .value answer ∧ (x.run t s).time = t + after
  | .hangs => (x.run t s).ending = .hung

/-- **A behaviour tells what a call under a limit comes to, and when.** -/
theorem Shown.bounded (h : b.Shown x t s) (limit : Nat) :
    ∃ o, ((Timed.bounded limit x).run t s).ending = .value o ∧
      o.getD (.error .timeout) = b.result limit ∧
      ((Timed.bounded limit x).run t s).time = t + b.spent limit := by
  cases b with
  | hangs =>
    obtain ⟨hnone, htime⟩ := Timed.run_bounded_of_late limit (.inl h)
    exact ⟨none, hnone, rfl, htime⟩
  | answers after answer =>
    obtain ⟨hvalue, hafter⟩ := h
    rw [result, spent]
    -- an answer just at the limit still counts
    by_cases hle : after ≤ limit
    · rw [Timed.run_bounded_of_le hvalue (by omega), if_pos hle, Nat.min_eq_left hle]
      exact ⟨some answer, rfl, rfl, hafter⟩
    · have hlate : t + limit < (x.run t s).time := by omega
      obtain ⟨hnone, htime⟩ := Timed.run_bounded_of_late limit (.inr hlate)
      rw [if_neg hle, Nat.min_eq_right (by omega)]
      exact ⟨none, hnone, rfl, htime⟩

/-- What a call does, read off its run. -/
def ofRun (x : Timed σ (Except SinkError Unit)) (t : Nat) (s : σ) : Behaviour :=
  match (x.run t s).ending with
  | .value answer => .answers ((x.run t s).time - t) answer
  | .hung | .endless => .hangs

/-- A call that settles shows the behaviour that is read off its run. -/
theorem shown_ofRun (h : (x.run t s).ending ≠ .endless) : (ofRun x t s).Shown x t s := by
  rw [ofRun]
  cases hx : (x.run t s).ending with
  | value answer => exact ⟨hx, (Nat.add_sub_of_le (Timed.le_time_run x t s)).symm⟩
  | hung => exact hx
  | endless => exact absurd hx h

end Behaviour

/-! ## Scripts -/

/-- Attempt `k` is the first one of a script that succeeds. -/
def FirstSuccess (limit : Nat) (script : Nat → Behaviour) (k : Nat) : Prop :=
  1 ≤ k ∧ (script k).Succeeds limit ∧ ∀ i, 1 ≤ i → i < k → ¬ (script i).Succeeds limit

/-- Of the attempts from `first` to `last` those up to the `n`-th are made: it succeeds or is the
last one, and those before it fail. -/
structure MadeUpTo (limit : Nat) (script : Nat → Behaviour) (first last n : Nat) : Prop where
  first_le : first ≤ n
  le_last : n ≤ last
  ends : n = last ∨ (script n).Succeeds limit
  fail : ∀ i, first ≤ i → i < n → ¬ (script i).Succeeds limit

namespace MadeUpTo

variable {limit last n k : Nat} {script : Nat → Behaviour}

/-- The first success decides how many attempts are made, if there is one soon enough. -/
theorem eq_min (h : MadeUpTo limit script 1 last n) (hk : FirstSuccess limit script k) :
    n = min k last := by
  obtain ⟨hpos, hsucceeds, hfirst⟩ := hk
  have hle : n ≤ k := Nat.le_of_not_lt fun hlt => h.fail k hpos hlt hsucceeds
  -- the attempts ran out, or the last one made is a success and so the first
  rcases h.ends with rfl | hn
  · omega
  · have hge : k ≤ n := Nat.le_of_not_lt fun hlt => hfirst n h.first_le hlt hn
    have := h.le_last
    omega

/-- If the last attempt made succeeds it is the first one to do so. -/
theorem firstSuccess (h : MadeUpTo limit script 1 last n) (hn : (script n).Succeeds limit) :
    FirstSuccess limit script n := ⟨h.first_le, hn, h.fail⟩

/-- Without a success soon enough all attempts are made. -/
theorem eq_last (h : MadeUpTo limit script 1 last n)
    (hnone : ∀ k, FirstSuccess limit script k → last < k) : n = last :=
  h.ends.resolve_right fun hn =>
    absurd (hnone n (h.firstSuccess hn)) (Nat.not_lt.2 h.le_last)

/-- The number of attempts made is decided by the script. -/
theorem unique {m : Nat} (h : MadeUpTo limit script 1 last n)
    (hm : MadeUpTo limit script 1 last m) : n = m := by
  -- with a success there are as many attempts as up to it, without one as many as there may be
  by_cases hk : ∃ k, FirstSuccess limit script k
  · obtain ⟨k, hk⟩ := hk
    rw [h.eq_min hk, hm.eq_min hk]
  · have hnone (k : Nat) (hfirst : FirstSuccess limit script k) : last < k :=
      absurd ⟨k, hfirst⟩ hk
    rw [h.eq_last hnone, hm.eq_last hnone]

end MadeUpTo

/-- When attempt `i` of a script begins if the first one begins at `t`, whether it is made or
not. -/
def Options.begins (o : Options) (script : Nat → Behaviour) (t i : Nat) : Nat :=
  t + ∑ j ∈ Ico 1 i, ((script j).spent o.callTimeout + o.retryInterval)

namespace Propagator

variable {σ : Type}

/-- The call of one attempt. -/
def saveCall (p : Propagator σ) (item : SyncItem) : Timed σ (Except SinkError Unit) :=
  p.sink.save item.key item.id item.token

/-- What a run of the call of one attempt leaves, cut off at the limit. -/
def attemptRun (p : Propagator σ) (item : SyncItem) (t : Nat) (s : σ) :
    Timed.Trace σ (Option (Except SinkError Unit)) :=
  (Timed.bounded p.options.callTimeout (p.saveCall item)).run t s

/-- The sink plays a script: attempt `i`, which begins in the state `world i`, shows behaviour `i`,
and the next one begins in the state that it leaves when it is over or cut off. -/
structure Plays (p : Propagator σ) (item : SyncItem) (script : Nat → Behaviour) (t : Nat)
    (world : Nat → σ) : Prop where
  shown : ∀ i, 1 ≤ i →
    (script i).Shown (p.saveCall item) (p.options.begins script t i) (world i)
  next : ∀ i, 1 ≤ i →
    (p.attemptRun item (p.options.begins script t i) (world i)).state = world (i + 1)

end Propagator

/-- The next attempt begins a pause after this one is over. -/
theorem Options.begins_succ (o : Options) (script : Nat → Behaviour) (t : Nat) {i : Nat}
    (hi : 1 ≤ i) :
    o.begins script t (i + 1) =
      o.begins script t i + (script i).spent o.callTimeout + o.retryInterval := by
  rw [begins, begins, sum_Ico_succ_top hi]
  omega

/-- The time at which an attempt ends, told from the attempts up to it and the pauses between. -/
theorem Options.begins_add_spent (o : Options) (script : Nat → Behaviour) (t : Nat) {n : Nat}
    (hn : 1 ≤ n) :
    o.begins script t n + (script n).spent o.callTimeout =
      t + ∑ i ∈ Icc 1 n, (script i).spent o.callTimeout + (n - 1) * o.retryInterval := by
  -- there is a pause behind each attempt but the last
  have hpauses : ∑ _i ∈ Ico 1 n, o.retryInterval = (n - 1) * o.retryInterval := by
    rw [sum_const_nat fun _ _ => rfl, Nat.card_Ico]
  rw [begins, sum_add_distrib, hpauses, ← Ico_add_one_right_eq_Icc, sum_Ico_succ_top hn]
  omega

/-! ## From attempt to attempt -/

namespace Propagator

section Attempts

variable {σ : Type} {p : Propagator σ} {item : SyncItem} {script : Nat → Behaviour} {t : Nat}
  {world : Nat → σ} {o : Option (Except SinkError Unit)} {e : SinkError} {left attempt : Nat}
  {s : σ}

/-- An attempt that succeeds, or is the last one, is the end. -/
theorem attemptSave_run_last (hcall : (p.attemptRun item t s).ending = .value o)
    (hlast : left = 0 ∨ o.getD (.error .timeout) = .ok ()) :
    (p.attemptSave item left attempt).run t s =
      ⟨.value ((o.getD (.error .timeout)).map fun _ => attempt), (p.attemptRun item t s).state,
        (p.attemptRun item t s).time, (p.attemptRun item t s).events⟩ := by
  unfold attemptSave
  rw [Timed.bind_eq, Timed.run_bind]
  show Timed.Trace.carriedOn (p.attemptRun item t s) _ = _
  rw [Timed.Trace.carriedOn, hcall]
  cases ho : o.getD (.error .timeout) with
  | ok u => simp [ho, Timed.run, Except.map]
  | error e =>
    obtain rfl : left = 0 := hlast.resolve_right (by simp [ho])
    simp [ho, Timed.run, Except.map]

/-- An attempt that fails and is not the last one is told, and the next one is made after a
pause. -/
theorem attemptSave_run_next (hcall : (p.attemptRun item t s).ending = .value o)
    (ho : o.getD (.error .timeout) = .error e) :
    (p.attemptSave item (left + 1) attempt).run t s =
      let first := p.attemptRun item t s
      let rest := (p.attemptSave item left (attempt + 1)).run
        (first.time + p.options.retryInterval) first.state
      ⟨rest.ending, rest.state, rest.time, first.events ++
        .saveRetried item.key attempt (max p.options.retry 1) e.message :: rest.events⟩ := by
  rw [attemptSave, Timed.bind_eq, Timed.run_bind]
  show Timed.Trace.carriedOn (p.attemptRun item t s) _ = _
  rw [Timed.Trace.carriedOn, hcall]
  simp [ho, Timed.run, Timed.report, Timed.sleep, Timed.bind]

/-- What attempt `i` of a script reports if it is made. -/
def attemptEvents (p : Propagator σ) (item : SyncItem) (script : Nat → Behaviour) (t : Nat)
    (world : Nat → σ) (i : Nat) : List Event :=
  (p.attemptRun item (p.options.begins script t i) (world i)).events

/-- What is told when another attempt follows attempt `i` of a script. -/
def retriedEvents (p : Propagator σ) (item : SyncItem) (script : Nat → Behaviour) (i : Nat) :
    List Event :=
  match (script i).result p.options.callTimeout with
  | .ok () => []
  | .error e => [.saveRetried item.key i (max p.options.retry 1) e.message]

/-- The run that makes the attempts from the `i`-th to the `n`-th of a script. -/
def played (p : Propagator σ) (item : SyncItem) (script : Nat → Behaviour) (t : Nat)
    (world : Nat → σ) (i n : Nat) : Timed.Trace σ (Except SinkError Nat) where
  ending := .value (((script n).result p.options.callTimeout).map fun _ => n)
  state := world (n + 1)
  time := p.options.begins script t n + (script n).spent p.options.callTimeout
  events := ((List.range' i (n - i)).flatMap fun j =>
      p.attemptEvents item script t world j ++ p.retriedEvents item script j) ++
    p.attemptEvents item script t world n

/-- One attempt more at the beginning adds what it reports and what is told of it. -/
theorem played_cons (p : Propagator σ) (item : SyncItem) (script : Nat → Behaviour) (t : Nat)
    (world : Nat → σ) {i n : Nat} (hlt : i < n) :
    p.played item script t world i n =
      let rest := p.played item script t world (i + 1) n
      ⟨rest.ending, rest.state, rest.time,
        p.attemptEvents item script t world i ++ p.retriedEvents item script i ++ rest.events⟩ := by
  have hrange : List.range' i (n - i) = i :: List.range' (i + 1) (n - (i + 1)) := by
    rw [show n - i = n - (i + 1) + 1 by omega, List.range'_succ]
  simp only [played, hrange, List.flatMap_cons, List.append_assoc]

/-- **Attempts are made until one succeeds or none is left.** -/
theorem attemptSave_run (h : p.Plays item script t world) (left : Nat) {i : Nat} (hi : 1 ≤ i) :
    ∃ n, MadeUpTo p.options.callTimeout script i (i + left) n ∧
      (p.attemptSave item left i).run (p.options.begins script t i) (world i) =
        p.played item script t world i n := by
  -- along the attempts that are left; the script is read from attempt `i` on
  induction left generalizing i with
  | zero =>
    -- the last attempt is the end, however it comes out
    obtain ⟨o, hcall, ho, htime⟩ := (h.shown i hi).bounded p.options.callTimeout
    refine ⟨i, ⟨Nat.le_refl i, Nat.le_refl i, .inl rfl, fun j hij hji => by omega⟩, ?_⟩
    rw [attemptSave_run_last hcall (.inl rfl), ho, h.next i hi, played, Nat.sub_self]
    exact congrArg (Timed.Trace.mk _ _ · _) htime
  | succ left ih =>
    obtain ⟨o, hcall, ho, htime⟩ := (h.shown i hi).bounded p.options.callTimeout
    cases hresult : (script i).result p.options.callTimeout with
    | ok u =>
      -- nothing follows a success
      have hsucceeds := Behaviour.succeeds_iff.2 hresult
      refine ⟨i, ⟨Nat.le_refl i, by omega, .inr hsucceeds, fun j hij hji => by omega⟩, ?_⟩
      rw [attemptSave_run_last hcall (.inr (ho.trans hresult)), ho, h.next i hi, played,
        Nat.sub_self]
      exact congrArg (Timed.Trace.mk _ _ · _) htime
    | error e =>
      obtain ⟨n, ⟨hle, hge, hend, hfailed⟩, hrest⟩ := ih (i := i + 1) (by omega)
      refine ⟨n, ⟨by omega, by omega, hend.imp_left fun h => by omega, fun j hij hjn => ?_⟩, ?_⟩
      · rcases Nat.lt_or_eq_of_le hij with hlt | rfl
        · exact hfailed j hlt hjn
        · rw [Behaviour.succeeds_iff, hresult]
          simp
      · -- the next attempt begins a pause after this one is over
        have hbegins : (p.attemptRun item (p.options.begins script t i) (world i)).time +
            p.options.retryInterval = p.options.begins script t (i + 1) := by
          rw [Options.begins_succ _ _ _ hi]
          exact congrArg (· + p.options.retryInterval) htime
        rw [attemptSave_run_next hcall (ho.trans hresult), played_cons _ _ _ _ _ hle, retriedEvents,
          hresult]
        simp only [hbegins, h.next i hi, hrest, attemptEvents, List.append_assoc,
          List.singleton_append]

/-- Saving an item runs through the attempts that the options allow. -/
theorem saveWithRetry_run (h : p.Plays item script t world) :
    ∃ n, MadeUpTo p.options.callTimeout script 1 (max p.options.retry 1) n ∧
      (p.saveWithRetry item).run t (world 1) = p.played item script t world 1 n := by
  obtain ⟨n, hmade, hrun⟩ := attemptSave_run h (max p.options.retry 1 - 1) (Nat.le_refl 1)
  rw [show 1 + (max p.options.retry 1 - 1) = max p.options.retry 1 by omega] at hmade
  exact ⟨n, hmade, hrun⟩

end Attempts

/-! ## The calls that are noted -/

section Calls

variable {ω : Type} {p : Propagator ω} {item : SyncItem} {script : Nat → Behaviour} {t : Nat}
  {world : Nat → ω}

/-- A sink plays its script whether or not its calls are noted. -/
theorem Plays.noted (h : p.Plays item script t world) :
    p.noted.Plays item script t fun i => ⟨List.replicate (i - 1) (.save item), world i⟩ where
  shown i hi := by
    have hshown := h.shown i hi
    show (script i).Shown (Ledger.noting (.save item) (p.saveCall item)) _ _
    -- a call shows its behaviour by its run, which is the same when it is noted
    cases hscript : script i with
    | hangs =>
      rw [hscript] at hshown
      rw [Behaviour.Shown, Ledger.run_noting]
      exact hshown
    | answers after answer =>
      rw [hscript] at hshown
      rw [Behaviour.Shown, Ledger.run_noting]
      exact hshown
  next i hi := by
    obtain ⟨m, rfl⟩ := Nat.exists_eq_add_of_le' hi
    have hnext := h.next (m + 1) hi
    show ((Timed.bounded _ (Ledger.noting (.save item) (p.saveCall item))).run _ _).state = _
    rw [Ledger.bounded_noting, Ledger.run_noting]
    exact congrArg₂ Ledger.mk List.replicate_succ'.symm hnext

end Calls

/-! ## Sinks and scripts -/

section Scripts

variable {σ : Type}

/-- When attempt `i + 1` begins, made or not, and in which state. -/
def attemptAt (p : Propagator σ) (item : SyncItem) (t : Nat) (s : σ) : Nat → Nat × σ
  | 0 => (t, s)
  | i + 1 =>
    let before := p.attemptAt item t s i
    let r := p.attemptRun item before.1 before.2
    (r.time + p.options.retryInterval, r.state)

/-- **Every sink whose calls settle plays a script**, from any time and state. -/
theorem exists_plays (p : Propagator σ) (item : SyncItem) (h : (p.saveCall item).Settles) (t : Nat)
    (s : σ) : ∃ script world, world 1 = s ∧ p.Plays item script t world := by
  -- what the calls would do if they were all made, one after the other
  let script (i : Nat) := Behaviour.ofRun (p.saveCall item) (p.attemptAt item t s (i - 1)).1
    (p.attemptAt item t s (i - 1)).2
  have hshown (i : Nat) : (script (i + 1)).Shown (p.saveCall item) (p.attemptAt item t s i).1
      (p.attemptAt item t s i).2 := Behaviour.shown_ofRun (h _ _)
  -- both add up what the calls take, the one as a sum and the other step by step
  have hbegins (i : Nat) : p.options.begins script t (i + 1) = (p.attemptAt item t s i).1 := by
    induction i with
    | zero => exact Nat.add_zero t
    | succ i ih =>
      obtain ⟨o, -, -, htime⟩ := (hshown i).bounded p.options.callTimeout
      rw [Options.begins_succ _ _ _ (Nat.le_add_left 1 i), ih]
      exact congrArg (· + p.options.retryInterval) htime.symm
  refine ⟨script, fun i => (p.attemptAt item t s (i - 1)).2, rfl, fun i hi => ?_, fun i hi => ?_⟩
  · obtain ⟨m, rfl⟩ := Nat.exists_eq_add_of_le' hi
    rw [hbegins]
    exact hshown m
  · obtain ⟨m, rfl⟩ := Nat.exists_eq_add_of_le' hi
    rw [hbegins]
    rfl

end Scripts

end Propagator

/-- The sink that plays a script; its state is the number of calls. -/
def Sink.scripted (script : Nat → Behaviour) : Sink Nat where
  kind := .queue
  save _ _ _ := do
    let call ← Timed.update fun calls => (calls + 1, calls + 1)
    match script call with
    | .answers after answer =>
      Timed.sleep after
      return answer
    | .hangs => .hang

/-- **Every script is played by a sink.** -/
theorem Propagator.scripted_plays (p : Propagator Nat) (item : SyncItem)
    (script : Nat → Behaviour) (hsink : p.sink = .scripted script) (t : Nat) :
    p.Plays item script t fun i => i - 1 := by
  have hcall (i start : Nat) : (p.saveCall item).run start i =
      match script (i + 1) with
      | .answers after answer => ⟨.value answer, i + 1, start + after, []⟩
      | .hangs => ⟨.hung, i + 1, start, []⟩ := by
    rw [saveCall, hsink]
    show Timed.run (match script (i + 1) with | .answers after answer => _ | .hangs => _) _ _ = _
    cases script (i + 1) <;> rfl
  -- the count is raised before the answer, so that a call that is cut off counts too
  have hcutOff (limit i start : Nat) :
      ((Timed.bounded limit (p.saveCall item)).run start i).state = i + 1 := by
    rw [saveCall, hsink]
    show ((Timed.bounded limit (match script (i + 1) with
      | .answers after answer => _ | .hangs => _)).run _ _).state = _
    cases script (i + 1) with
    | hangs => rfl
    | answers after answer =>
      simp only [Timed.sleep, Timed.bind_eq, Timed.bind, Timed.bounded]
      split <;> rfl
  refine ⟨fun i hi => ?_, fun i hi => ?_⟩
  · obtain ⟨m, rfl⟩ := Nat.exists_eq_add_of_le' hi
    have hrun := hcall m (p.options.begins script t (m + 1))
    show (script (m + 1)).Shown _ _ m
    cases hscript : script (m + 1) with
    | hangs =>
      rw [hscript] at hrun
      rw [Behaviour.Shown, hrun]
    | answers after answer =>
      rw [hscript] at hrun
      rw [Behaviour.Shown, hrun]
      exact ⟨rfl, rfl⟩
  · obtain ⟨m, rfl⟩ := Nat.exists_eq_add_of_le' hi
    exact hcutOff _ m _

/-! ## What saving an item comes to -/

/-- What saving an item comes to when the sink plays a script, given the number of attempts that are
made, the run and the calls that it makes. -/
structure AttemptsLaw {σ : Type} (p : Propagator σ) (item : SyncItem) (script : Nat → Behaviour)
    (world : Nat → σ) (t made : Nat) (r : Timed.Trace σ (Except SinkError Nat))
    (calls : List Contact) : Prop where
  /-- Attempts end with the first success. -/
  made_of_success : ∀ k, FirstSuccess p.options.callTimeout script k →
    made = min k (max p.options.retry 1)
  made_of_failure : (∀ k, ¬ FirstSuccess p.options.callTimeout script k) →
    made = max p.options.retry 1
  /-- The number of an attempt never exceeds the options, so that it fits where they do. -/
  made_le : made ≤ max p.options.retry 1
  made_fits : p.options.retry < 2 ^ 32 → made < 2 ^ 32
  /-- Each call has the key, the id and the token of the item. -/
  calls_eq : calls = List.replicate made (.save item)
  saved : ∀ k, FirstSuccess p.options.callTimeout script k → k ≤ max p.options.retry 1 →
    r.ending = .value (.ok k)
  /-- The error is that of the last attempt allowed, and says so if the attempt got no answer. -/
  abandoned : (∀ k, FirstSuccess p.options.callTimeout script k → max p.options.retry 1 < k) →
    ∃ e, (script (max p.options.retry 1)).result p.options.callTimeout = .error e ∧
      r.ending = .value (.error e)
  /-- There is a pause between any two attempts, and none before or after them. -/
  time_eq : r.time = t + ∑ i ∈ Icc 1 made, (script i).spent p.options.callTimeout +
    (made - 1) * p.options.retryInterval
  state_eq : r.state = world (made + 1)
  /-- Each attempt but the last one is told with its number. -/
  events_eq : r.events =
    ((List.range' 1 (made - 1)).flatMap fun i =>
      p.attemptEvents item script t world i ++ p.retriedEvents item script i) ++
    p.attemptEvents item script t world made

/-- **How often an item is tried, and how long that takes.** Whatever the sink does on each attempt,
it is called until it first succeeds in time, and as often as the options allow at most, which is
once at least. The first success is the result, or else the error of the last attempt. The time that
passes is that of the attempts, cut off at the limit, and of the pauses between them. -/
theorem attempts_exact {σ : Type} (p : Propagator σ) (item : SyncItem) (script : Nat → Behaviour)
    (world : Nat → σ) (t : Nat) (h : p.Plays item script t world) :
    ∃ made, AttemptsLaw p item script world t made ((p.saveWithRetry item).run t (world 1))
      ((p.noted.saveWithRetry item).run t ⟨[], world 1⟩).state.contacts := by
  obtain ⟨n, hmade, hrun⟩ := Propagator.saveWithRetry_run h
  obtain ⟨m, hnoted, hcalls⟩ := Propagator.saveWithRetry_run h.noted
  -- to note the calls changes nothing about how many there are
  obtain rfl : n = m := hmade.unique hnoted
  refine ⟨n, fun k hk => hmade.eq_min hk, fun hnone => ?_, hmade.le_last, fun hfits => ?_, ?_,
    fun k hk hle => ?_, fun hlate => ?_, ?_, ?_, ?_⟩
  · exact hmade.eq_last fun k hk => absurd hk (hnone k)
  · have := hmade.le_last
    omega
  · exact congrArg (·.state.contacts) hcalls
  · -- the first success is the last attempt made, and gives the result
    have hresult := Behaviour.succeeds_iff.1 hk.2.1
    rw [hrun, hmade.eq_min hk, Nat.min_eq_left hle, Propagator.played, hresult]
    rfl
  · obtain rfl := hmade.eq_last hlate
    -- a success of the last attempt would be the first success, and in time
    have hfails : ¬ (script (max p.options.retry 1)).Succeeds p.options.callTimeout := fun hn =>
      Nat.lt_irrefl _ (hlate _ (hmade.firstSuccess hn))
    rw [hrun, Propagator.played]
    cases hresult : (script (max p.options.retry 1)).result p.options.callTimeout with
    | ok u => exact absurd (Behaviour.succeeds_iff.2 hresult) hfails
    | error e => exact ⟨e, rfl, rfl⟩
  · rw [hrun]
    exact p.options.begins_add_spent script t hmade.first_le
  · rw [hrun]
    rfl
  · rw [hrun]
    rfl

/-- Four attempts are allowed. The sink refuses the first call, never answers the second one, and
answers the third one just at the limit: two pauses, and no fourth call. -/
theorem attempts_exact_of_deadline :
    let script : Nat → Behaviour
      | 1 => .answers 5 (.error (.transport "refused"))
      | 2 => .hangs
      | 3 => .answers 10 (.ok ())
      | _ => .answers 11 (.ok ())
    let item : SyncItem := ⟨"1:eu:a", "id1", none⟩
    let p : Propagator Nat :=
      { accounts := .arn
        inventory := fun _ _ => return .ok ⟨[], none⟩
        sink := .scripted script
        options := ⟨4, 100, 10, false⟩
        clock := fun _ => ⟨0, 0⟩
        pageBudget := 1 }
    let world (i : Nat) : Nat := i - 1
    p.Plays item script 0 world ∧ FirstSuccess 10 script 3 ∧
      (∃ made, AttemptsLaw p item script world 0 made ((p.saveWithRetry item).run 0 (world 1))
        ((p.noted.saveWithRetry item).run 0 ⟨[], world 1⟩).state.contacts) ∧
      ((p.saveWithRetry item).run 0 0).ending = .value (.ok 3) ∧
      ((p.saveWithRetry item).run 0 0).time = 5 + 100 + 10 + 100 + 10 := by
  intro script item p world
  have hplays : p.Plays item script 0 world := p.scripted_plays item script rfl 0
  have hfirst : FirstSuccess 10 script 3 := by
    refine ⟨by decide, ⟨10, Nat.le_refl 10, rfl⟩, fun i hpos hlt => ?_⟩
    obtain rfl | rfl : i = 1 ∨ i = 2 := by omega
    · rintro ⟨after, -, h⟩
      cases h
    · rintro ⟨after, -, h⟩
      cases h
  exact ⟨hplays, hfirst, attempts_exact p item script world 0 hplays, by decide +kernel,
    by decide +kernel⟩

end GatewayDirectory.Sync
