import GatewayDirectory.Proofs.Timed.Limits
import GatewayDirectory.Sync.Schedule

/-!
# When cycles start

Cycles that are repeated are laps. A lap starts at a time, with credentials and in a state, and has
an end. What the next one starts with follows from the lap by one reload (`Next`), so that a run
with a period is a course of laps (`exists_course`). When a lap starts and with which credentials is
read off the step from each lap to the next (`Course.timetable`).
-/

namespace GatewayDirectory

/-! ## Computations that go on as others -/

namespace Timed

variable {σ α β : Type}

/-- Run from `t` and `s`, one computation comes out as another one does that is run from `t'` and
`s'`. -/
structure GoesOn (x : Timed σ α) (t : Nat) (s : σ) (y : Timed σ α) (t' : Nat) (s' : σ) : Prop where
  ending : (x.run t s).ending = (y.run t' s').ending
  state : (x.run t s).state = (y.run t' s').state
  time : (x.run t s).time = (y.run t' s').time

namespace GoesOn

variable {x y z : Timed σ α} {t t₁ t₂ : Nat} {s s₁ s₂ : σ}

/-- A look at the clock goes on as what it tells. -/
theorem clock (f : Nat → Timed σ α) (t : Nat) (s : σ) : GoesOn (.clock f) t s (f t) t s :=
  ⟨rfl, rfl, rfl⟩

/-- What goes on as another goes on as the third. -/
theorem trans (h₁ : GoesOn x t s y t₁ s₁) (h₂ : GoesOn y t₁ s₁ z t₂ s₂) : GoesOn x t s z t₂ s₂ :=
  ⟨h₁.ending.trans h₂.ending, h₁.state.trans h₂.state, h₁.time.trans h₂.time⟩

end GoesOn

/-- **Where a first part ends, the computation goes on as the rest.** -/
theorem Ends.goesOn {x : Timed σ α} {f : α → Timed σ β} {t t' : Nat} {s s' : σ} {a : α}
    (h : x.Ends t s a t' s') : GoesOn (x >>= f) t s (f a) t' s' := by
  obtain ⟨events, hevents⟩ := h
  rw [bind_eq]
  refine ⟨?_, ?_, ?_⟩ <;> rw [run_bind, hevents] <;> rfl

/-- A computation whose first part does not end comes out as that part. -/
theorem goesOn_of_not_value {x : Timed σ α} {f : α → Timed σ α} {t : Nat} {s : σ}
    (h : ∀ a, (x.run t s).ending ≠ .value a) : GoesOn (x >>= f) t s x t s := by
  rw [bind_eq]
  refine ⟨?_, ?_, ?_⟩ <;> rw [run_bind, Trace.carriedOn] <;>
    -- only a value would be handed on, and there is none
    cases hending : (x.run t s).ending with
    | value a => exact absurd hending (h a)
    | hung => rfl
    | endless => rfl

end Timed

namespace Sync

variable {σ : Type}

/-! ## Laps -/

/-- A cycle that starts. -/
structure Start (σ : Type) where
  due : Nat
  time : Nat
  /-- The outcome of the reload before it. -/
  reload : Option (Except ConfigError (List Credential))
  credentials : List Credential
  state : σ

/-- A cycle that has ended. -/
structure Lap (σ : Type) extends Start σ where
  report : Report
  finish : Nat
  after : σ

/-- The credentials to go on with after a reload. -/
def kept (credentials : List Credential) : Except ConfigError (List Credential) → List Credential
  | .ok fresh => fresh
  | .error _ => credentials

namespace Propagator

variable (p : Propagator σ) (period : Nat) (reload : Timed σ (Except ConfigError (List Credential)))

/-- The cycle ends as the lap says. -/
def Runs (lap : Lap σ) : Prop :=
  (p.runCycle lap.credentials).Ends lap.time lap.state lap.report lap.finish lap.after

/-- How the next cycle starts after a lap: it is not started before it is due, and credentials are
reloaded once. -/
structure Next (lap : Lap σ) (next : Start σ) : Prop where
  due : next.due = nextDue period lap.due lap.time
  time : next.time = max lap.finish next.due
  reloads : ∃ r, next.reload = some r ∧ reload.Answers lap.after r next.state ∧
    next.credentials = kept lap.credentials r

/-- Laps one after the other, from the first start to the next one. -/
inductive Course : Start σ → List (Lap σ) → Start σ → Prop
  | nil (start : Start σ) : Course start [] start
  | cons {lap : Lap σ} {laps : List (Lap σ)} {next last : Start σ} (hlap : p.Runs lap)
    (hnext : Next period reload lap next) (hrest : Course next laps last) :
    Course lap.toStart (lap :: laps) last

/-- How a run that may run `budget` cycles comes out, given its laps from the time `t` and the state
`s`: it has run all its cycles and leaves what the last of them left, or it comes out as the cycle
at `last` does, which has no report. -/
def LeavesOff (budget : Nat) (r : Timed.Trace σ Report) (t : Nat) (s : σ) (laps : List (Lap σ))
    (last : Start σ) : Prop :=
  (laps.length = budget ∧ r.ending = .endless ∧
    r.time = (laps.getLast?.map (·.finish)).getD t ∧
    r.state = (laps.getLast?.map (·.after)).getD s) ∨
  (laps.length < budget ∧
    let cycle := (p.runCycle last.credentials).run last.time last.state
    (∀ report, cycle.ending ≠ .value report) ∧
      r.ending = cycle.ending ∧ r.time = cycle.time ∧ r.state = cycle.state)

variable {p period reload}

/-- After one more lap at the front a run still leaves off where it did. -/
theorem LeavesOff.cons {budget : Nat} {lap : Lap σ} {laps : List (Lap σ)} {last : Start σ}
    {x y : Timed σ Report} {t₁ : Nat} {s₁ : σ}
    (h : p.LeavesOff budget (y.run lap.finish lap.after) lap.finish lap.after laps last)
    (hx : x.GoesOn t₁ s₁ y lap.finish lap.after) (t : Nat) (s : σ) :
    p.LeavesOff (budget + 1) (x.run t₁ s₁) t s (lap :: laps) last := by
  rw [LeavesOff, hx.ending, hx.time, hx.state]
  -- the laps are all run, and the last of them is still the last; or the run is stuck where it was
  rcases h with ⟨hlength, hending, htime, hstate⟩ | ⟨hlength, hstuck⟩
  · refine .inl ⟨congrArg Nat.succ hlength, hending, ?_, ?_⟩
    · rw [htime, List.getLast?_cons]
      cases laps.getLast? <;> rfl
    · rw [hstate, List.getLast?_cons]
      cases laps.getLast? <;> rfl
  · exact .inr ⟨Nat.succ_lt_succ hlength, hstuck⟩

/-! ## A run is a course of laps -/

section Runs

variable {budget due t : Nat} {first : Bool} {credentials renewed : List Credential} {s s' : σ}

/-- What comes after a cycle: a word on its failures, and the cycles that are left. -/
def goOn (p : Propagator σ) (period : Nat)
    (reload : Timed σ (Except ConfigError (List Credential))) (budget due : Nat)
    (credentials : List Credential) (report : Report) : Timed σ Report := do
  if !report.success then
    Timed.report (.cycleTroubled report.outcome.failed report.outcome.scanErrors)
  p.repeatCycles period reload budget due false credentials

/-- Repeated cycles begin with a wait, a reload and a cycle. -/
theorem repeatCycles_succ (p : Propagator σ) (period : Nat)
    (reload : Timed σ (Except ConfigError (List Credential))) (budget due : Nat) (first : Bool)
    (credentials : List Credential) :
    p.repeatCycles period reload (budget + 1) due first credentials = .clock fun now =>
      (if now < due then Timed.sleep (due - now) else pure ()) >>= fun _ =>
      (if first then pure credentials else reloaded reload credentials) >>= fun renewed =>
      p.runCycle renewed >>=
        p.goOn period reload budget (nextDue period due (max now due)) renewed := by
  rw [repeatCycles]
  congr 1
  funext now
  -- the wait and the reload are each there or not
  by_cases hdue : now < due
  · cases first <;> simp only [hdue, if_true, if_false, Bool.false_eq_true] <;> rfl
  · cases first <;> simp only [hdue, if_true, if_false, Bool.false_eq_true] <;> rfl

/-- The wait is over when the cycle is due, or at once if that has passed. -/
theorem wait_ends (due t : Nat) (s : σ) :
    (if t < due then Timed.sleep (due - t) else pure () : Timed σ Unit).Ends t s ()
      (max t due) s := by
  by_cases hdue : t < due
  · have hmax : max t due = t + (due - t) := by omega
    rw [if_pos hdue, hmax]
    exact .sleep _ _ _
  · have hmax : max t due = t := by omega
    rw [if_neg hdue, hmax]
    exact .pure _ _ _

/-- A reload gives the credentials to go on with, whether it succeeds or not. -/
theorem reloaded_answers {r : Except ConfigError (List Credential)} (h : reload.Answers s r s')
    (credentials : List Credential) :
    (reloaded reload credentials).Answers s (kept credentials r) s' := by
  refine h.bind ?_
  cases r with
  | ok fresh => exact .pure _ _
  | error e => exact (Timed.Answers.report _ _).bind (.pure _ _)

/-- **The next cycle** starts when it is due, with the credentials that are reloaded for it. -/
theorem repeatCycles_goesOn (p : Propagator σ) (period budget due t : Nat)
    (hreload : (if first then pure credentials else reloaded reload credentials).Answers
      s renewed s') :
    (p.repeatCycles period reload (budget + 1) due first credentials).GoesOn t s
      (p.runCycle renewed >>= p.goOn period reload budget (nextDue period due (max t due)) renewed)
      (max t due) s' := by
  rw [repeatCycles_succ]
  exact (Timed.GoesOn.clock _ t s).trans
    ((wait_ends due t s).goesOn.trans (hreload.ends (max t due)).goesOn)

/-- After a cycle the next ones go on from where it left off. -/
theorem goOn_goesOn (report : Report) :
    (p.goOn period reload budget due credentials report).GoesOn t s
      (p.repeatCycles period reload budget due false credentials) t s := by
  unfold goOn
  split
  · exact ((Timed.Answers.report _ s).ends t).goesOn
  · exact ⟨rfl, rfl, rfl⟩

/-- **Repeated cycles are a course of laps** from the first of them. -/
theorem exists_course (p : Propagator σ) (period budget : Nat)
    (hreload : ∀ s, ∃ r s', reload.Answers s r s') {start : Start σ}
    (hstart : (if first then pure credentials else reloaded reload credentials).Answers s
      start.credentials start.state) (htime : start.time = max t start.due) :
    ∃ laps last, p.Course period reload start laps last ∧
      p.LeavesOff budget
        ((p.repeatCycles period reload budget start.due first credentials).run t s) t s
        laps last := by
  -- along the cycles that may be run; each next start follows from the lap before it
  induction budget generalizing t first credentials s start with
  | zero => exact ⟨[], start, .nil start, .inl ⟨rfl, rfl, rfl, rfl⟩⟩
  | succ budget ih =>
    have hcycle := repeatCycles_goesOn p period budget start.due t hstart
    rw [← htime] at hcycle
    -- the first cycle ends and the others go on from there, or the run is stuck in it
    by_cases hends : ∃ report finish after,
        (p.runCycle start.credentials).Ends start.time start.state report finish after
    · obtain ⟨report, finish, after, hlap⟩ := hends
      obtain ⟨r, s₁, hr⟩ := hreload after
      -- the next start is there even if the run is not to reach it
      let lap : Lap σ := ⟨start, report, finish, after⟩
      let due := nextDue period start.due start.time
      let next : Start σ := ⟨due, max finish due, some r, kept start.credentials r, s₁⟩
      have hrenewed : (if false then pure start.credentials
          else reloaded reload start.credentials).Answers after next.credentials next.state :=
        reloaded_answers hr start.credentials
      obtain ⟨laps, last, hcourse, hleaves⟩ := ih hrenewed rfl
      have hruns : p.Runs lap := hlap
      have hnext : Next period reload lap next := ⟨rfl, rfl, r, rfl, hr, rfl⟩
      have hrest := hcycle.trans (hlap.goesOn.trans (goOn_goesOn report))
      exact ⟨lap :: laps, last, .cons hruns hnext hcourse, hleaves.cons hrest t s⟩
    · have hnone (report : Report) :
          ((p.runCycle start.credentials).run start.time start.state).ending ≠ .value report :=
        fun h => hends ⟨report, _, _, .of_ending h⟩
      have hstuck := hcycle.trans (Timed.goesOn_of_not_value hnone)
      exact ⟨[], start, .nil start, .inr ⟨Nat.succ_pos budget, hnone, hstuck.ending, hstuck.time,
        hstuck.state⟩⟩

end Runs

/-! ## The timetable of a course -/

/-- Starts one after the other. -/
abbrev starts (laps : List (Lap σ)) (last : Start σ) : List (Start σ) :=
  laps.map (·.toStart) ++ [last]

end Propagator

/-- The credentials of the latest reload that succeeded, or those of before if none did. -/
def latest (initial : List Credential) (outcomes : List (Except ConfigError (List Credential))) :
    List Credential :=
  (outcomes.filterMap (·.toOption)).getLastD initial

/-- One more reload decides what is kept of those before. -/
theorem latest_append (initial : List Credential)
    (outcomes : List (Except ConfigError (List Credential)))
    (r : Except ConfigError (List Credential)) :
    latest initial (outcomes ++ [r]) = kept (latest initial outcomes) r := by
  rw [latest, List.filterMap_append]
  cases r with
  | ok fresh => simp [kept, Except.toOption]
  | error e => simp [kept, Except.toOption, latest]

namespace Propagator

/-- When the cycles of a course start, and with what. -/
structure Timetable (period : Nat) (initial : List Credential) (laps : List (Lap σ))
    (last : Start σ) : Prop where
  /-- There is one reload before every cycle but the first. -/
  reload_isNone : ∀ k start, (starts laps last)[k]? = some start → (start.reload = none ↔ k = 0)
  credentials_eq : ∀ k start, (starts laps last)[k]? = some start →
    start.credentials = latest initial (((starts laps last).take (k + 1)).filterMap (·.reload))
  /-- Cycles do not overlap. -/
  finish_le : ∀ k lap next, laps[k]? = some lap → (starts laps last)[k + 1]? = some next →
    lap.finish ≤ next.time
  time_add_le : ∀ k lap next, laps[k]? = some lap → (starts laps last)[k + 1]? = some next →
    lap.time + period ≤ next.time + tolerance
  /-- A cycle that was on time and did not last too long has the next one start on time. -/
  time_eq : ∀ k lap next, laps[k]? = some lap → (starts laps last)[k + 1]? = some next →
    lap.time = lap.due → lap.finish ≤ lap.time + period → next.time = lap.time + period

section Timetables

variable {start last next : Start σ} {laps : List (Lap σ)} {lap : Lap σ}
  {reload : Timed σ (Except ConfigError (List Credential))} {period k : Nat} {p : Propagator σ}

/-- The first start of a course is its own. -/
theorem Course.starts_zero (h : p.Course period reload start laps last) :
    (starts laps last)[0]? = some start := by
  cases h <;> rfl

/-- Each start follows from the lap before. -/
theorem Course.follows (h : p.Course period reload start laps last) (hlap : laps[k]? = some lap)
    (hnext : (starts laps last)[k + 1]? = some next) : Next period reload lap next := by
  -- along the course, counting down to the lap in question
  induction h generalizing k with
  | nil start => cases hlap
  | cons hruns hfirst hrest ih =>
    cases k with
    | zero =>
      cases hlap
      obtain rfl := Option.some.inj (hrest.starts_zero.symm.trans hnext)
      exact hfirst
    | succ k => exact ih hlap hnext

/-- Before each start but the first there is a lap. -/
theorem exists_lap (hnext : (starts laps last)[k + 1]? = some next) :
    ∃ lap, laps[k]? = some lap ∧ (starts laps last)[k]? = some lap.toStart := by
  have hk : k < laps.length := by
    have := (List.getElem?_eq_some_iff.1 hnext).1
    rw [List.length_append, List.length_map, List.length_singleton] at this
    omega
  refine ⟨laps[k], List.getElem?_eq_getElem hk, ?_⟩
  rw [starts, List.getElem?_append_left (by rwa [List.length_map]), List.getElem?_map,
    List.getElem?_eq_getElem hk, Option.map_some]

/-- The next cycle does not start long before the period is over. -/
theorem Next.time_add_le (h : Next period reload lap next) :
    lap.time + period ≤ next.time + tolerance := by
  -- a start that is early by no more than the tolerance counts as being on time
  have hdue : lap.time + period ≤ next.due + tolerance := by
    rw [h.due, nextDue]
    split <;> omega
  have hle : next.due ≤ next.time := h.time ▸ Nat.le_max_right _ _
  omega

/-- After a cycle that was on time and did not last longer than a period the next one is on time,
too. -/
theorem Next.time_eq (h : Next period reload lap next) (hstart : lap.time = lap.due)
    (hfinish : lap.finish ≤ lap.time + period) : next.time = lap.time + period := by
  rw [h.time, h.due, nextDue, if_neg (by omega), ← hstart]
  omega

/-- **A course keeps its timetable**, if nothing is reloaded before its first start. -/
theorem Course.timetable {initial : List Credential} (h : p.Course period reload start laps last)
    (hreload : start.reload = none) (hinitial : start.credentials = initial) :
    Timetable period initial laps last where
  reload_isNone k next hnext := by
    cases k with
    | zero =>
      obtain rfl := Option.some.inj (h.starts_zero.symm.trans hnext)
      exact iff_of_true hreload rfl
    | succ k =>
      obtain ⟨lap, hlap, -⟩ := exists_lap hnext
      obtain ⟨r, hr, -⟩ := (h.follows hlap hnext).reloads
      exact iff_of_false (by rw [hr]; exact nofun) (Nat.succ_ne_zero k)
  credentials_eq k next hnext := by
    -- along the starts: each reload is added to those before, and the latest one is kept
    induction k generalizing next with
    | zero =>
      obtain rfl := Option.some.inj (h.starts_zero.symm.trans hnext)
      rw [List.take_add_one, hnext]
      simp [hreload, hinitial, latest]
    | succ k ih =>
      obtain ⟨lap, hlap, hbefore⟩ := exists_lap hnext
      obtain ⟨r, hr, -, hkept⟩ := (h.follows hlap hnext).reloads
      rw [List.take_add_one, hnext, List.filterMap_append, hkept, ih _ hbefore, ← latest_append]
      simp [hr]
  finish_le k lap next hlap hnext := (h.follows hlap hnext).time ▸ Nat.le_max_left _ _
  time_add_le k lap next hlap hnext := (h.follows hlap hnext).time_add_le
  time_eq k lap next hlap hnext := (h.follows hlap hnext).time_eq

end Timetables

/-- **When the cycles of a run start, and with what.** Let the period be positive and let every
reload answer at once. Then a run that may run so many cycles is a course of laps: it runs all of
them, unless one of them does not end. Before each cycle but the first there is one reload, from the
state that the cycle before left, and the cycle gets the credentials of the latest reload that
succeeded. Cycles do not overlap; each one starts at most `tolerance` earlier than a period after
the one before, and just a period after one that was on time and did not last longer than that. -/
theorem run_keeps_timetable (p : Propagator σ) {period : Nat} (hperiod : 0 < period)
    (reload : Timed σ (Except ConfigError (List Credential)))
    (hreload : ∀ s, ∃ r s', reload.Answers s r s') (budget : Nat) (credentials : List Credential)
    (t : Nat) (s : σ) :
    ∃ laps last, p.Course period reload ⟨t, t, none, credentials, s⟩ laps last ∧
      p.LeavesOff budget ((p.run period reload budget credentials).run t s) t s laps last ∧
      Timetable period credentials laps last := by
  have hstart : (if true then pure credentials else reloaded reload credentials).Answers s
      credentials s := .pure _ _
  let start : Start σ := ⟨t, t, none, credentials, s⟩
  have htime : start.time = max t start.due := (Nat.max_self t).symm
  obtain ⟨laps, last, hcourse, hleaves⟩ := exists_course p period budget hreload hstart htime
  refine ⟨laps, last, hcourse, ?_, hcourse.timetable rfl rfl⟩
  rw [run, if_neg (Nat.ne_of_gt hperiod)]
  exact hleaves

/-- A propagator whose calls all hang until they are cut off. -/
def hanging : Propagator Nat where
  accounts _ := .hang
  inventory _ _ := .hang
  sink := ⟨.queue, fun _ _ _ => .hang⟩
  options := .usual
  clock _ := ⟨0, 0⟩
  pageBudget := 0

/-- A period of a minute, and reloads of which the second fails and each other one gives more
credentials than those before. Every credential takes ten seconds, so that the later cycles last
longer than a period. -/
theorem run_keeps_timetable_of_hanging :
    let p := Propagator.hanging
    let c : Credential := ⟨"arn:aws:iam::1:role/r", "eu", none, none, .empty⟩
    let reload : Timed Nat (Except ConfigError (List Credential)) := Timed.update fun n =>
      (if n = 1 then .error (.missingField 0 "role_arn") else .ok (List.replicate (n + 2) c), n + 1)
    0 < 60000 ∧ (∀ n, ∃ r n', reload.Answers n r n') ∧
      ∃ laps last, p.Course 60000 reload ⟨0, 0, none, [c], 0⟩ laps last ∧
        p.LeavesOff 9 ((p.run 60000 reload 9 [c]).run 0 0) 0 0 laps last ∧
        Timetable 60000 [c] laps last := by
  intro p c reload
  have hreload (n : Nat) : ∃ r n', reload.Answers n r n' := ⟨_, _, .update _ n⟩
  exact ⟨by decide, hreload, run_keeps_timetable p (by decide) reload hreload 9 [c] 0 0⟩

end Propagator

end Sync

end GatewayDirectory
