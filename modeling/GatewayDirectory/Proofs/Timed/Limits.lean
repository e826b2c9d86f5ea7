import GatewayDirectory.Proofs.Timed.Answers

/-!
# Computations under a limit

`Timed.bounded` in terms of the computation that it cuts off. A run that ends with a value within
the limit is the same run under the limit (`run_bounded_of_le`); one that hangs, or takes longer,
ends without a value just at the limit (`run_bounded_of_late`). `x.Ends t s a t' s'` says how a run
with waits comes out, and composes along `bind`, as `x.Stalls t s s'` does for one that goes on
without end; `x.Settles` is all that a limit needs of a call.
-/

namespace GatewayDirectory.Timed

variable {σ α : Type}

/-- Time does not go back. -/
theorem le_time_run (x : Timed σ α) (t : Nat) (s : σ) : t ≤ (x.run t s).time := by
  induction x generalizing t s with
  | done a => exact Nat.le_refl t
  | step change next ih => exact ih s t (change s)
  | clock next ih => exact ih t t s
  | emit e next ih => exact ih t s
  | wait ms next ih => exact Nat.le_trans (Nat.le_add_right t ms) (ih (t + ms) s)
  | hang => exact Nat.le_refl t
  | endless => exact Nat.le_refl t

/-- **A run that ends within the limit is not cut off.** -/
theorem run_bounded_of_le {x : Timed σ α} {limit t : Nat} {s : σ} {a : α}
    (hvalue : (x.run t s).ending = .value a) (htime : (x.run t s).time ≤ t + limit) :
    (bounded limit x).run t s =
      ⟨.value (some a), (x.run t s).state, (x.run t s).time, (x.run t s).events⟩ := by
  induction x generalizing limit t s with
  | done b =>
    cases hvalue
    rfl
  | step change next ih => exact ih s hvalue htime
  | clock next ih => exact ih t hvalue htime
  | emit e next ih =>
    simp only [run] at hvalue htime
    simp only [bounded, run, ih hvalue htime]
  | wait ms next ih =>
    simp only [run] at hvalue htime
    -- what is left of the limit after this wait still covers the rest
    have hms : ms ≤ limit := by
      have := le_time_run next (t + ms) s
      omega
    rw [bounded, if_pos hms, run, ih hvalue (by omega)]
    rfl
  | hang => cases hvalue
  | endless => cases hvalue

/-- **A run that hangs or takes longer is cut off at the limit.** -/
theorem run_bounded_of_late {x : Timed σ α} (limit : Nat) {t : Nat} {s : σ}
    (hlate : (x.run t s).ending = .hung ∨ t + limit < (x.run t s).time) :
    ((bounded limit x).run t s).ending = .value none ∧
      ((bounded limit x).run t s).time = t + limit := by
  induction x generalizing limit t s with
  | done a =>
    rcases hlate with hlate | hlate
    · cases hlate
    · simp only [run] at hlate
      omega
  | step change next ih => exact ih s limit hlate
  | clock next ih => exact ih t limit hlate
  | emit e next ih => exact ih limit hlate
  | wait ms next ih =>
    by_cases hms : ms ≤ limit
    · have hrest : t + ms + (limit - ms) = t + limit := by omega
      rw [bounded, if_pos hms, run, ← hrest]
      -- a run that is late by the whole limit is late by what the wait left of it
      refine ih _ (hlate.imp_right fun h => ?_)
      simp only [run] at h
      omega
    · rw [bounded, if_neg hms]
      exact ⟨rfl, rfl⟩
  | hang => exact ⟨rfl, rfl⟩
  | endless =>
    -- no time passes in what goes on without end, so it is not late
    rcases hlate with hlate | hlate
    · cases hlate
    · simp only [run] at hlate
      omega

/-- A computation that answers at once answers under any limit. -/
theorem Answers.bounded {x : Timed σ α} {s s' : σ} {a : α} (h : x.Answers s a s') (limit : Nat) :
    (Timed.bounded limit x).Answers s (some a) s' := by
  intro t
  obtain ⟨events, he⟩ := h t
  refine ⟨events, ?_⟩
  rw [run_bounded_of_le (by rw [he]) (by rw [he]; exact Nat.le_add_right t limit), he]

variable {β : Type}

/-- Run from the time `t` and the state `s`, the computation ends with `a` at the time `t'` and
leaves the state `s'`. -/
def Ends (x : Timed σ α) (t : Nat) (s : σ) (a : α) (t' : Nat) (s' : σ) : Prop :=
  ∃ events, x.run t s = ⟨.value a, s', t', events⟩

/-- A computation that answers at once ends when it begins. -/
theorem Answers.ends {x : Timed σ α} {s s' : σ} {a : α} (h : x.Answers s a s') (t : Nat) :
    x.Ends t s a t s' := h t

/-- **Ends compose**: the second computation begins when and where the first one ends. -/
theorem Ends.bind {x : Timed σ α} {f : α → Timed σ β} {t t₁ t₂ : Nat} {s s₁ s₂ : σ} {a : α} {b : β}
    (hx : x.Ends t s a t₁ s₁) (hf : (f a).Ends t₁ s₁ b t₂ s₂) : (x >>= f).Ends t s b t₂ s₂ := by
  obtain ⟨first, hfirst⟩ := hx
  obtain ⟨second, hsecond⟩ := hf
  refine ⟨first ++ second, ?_⟩
  rw [bind_eq, run_bind, hfirst]
  simp only [Trace.carriedOn, hsecond]

/-- A value ends when it begins. -/
theorem Ends.pure (a : α) (t : Nat) (s : σ) : (Pure.pure a : Timed σ α).Ends t s a t s :=
  (Answers.pure a s).ends t

/-- What is reported first does not matter. -/
theorem Ends.reported {x : Timed σ α} {t t' : Nat} {s s' : σ} {a : α} (e : Event)
    (h : x.Ends t s a t' s') : (Timed.report e >>= fun _ => x).Ends t s a t' s' :=
  ((Answers.report e s).ends t).bind h

/-- A run that has a value ends with it. -/
theorem Ends.of_ending {x : Timed σ α} {t : Nat} {s : σ} {a : α}
    (h : (x.run t s).ending = .value a) : x.Ends t s a (x.run t s).time (x.run t s).state :=
  ⟨(x.run t s).events, by rw [← h]⟩

/-- A run that ends has a value. -/
theorem Ends.ending_run {x : Timed σ α} {t t' : Nat} {s s' : σ} {a : α} (h : x.Ends t s a t' s') :
    (x.run t s).ending = .value a := by
  obtain ⟨events, he⟩ := h
  rw [he]

/-- A run ends in one way. -/
theorem Ends.unique {x : Timed σ α} {t t₁ t₂ : Nat} {s s₁ s₂ : σ} {a b : α}
    (ha : x.Ends t s a t₁ s₁) (hb : x.Ends t s b t₂ s₂) : a = b ∧ t₁ = t₂ ∧ s₁ = s₂ := by
  obtain ⟨first, hfirst⟩ := ha
  obtain ⟨second, hsecond⟩ := hb
  rw [hfirst] at hsecond
  cases hsecond
  exact ⟨rfl, rfl, rfl⟩

/-- **A computation that ends has parts that end**, the second where the first one left off. -/
theorem Ends.of_bind {x : Timed σ α} {f : α → Timed σ β} {t t' : Nat} {s s' : σ} {b : β}
    (h : (x >>= f).Ends t s b t' s') :
    ∃ a t₁ s₁, x.Ends t s a t₁ s₁ ∧ (f a).Ends t₁ s₁ b t' s' := by
  obtain ⟨events, he⟩ := h
  rw [bind_eq, run_bind] at he
  cases hx : (x.run t s).ending with
  | value a =>
    refine ⟨a, _, _, .of_ending hx, ((f a).run (x.run t s).time (x.run t s).state).events, ?_⟩
    simp only [Trace.carriedOn, hx] at he
    have hfields := Trace.mk.inj he
    rw [← hfields.1, ← hfields.2.1, ← hfields.2.2.1]
  | hung =>
    simp only [Trace.carriedOn, hx] at he
    cases he
  | endless =>
    simp only [Trace.carriedOn, hx] at he
    cases he

/-- A pause takes its time and changes nothing. -/
theorem Ends.sleep (ms t : Nat) (s : σ) : (Timed.sleep ms).Ends t s () (t + ms) s := ⟨[], rfl⟩

/-- Events are reported at once and change nothing. -/
theorem Answers.reportAll (es : List Event) (s : σ) : (Timed.reportAll es).Answers s () s := by
  intro t
  induction es with
  | nil => exact ⟨[], rfl⟩
  | cons e es ih =>
    obtain ⟨events, he⟩ := ih
    refine ⟨e :: events, ?_⟩
    rw [Timed.reportAll, run, he]

/-- A computation that ends within the limit ends under it. -/
theorem Ends.bounded {x : Timed σ α} {limit t t' : Nat} {s s' : σ} {a : α} (h : x.Ends t s a t' s')
    (hle : t' ≤ t + limit) : (Timed.bounded limit x).Ends t s (some a) t' s' := by
  obtain ⟨events, he⟩ := h
  refine ⟨events, ?_⟩
  rw [run_bounded_of_le (by rw [he]) (by rw [he]; exact hle), he]

/-- **A run under a limit tells how the run without it comes out**: it ends with the value within
the limit, or the limit is reached before it ends. -/
theorem Ends.of_bounded {x : Timed σ α} {limit t t' : Nat} {s s' : σ} {o : Option α}
    (h : (Timed.bounded limit x).Ends t s o t' s') :
    (∃ a, o = some a ∧ x.Ends t s a t' s' ∧ t' ≤ t + limit) ∨
      (o = none ∧ t' = t + limit ∧
        ((x.run t s).ending = .hung ∨ t + limit < (x.run t s).time)) := by
  obtain ⟨events, he⟩ := h
  induction x generalizing limit t s events with
  | done a =>
    cases he
    exact .inl ⟨a, rfl, ⟨[], rfl⟩, Nat.le_add_right t' limit⟩
  | step change next ih => exact ih s events he
  | clock next ih => exact ih t events he
  | emit e next ih =>
    obtain ⟨hending, hstate, htime, -⟩ := Trace.mk.inj he
    -- the event stands before what the rest reports, so the run of the rest is opened by its fields
    have hnext : (Timed.bounded limit next).run t s =
        ⟨.value o, s', t', ((Timed.bounded limit next).run t s).events⟩ := by
      rw [← hending, ← hstate, ← htime]
    rcases ih _ hnext with ⟨a, ho, ⟨later, hlater⟩, hle⟩ | hlate
    · refine .inl ⟨a, ho, ⟨e :: later, ?_⟩, hle⟩
      simp only [run, hlater]
    · exact .inr hlate
  | wait ms next ih =>
    rw [Timed.bounded] at he
    split at he
    · rcases ih events he with ⟨a, ho, hends, hle⟩ | ⟨ho, htime, hlate⟩
      · exact .inl ⟨a, ho, hends, by omega⟩
      · have hrest : t + ms + (limit - ms) = t + limit := by omega
        rw [hrest] at htime hlate
        exact .inr ⟨ho, htime, hlate⟩
    · -- the wait alone goes beyond the limit
      cases he
      have hwait := le_time_run next (t + ms) s'
      have hlate : t + limit < (next.run (t + ms) s').time := by omega
      exact .inr ⟨rfl, rfl, .inr hlate⟩
  | hang =>
    cases he
    exact .inr ⟨rfl, rfl, .inl rfl⟩
  | endless => cases he

/-- Run from the time `t` and the state `s`, the computation goes on without end, and is given up
when it has reached the state `s'`. -/
def Stalls (x : Timed σ α) (t : Nat) (s s' : σ) : Prop :=
  (x.run t s).ending = .endless ∧ (x.run t s).state = s'

/-- What comes after a computation that stalls is never reached. -/
theorem Stalls.bind {x : Timed σ α} {t : Nat} {s s' : σ} (h : x.Stalls t s s')
    (f : α → Timed σ β) : (x >>= f).Stalls t s s' := by
  obtain ⟨hending, hstate⟩ := h
  rw [Stalls, bind_eq, run_bind]
  simp only [Trace.carriedOn, hending]
  exact ⟨trivial, hstate⟩

/-- A computation stalls where it ends at first and what follows stalls. -/
theorem Ends.stalls {x : Timed σ α} {f : α → Timed σ β} {t t₁ : Nat} {s s₁ s' : σ} {a : α}
    (hx : x.Ends t s a t₁ s₁) (hf : (f a).Stalls t₁ s₁ s') : (x >>= f).Stalls t s s' := by
  obtain ⟨events, hevents⟩ := hx
  rw [Stalls, bind_eq, run_bind, hevents]
  exact hf

/-- What is reported first does not matter. -/
theorem Stalls.reported {x : Timed σ α} {t : Nat} {s s' : σ} (e : Event) (h : x.Stalls t s s') :
    (Timed.report e >>= fun _ => x).Stalls t s s' :=
  ((Answers.report e s).ends t).stalls h

/-! ## Calls that answer some time or hang -/

/-- However it is run, the computation answers some time or hangs. -/
def Settles (x : Timed σ α) : Prop := ∀ t s, (x.run t s).ending ≠ .endless

/-- **A call that settles is over within the limit**, with an answer or without. -/
theorem Settles.ends_bounded {x : Timed σ α} (h : x.Settles) (limit t : Nat) (s : σ) :
    ∃ o t' s', (Timed.bounded limit x).Ends t s o t' s' ∧ t' ≤ t + limit := by
  cases hx : (x.run t s).ending with
  | value a =>
    -- an answer may come too late, which is then like none
    rcases Nat.lt_or_ge (t + limit) (x.run t s).time with hlt | hle
    · obtain ⟨hnone, htime⟩ := run_bounded_of_late limit (.inr hlt)
      exact ⟨none, _, _, .of_ending hnone, Nat.le_of_eq htime⟩
    · exact ⟨some a, _, _, ⟨_, run_bounded_of_le hx hle⟩, hle⟩
  | hung =>
    obtain ⟨hnone, htime⟩ := run_bounded_of_late limit (.inl hx)
    exact ⟨none, _, _, .of_ending hnone, Nat.le_of_eq htime⟩
  | endless => exact absurd hx (h t s)

end GatewayDirectory.Timed
