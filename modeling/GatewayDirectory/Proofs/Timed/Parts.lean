import GatewayDirectory.Part
import GatewayDirectory.Proofs.Timed.Limits

/-!
# Computations on a part of a state

`Timed.within part x` does on a part of a state what `x` does on a state of its own. It runs as `x`
does and leaves all else as it is (`run_within`), and it makes no difference whether it is cut off
there or here (`bounded_within`).
-/

namespace GatewayDirectory

variable {σ ω α β : Type}

/-- What is put into the part is found there, and nothing else depends on it. -/
structure Part.Lawful (p : Part σ α) : Prop where
  get_set : ∀ a s, p.get (p.set a s) = a
  set_get : ∀ s, p.set (p.get s) s = s
  set_set : ∀ a b s, p.set a (p.set b s) = p.set a s

namespace Timed

/-- A computation done on a part of the state. -/
def within (p : Part σ ω) : Timed ω α → Timed σ α
  | done a => done a
  | step change next =>
    step (fun s => p.set (change (p.get s)) s) fun s => within p (next (p.get s))
  | clock next => clock fun t => within p (next t)
  | emit e next => emit e (within p next)
  | wait ms next => wait ms (within p next)
  | hang => hang
  | endless => endless

/-- **On a part, a computation runs as it does by itself**, and all else stays. -/
theorem run_within {p : Part σ ω} (hp : p.Lawful) (x : Timed ω α) (t : Nat) (s : σ) :
    (within p x).run t s =
      ⟨(x.run t (p.get s)).ending, p.set (x.run t (p.get s)).state s, (x.run t (p.get s)).time,
        (x.run t (p.get s)).events⟩ := by
  induction x generalizing t s with
  | done a => simp only [within, run, hp.set_get]
  | step change next ih => simp only [within, run, ih, hp.get_set, hp.set_set]
  | clock next ih => exact ih t t s
  | emit e next ih => simp only [within, run, ih]
  | wait ms next ih => exact ih (t + ms) s
  | hang => simp only [within, run, hp.set_get]
  | endless => simp only [within, run, hp.set_get]

/-- To cut off a computation on a part is to do so there. -/
theorem bounded_within (p : Part σ ω) (limit : Nat) (x : Timed ω α) :
    bounded limit (within p x) = within p (bounded limit x) := by
  induction x generalizing limit with
  | done a => rfl
  | step change next ih => simp only [within, bounded, ih]
  | clock next ih => simp only [within, bounded, ih]
  | emit e next ih => simp only [within, bounded, ih]
  | wait ms next ih =>
    simp only [within, bounded]
    split
    · simp only [within, ih]
    · rfl
  | hang => rfl
  | endless => rfl

/-- A trace as it is seen through a view of the state. -/
def Trace.seen (view : σ → ω) (r : Trace σ α) : Trace ω α :=
  ⟨r.ending, view r.state, r.time, r.events⟩

/-- Seen through a view of the state, one computation runs as the other does. -/
def Mirrors (view : σ → ω) (x : Timed σ α) (y : Timed ω α) : Prop :=
  ∀ t s, (x.run t s).seen view = y.run t (view s)

namespace Mirrors

variable {view : σ → ω}

/-- Where a computation ends, the one that it mirrors ends likewise. -/
theorem ends {x : Timed σ α} {y : Timed ω α} {t t' : Nat} {s s' : σ} {a : α}
    (hxy : Mirrors view x y) (h : x.Ends t s a t' s') : y.Ends t (view s) a t' (view s') := by
  obtain ⟨events, hevents⟩ := h
  refine ⟨events, ?_⟩
  rw [← hxy t s, hevents]
  rfl

/-- Where the mirrored computation ends, the one that mirrors it ends likewise. -/
theorem exists_ends {x : Timed σ α} {y : Timed ω α} {t t' : Nat} {s : σ} {w : ω} {a : α}
    (hxy : Mirrors view x y) (h : y.Ends t (view s) a t' w) :
    ∃ s', x.Ends t s a t' s' ∧ view s' = w := by
  obtain ⟨events, hevents⟩ := h
  rw [← hxy t s] at hevents
  obtain ⟨hending, hstate, htime, -⟩ := Trace.mk.inj hevents
  refine ⟨(x.run t s).state, ?_, hstate⟩
  have hends := Ends.of_ending hending
  rw [htime] at hends
  exact hends

/-- A value mirrors itself. -/
theorem pure (a : α) : Mirrors view (Pure.pure a) (Pure.pure a) := fun _ _ => rfl

/-- What is reported does not depend on the state. -/
theorem report (e : Event) : Mirrors view (Timed.report e) (Timed.report e) := fun _ _ => rfl

/-- A pause does not depend on the state. -/
theorem sleep (ms : Nat) : Mirrors view (Timed.sleep ms) (Timed.sleep ms) := fun _ _ => rfl

/-- What goes on without end does so on any state. -/
theorem endless : Mirrors view (Timed.endless : Timed σ α) Timed.endless := fun _ _ => rfl

/-- **Mirrors compose.** -/
theorem bind {x : Timed σ α} {y : Timed ω α} {f : α → Timed σ β} {g : α → Timed ω β}
    (hx : Mirrors view x y) (hf : ∀ a, Mirrors view (f a) (g a)) :
    Mirrors view (x >>= f) (y >>= g) := by
  intro t s
  rw [bind_eq, bind_eq, run_bind, run_bind, ← hx t s]
  -- only a first part that ends is carried on, and its value is the same in both runs
  cases hending : (x.run t s).ending with
  | value a =>
    have hrest := hf a (x.run t s).time (x.run t s).state
    simp only [Trace.carriedOn, Trace.seen, hending] at hrest ⊢
    rw [← hrest]
  | hung => simp only [Trace.carriedOn, Trace.seen, hending]
  | endless => simp only [Trace.carriedOn, Trace.seen, hending]

/-- Neither do several events in a row. -/
theorem reportAll (es : List Event) : Mirrors view (Timed.reportAll es) (Timed.reportAll es) := by
  induction es with
  | nil => exact pure ()
  | cons e es ih => exact (report e).bind fun _ => ih

end Mirrors

end Timed

end GatewayDirectory
