import GatewayDirectory.Timed

/-!
# Computations that answer at once

`x.Answers s a s'` says that `x`, run from the state `s` at any time, ends without a wait, with the
value `a`, and leaves the state `s'`. It composes along `bind`, so that what a computation answers
follows from what its steps answer. The events that are reported on the way do not matter to it.
`x.RunsOn s s'` is its counterpart for a computation that is given up as endless.
-/

namespace GatewayDirectory.Timed

variable {σ α β : Type}

/-- Run from `s` at any time, the computation ends at once with `a` and leaves `s'`. -/
def Answers (x : Timed σ α) (s : σ) (a : α) (s' : σ) : Prop :=
  ∀ t, ∃ events, x.run t s = ⟨.value a, s', t, events⟩

namespace Answers

/-- A value answers with itself and leaves the state. -/
theorem pure (a : α) (s : σ) : (Pure.pure a : Timed σ α).Answers s a s := fun _ => ⟨[], rfl⟩

/-- One step answers with what it makes of the state and leaves the state it makes. -/
theorem update (f : σ → α × σ) (s : σ) : (Timed.update f).Answers s (f s).1 (f s).2 :=
  fun _ => ⟨[], rfl⟩

/-- A step that only reads leaves the state as it is. -/
theorem read (f : σ → α) (s : σ) : (Timed.read f).Answers s (f s) s := fun _ => ⟨[], rfl⟩

/-- A step that only changes the state has nothing to say. -/
theorem modify (f : σ → σ) (s : σ) : (Timed.modify f).Answers s () (f s) := fun _ => ⟨[], rfl⟩

/-- An event is reported at once and changes nothing. -/
theorem report (e : Event) (s : σ) : (Timed.report e).Answers s () s := fun _ => ⟨[e], rfl⟩

/-- **Answers compose**: the second computation goes on from where the first one ends. -/
theorem bind {x : Timed σ α} {f : α → Timed σ β} {s s₁ s₂ : σ} {a : α} {b : β}
    (hx : x.Answers s a s₁) (hf : (f a).Answers s₁ b s₂) : (x >>= f).Answers s b s₂ := by
  intro t
  obtain ⟨first, hfirst⟩ := hx t
  obtain ⟨second, hsecond⟩ := hf t
  refine ⟨first ++ second, ?_⟩
  rw [bind_eq, run_bind, hfirst]
  simp only [Trace.carriedOn, hsecond]

/-- A computation has one answer. -/
theorem unique {x : Timed σ α} {s s₁ s₂ : σ} {a b : α} (ha : x.Answers s a s₁)
    (hb : x.Answers s b s₂) : a = b ∧ s₁ = s₂ := by
  obtain ⟨first, hfirst⟩ := ha 0
  obtain ⟨second, hsecond⟩ := hb 0
  rw [hfirst] at hsecond
  cases hsecond
  exact ⟨rfl, rfl⟩

/-- The state that an answer leaves is the one at the end of a run. -/
theorem state_run {x : Timed σ α} {s s' : σ} {a : α} (h : x.Answers s a s') (t : Nat) :
    (x.run t s).state = s' := by
  obtain ⟨events, he⟩ := h t
  rw [he]

/-- The value of an answer is the one that a run ends with. -/
theorem ending_run {x : Timed σ α} {s s' : σ} {a : α} (h : x.Answers s a s') (t : Nat) :
    (x.run t s).ending = .value a := by
  obtain ⟨events, he⟩ := h t
  rw [he]

end Answers

/-- Run from `s` at any time, the computation is given up as endless when it has reached the state
`s'`, without a wait. -/
def RunsOn (x : Timed σ α) (s s' : σ) : Prop :=
  ∀ t, ∃ events, x.run t s = ⟨.endless, s', t, events⟩

/-- What comes after a computation that runs on is never reached. -/
theorem RunsOn.bind {x : Timed σ α} {f : α → Timed σ β} {s s' : σ} (h : x.RunsOn s s') :
    (x >>= f).RunsOn s s' := by
  intro t
  obtain ⟨events, he⟩ := h t
  refine ⟨events, ?_⟩
  rw [bind_eq, run_bind, he]
  rfl

/-- A computation runs on where it answers first and what follows runs on. -/
theorem Answers.runsOn {x : Timed σ α} {f : α → Timed σ β} {s s₁ s₂ : σ} {a : α}
    (hx : x.Answers s a s₁) (hf : (f a).RunsOn s₁ s₂) : (x >>= f).RunsOn s s₂ := by
  intro t
  obtain ⟨first, hfirst⟩ := hx t
  obtain ⟨second, hsecond⟩ := hf t
  refine ⟨first ++ second, ?_⟩
  rw [bind_eq, run_bind, hfirst]
  simp only [Trace.carriedOn, hsecond]

end GatewayDirectory.Timed
