import GatewayDirectory.Proofs.Timed.Limits
import GatewayDirectory.Proofs.Timed.Turns

/-!
# Computations that change something at the end or not at all

`Commits view x` says of a computation that may fail that no turn of it changes what the view shows,
except for a last turn with which it succeeds. This holds whatever others do between its turns, so a
computation that fails has changed nothing of that, however it was disturbed (`Commits.of_error`).
`x.EndsAmid others s a s'` is a run in which others come in between: `x` is left to take its turns
from the state `s`, the others change the state in their way, and `x` ends with `a` in the state
`s'`.
-/

namespace GatewayDirectory.Timed

variable {σ ω α β ε : Type}

/-! ## Runs with others in between -/

/-- The computation ends with a value while others take turns as well. -/
inductive EndsAmid (others : σ → σ → Prop) : Timed σ α → σ → α → σ → Prop
  | ended (a : α) (s : σ) : EndsAmid others (done a) s a s
  | turned {x : Timed σ α} {s s' : σ} {a : α} (time : Nat)
    (rest : EndsAmid others (turn time x s).1 (turn time x s).2 a s') : EndsAmid others x s a s'
  | disturbed {x : Timed σ α} {s s₁ s' : σ} {a : α} (h : others s s₁)
    (rest : EndsAmid others x s₁ a s') : EndsAmid others x s a s'

/-- A run by itself is one in which others do nothing. -/
theorem Ends.amid {others : σ → σ → Prop} {x : Timed σ α} {t t' : Nat} {s s' : σ} {a : α}
    (h : x.Ends t s a t' s') : EndsAmid others x s a s' := by
  obtain ⟨events, he⟩ := h
  induction x generalizing t s events with
  | done b =>
    cases he
    exact .ended _ _
  | step change next ih => exact .turned t (ih s events he)
  | clock next ih => exact .turned t (ih t events he)
  | emit e next ih =>
    -- what is reported does not matter, so the rest ends with events of its own
    simp only [run, Trace.mk.injEq] at he
    obtain ⟨hending, hstate, htime, -⟩ := he
    have hnext : next.run t s = ⟨.value a, s', t', (next.run t s).events⟩ := by
      rw [← hending, ← hstate, ← htime]
    exact .turned t (ih _ hnext)
  | wait ms next ih => exact .turned t (ih events he)
  | hang => cases he
  | endless => cases he

/-- A computation that has ended has its value, whatever others do after it. -/
theorem EndsAmid.eq_of_done {others : σ → σ → Prop} {x : Timed σ α} {s s' : σ} {a b : α}
    (h : EndsAmid others x s a s') (hx : x = done b) : a = b := by
  -- the induction is over what others do: the computation itself has no turn left that changes it
  induction h with
  | ended a s => exact Timed.done.inj hx
  | turned time rest ih =>
    subst hx
    exact ih rfl
  | disturbed h rest ih => exact ih hx

/-! ## Computations that commit -/

/-- Whatever others do between its turns, no turn of the computation changes what the view shows,
unless it is the last one and the computation succeeds with it. -/
def Commits (view : σ → ω) : Timed σ (Except ε α) → Prop
  | done _ => True
  | step change next =>
    ∀ s, (view (change s) = view s ∧ Commits view (next s)) ∨ ∃ a, next s = done (.ok a)
  | clock next => ∀ t, Commits view (next t)
  | emit _ next | wait _ next => Commits view next
  | hang | endless => True

namespace Commits

variable {view : σ → ω} {x : Timed σ (Except ε α)}

/-- A value that is there changes nothing more. -/
theorem pure (r : Except ε α) : Commits view (Pure.pure r : Timed σ (Except ε α)) := trivial

/-- To read something first does no harm. -/
theorem read_bind {f : σ → β} {next : β → Timed σ (Except ε α)} (h : ∀ b, Commits view (next b)) :
    Commits view (Timed.read f >>= next) :=
  fun s => .inl ⟨rfl, h (f s)⟩

/-- **A turn changes nothing**, or it is the last one and the computation succeeds with it. -/
theorem turn (h : Commits view x) (time : Nat) (s : σ) :
    (view (Timed.turn time x s).2 = view s ∧ Commits view (Timed.turn time x s).1) ∨
      ∃ a, (Timed.turn time x s).1 = done (.ok a) := by
  cases x with
  | done r => exact .inl ⟨rfl, trivial⟩
  | step change next => exact h s
  | clock next => exact .inl ⟨rfl, h time⟩
  | emit e next => exact .inl ⟨rfl, h⟩
  | wait ms next => exact .inl ⟨rfl, h⟩
  | hang => exact .inl ⟨rfl, trivial⟩
  | endless => exact .inl ⟨rfl, trivial⟩

/-- **A computation that fails has changed nothing**, if the others did not either. -/
theorem of_error {others : σ → σ → Prop} (h : Commits view x)
    (hothers : ∀ s s', others s s' → view s' = view s) {s s' : σ} {e : ε}
    (hend : EndsAmid others x s (.error e) s') : view s' = view s := by
  -- the induction runs over the turns and over what others do, for whatever value the run ends with
  generalize hr : (Except.error e : Except ε α) = r at hend
  induction hend with
  | ended a s => rfl
  | @turned x s s' a time rest ih =>
    rcases h.turn time s with ⟨hview, hleft⟩ | ⟨b, hdone⟩
    · exact (ih hleft hr).trans hview
    · -- the computation succeeds with this turn
      have hvalue := rest.eq_of_done hdone
      rw [← hr] at hvalue
      cases hvalue
  | disturbed hstep rest ih => exact (ih h hr).trans (hothers _ _ hstep)

end Commits

end GatewayDirectory.Timed
