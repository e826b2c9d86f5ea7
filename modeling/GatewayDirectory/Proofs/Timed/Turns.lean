import GatewayDirectory.Timed
import Mathlib.Order.CompleteBooleanAlgebra
import Mathlib.Order.CompletePartialOrder

/-!
# Computations that take turns

`turn` is one step of a computation, so that any number of them may work on one state and take turns
in any order. A `Discipline` says what a step may do to the state, by what the computation has
learned from the states that it met. `d.Keeps post x k` says that every step of `x` abides by the
discipline, whatever others do to the state between its turns, if `x` has learned `k` before; it
composes along `bind`, and holds of what is left after each turn. `x.Calm` is the discipline of a
computation that changes nothing.
-/

namespace GatewayDirectory.Timed

variable {σ α β κ : Type}

/-- One step of a computation at some time: what is left of the computation, and the state. Nothing
happens if it has ended or hangs. -/
def turn (time : Nat) : Timed σ α → σ → Timed σ α × σ
  | step change next, s => (next s, change s)
  | clock next, s => (next time, s)
  | emit _ next, s | wait _ next, s => (next, s)
  | x, s => (x, s)

/-- What steps may do to a state by what has been learned. One never forgets, and may do at least
what one might do knowing less. -/
structure Discipline (σ κ : Type) [Preorder κ] where
  /-- What is known to one who meets a state. -/
  learn : κ → σ → κ
  /-- Whether a step that leads from one state to another is allowed. -/
  Allows : κ → σ → σ → Prop
  le_learn : ∀ k s, k ≤ learn k s
  learn_mono : ∀ {k k'} s, k ≤ k' → learn k s ≤ learn k' s
  allows_refl : ∀ k s, Allows k s s
  allows_mono : ∀ {k k' s s'}, k ≤ k' → Allows k s s' → Allows k' s s'

namespace Discipline

variable [Preorder κ] (d : Discipline σ κ)

/-- Every step of the computation is allowed by what has been learned by then, and what it ends with
satisfies `post`. -/
def Keeps (post : κ → α → Prop) : Timed σ α → κ → Prop
  | done a, k => post k a
  | step change next, k =>
    ∀ s, d.Allows (d.learn k s) s (change s) ∧ Keeps post (next s) (d.learn k s)
  | clock next, k => ∀ t, Keeps post (next t) k
  | emit _ next, k | wait _ next, k => Keeps post next k
  | hang, _ | endless, _ => True

namespace Keeps

variable {d} {post : κ → α → Prop} {x : Timed σ α} {k k' : κ}

/-- To have learned more does no harm. -/
theorem mono (hpost : ∀ {k k'} a, k ≤ k' → post k a → post k' a) (h : d.Keeps post x k)
    (hk : k ≤ k') : d.Keeps post x k' := by
  induction x generalizing k k' with
  | done a => exact hpost a hk h
  | step change next ih =>
    intro s
    have hlearn := d.learn_mono s hk
    exact ⟨d.allows_mono hlearn (h s).1, ih s (h s).2 hlearn⟩
  | clock next ih => exact fun t => ih t (h t) hk
  | emit e next ih => exact ih h hk
  | wait ms next ih => exact ih h hk
  | hang => trivial
  | endless => trivial

/-- **Discipline composes**: the second computation goes on with what the first one learned. -/
theorem bind {f : α → Timed σ β} {post' : κ → β → Prop} (hx : d.Keeps post x k)
    (hf : ∀ a k', k ≤ k' → post k' a → d.Keeps post' (f a) k') : d.Keeps post' (x >>= f) k := by
  -- the induction is on the first computation, which may learn more before it ends; `f` meets all
  -- that is known by then
  induction x generalizing k with
  | done a => exact hf a k (le_refl k) hx
  | step change next ih =>
    intro s
    exact ⟨(hx s).1, ih s (hx s).2 fun a k' hk => hf a k' (le_trans (d.le_learn k s) hk)⟩
  | clock next ih => exact fun t => ih t (hx t) hf
  | emit e next ih => exact ih hx hf
  | wait ms next ih => exact ih hx hf
  | hang => trivial
  | endless => trivial

/-- A computation that is cut off keeps the discipline until then. -/
theorem bounded (h : d.Keeps post x k) (limit : Nat) :
    d.Keeps (fun k o => ∀ a, o = some a → post k a) (Timed.bounded limit x) k := by
  induction x generalizing k limit with
  | done a =>
    intro b hb
    cases hb
    exact h
  | step change next ih => exact fun s => ⟨(h s).1, ih s (h s).2 limit⟩
  | clock next ih => exact fun t => ih t (h t) limit
  | emit e next ih => exact ih h limit
  | wait ms next ih =>
    unfold Timed.bounded
    -- a wait over the limit is cut to it, and no step is left that might be forbidden
    split
    · exact ih h (limit - ms)
    · exact fun a ha => nomatch ha
  | hang => exact fun a ha => nomatch ha
  | endless => trivial

/-- A step that only reads the state is always allowed. -/
theorem read (f : σ → α) (k : κ) :
    d.Keeps (fun k' a => ∃ s, a = f s ∧ d.learn k s ≤ k') (Timed.read f) k :=
  fun s => ⟨d.allows_refl _ s, s, rfl, le_refl _⟩

/-- **A turn is allowed**, and what is left of the computation keeps the discipline with what is
known after it. -/
theorem turn (hpost : ∀ {k k'} a, k ≤ k' → post k a → post k' a) (h : d.Keeps post x k)
    (time : Nat) (s : σ) :
    d.Allows (d.learn k s) s (Timed.turn time x s).2 ∧
      d.Keeps post (Timed.turn time x s).1 (d.learn k s) := by
  have hk := d.le_learn k s
  cases x with
  | done a => exact ⟨d.allows_refl _ s, h.mono hpost hk⟩
  | step change next => exact h s
  | clock next => exact ⟨d.allows_refl _ s, mono hpost (h time) hk⟩
  | emit e next => exact ⟨d.allows_refl _ s, mono hpost h hk⟩
  | wait ms next => exact ⟨d.allows_refl _ s, mono hpost h hk⟩
  | hang => exact ⟨d.allows_refl _ s, trivial⟩
  | endless => exact ⟨d.allows_refl _ s, trivial⟩

end Keeps

end Discipline

/-! ## Computations that change nothing -/

/-- The discipline that allows no change at all. -/
def still : Discipline σ Unit where
  learn _ _ := ()
  Allows _ s s' := s' = s
  le_learn _ _ := le_refl _
  learn_mono _ _ := le_refl _
  allows_refl _ _ := rfl
  allows_mono _ h := h

/-- No step of the computation changes the state, whatever others do in between. -/
def Calm (x : Timed σ α) : Prop := still.Keeps (fun _ _ => True) x ()

namespace Calm

/-- A value changes nothing. -/
theorem pure (a : α) : (Pure.pure a : Timed σ α).Calm := trivial

/-- A step that reads something leaves the state as it is. -/
theorem read (f : σ → α × σ) (h : ∀ s, (f s).2 = s) : (Timed.update f).Calm :=
  fun s => ⟨h s, trivial⟩

/-- A computation is calm if both its parts are. -/
theorem bind {x : Timed σ α} {f : α → Timed σ β} (hx : x.Calm) (hf : ∀ a, (f a).Calm) :
    (x >>= f).Calm :=
  Discipline.Keeps.bind hx fun a _ _ _ => hf a

/-- A turn of a calm computation changes nothing, and what is left of it is calm. -/
theorem turn {x : Timed σ α} (h : x.Calm) (time : Nat) (s : σ) :
    (Timed.turn time x s).2 = s ∧ (Timed.turn time x s).1.Calm :=
  Discipline.Keeps.turn (fun _ _ _ => trivial) h time s

end Calm

end GatewayDirectory.Timed
