import GatewayDirectory.Event

/-!
# Timed computations

A `Timed σ α` works on a state `σ` in single steps, may wait in between, reports events, and ends
with an `α`. It may also hang for ever, or be given up as endless when a bound on its steps is used
up. Time is counted in milliseconds. `Timed.bounded` puts a limit on the time a computation may
take: it answers if its waits add up to the limit at most, and is cut off at the limit otherwise,
keeping what it did before.
-/

namespace GatewayDirectory

/-- A computation that takes time. -/
inductive Timed (σ α : Type) where
  | done (value : α)
  /-- One step on the state, which goes on with the state before the step. -/
  | step (change : σ → σ) (next : σ → Timed σ α)
  /-- Goes on with the time of the clock. -/
  | clock (next : Nat → Timed σ α)
  | emit (event : Event) (next : Timed σ α)
  | wait (ms : Nat) (next : Timed σ α)
  /-- Waits without end. -/
  | hang
  /-- Goes on without end and without waiting. -/
  | endless

namespace Timed

variable {σ α β : Type}

/-- Goes on with the result of a computation. -/
def bind (x : Timed σ α) (f : α → Timed σ β) : Timed σ β :=
  match x with
  | done a => f a
  | step change next => step change fun s => (next s).bind f
  | clock next => clock fun t => (next t).bind f
  | emit e next => emit e (next.bind f)
  | wait ms next => wait ms (next.bind f)
  | hang => hang
  | endless => endless

instance : Monad (Timed σ) where
  pure := done
  bind := bind

/-- A value that needs no step, as the monad writes it. -/
@[simp] theorem pure_eq (a : α) : (pure a : Timed σ α) = done a := rfl

/-- Going on with a result, as the monad writes it. -/
@[simp] theorem bind_eq (x : Timed σ α) (f : α → Timed σ β) : x >>= f = x.bind f := rfl

/-- A value goes on at once. -/
@[simp] theorem done_bind (a : α) (f : α → Timed σ β) : (done a).bind f = f a := rfl

/-- Going on with nothing but the value changes nothing. -/
@[simp] theorem bind_done (x : Timed σ α) : x.bind done = x := by
  induction x with
  | done a => rfl
  | step change next ih => simp [bind, ih]
  | clock next ih => simp [bind, ih]
  | emit e next ih => simp [bind, ih]
  | wait ms next ih => simp [bind, ih]
  | hang => rfl
  | endless => rfl

/-- Three computations in a row need no brackets. -/
theorem bind_assoc {γ : Type} (x : Timed σ α) (f : α → Timed σ β) (g : β → Timed σ γ) :
    (x.bind f).bind g = x.bind fun a => (f a).bind g := by
  induction x with
  | done a => rfl
  | step change next ih => simp [bind, ih]
  | clock next ih => simp [bind, ih]
  | emit e next ih => simp [bind, ih]
  | wait ms next ih => simp [bind, ih]
  | hang => rfl
  | endless => rfl

/-- One step that answers from the state and changes it. -/
def update (f : σ → α × σ) : Timed σ α := step (fun s => (f s).2) fun s => done (f s).1

/-- One step that only reads the state. -/
def read (f : σ → α) : Timed σ α := step id fun s => done (f s)

/-- One step that only changes the state. -/
def modify (f : σ → σ) : Timed σ Unit := step f fun _ => done ()

/-- Reports an event. -/
def report (e : Event) : Timed σ Unit := emit e (done ())

/-- Reports events in order. -/
def reportAll : List Event → Timed σ Unit
  | [] => done ()
  | e :: rest => emit e (reportAll rest)

/-- Waits. -/
def sleep (ms : Nat) : Timed σ Unit := wait ms (done ())

/-- The computation cut off after `limit`: `none` if it has not ended by then. -/
def bounded (limit : Nat) : Timed σ α → Timed σ (Option α)
  | done a => done (some a)
  | step change next => step change fun s => bounded limit (next s)
  | clock next => clock fun t => bounded limit (next t)
  | emit e next => emit e (bounded limit next)
  | wait ms next =>
    -- what ends just at the limit is still in time
    if ms ≤ limit then wait ms (bounded (limit - ms) next) else wait limit (done none)
  | hang => wait limit (done none)
  | endless => endless

/-- How a computation ends. -/
inductive Ending (α : Type) where
  | value (a : α)
  | hung
  | endless
deriving DecidableEq, Inhabited

/-- The value of a computation that ended. -/
def Ending.value? {α : Type} : Ending α → Option α
  | .value a => some a
  | _ => none

/-- What a run of a computation leaves. -/
structure Trace (σ α : Type) where
  ending : Ending α
  state : σ
  /-- The time of the clock at the end. -/
  time : Nat
  events : List Event

/-- Runs a computation from a time and a state. -/
def run : Timed σ α → Nat → σ → Trace σ α
  | done a, t, s => ⟨.value a, s, t, []⟩
  | step change next, t, s => run (next s) t (change s)
  | clock next, t, s => run (next t) t s
  | emit e next, t, s =>
    let r := run next t s
    { r with events := e :: r.events }
  | wait ms next, t, s => run next (t + ms) s
  | hang, t, s => ⟨.hung, s, t, []⟩
  | endless, t, s => ⟨.endless, s, t, []⟩

/-- A trace carried on by the computation that its value leads to. -/
def Trace.carriedOn (r : Trace σ α) (f : α → Timed σ β) : Trace σ β :=
  match r.ending with
  | .value a =>
    let after := (f a).run r.time r.state
    { after with events := r.events ++ after.events }
  | .hung => ⟨.hung, r.state, r.time, r.events⟩
  | .endless => ⟨.endless, r.state, r.time, r.events⟩

/-- A computation runs as its first part does, carried on by the rest. -/
theorem run_bind (x : Timed σ α) (f : α → Timed σ β) (t : Nat) (s : σ) :
    (x.bind f).run t s = (x.run t s).carriedOn f := by
  induction x generalizing t s with
  | done a => rfl
  | step change next ih => exact ih s t (change s)
  | clock next ih => exact ih t t s
  | emit e next ih =>
    -- an event stands before what either part reports, so only here the ending decides the shape
    simp only [bind, run, ih]
    unfold Trace.carriedOn
    cases (run next t s).ending <;> rfl
  | wait ms next ih => exact ih (t + ms) s
  | hang => rfl
  | endless => rfl

end Timed

end GatewayDirectory
