import GatewayDirectory.Timed

/-!
# Computations in the background

A pool holds computations that go on beside one in the foreground. They take turns only where
someone waits: a computation runs up to its next wait in one go. Of those that are due at one time
the foreground goes first, and the others follow in the order in which they began to wait.
-/

namespace GatewayDirectory.Timed

variable {σ α : Type}

/-- Where a computation stands after it ran as far as it can without waiting. -/
inductive Paused (σ α : Type) where
  | ended (ending : Ending α)
  | waiting (ms : Nat) (next : Timed σ α)

/-- Runs a computation up to its next wait. Waiting for no time is not waiting. -/
def advance : Timed σ α → Nat → σ → Paused σ α × σ × List Event
  | done a, _, s => (.ended (.value a), s, [])
  | step change next, t, s => advance (next s) t (change s)
  | clock next, t, s => advance (next t) t s
  | emit e next, t, s =>
    let (p, s, es) := advance next t s
    (p, s, e :: es)
  | wait ms next, t, s => if ms = 0 then advance next t s else (.waiting ms next, s, [])
  | hang, _, s => (.ended .hung, s, [])
  | endless, _, s => (.ended .endless, s, [])

/-- A computation in the background and the time at which it goes on. -/
structure Background (σ : Type) where
  due : Nat
  next : Timed σ Unit

/-- Computations in the background, in the order in which they began to wait. -/
abbrev Pool (σ : Type) := List (Background σ)

/-- Gives a turn to each computation that is due. -/
def runDue (time : Nat) : Pool σ → Pool σ → σ → Pool σ × σ × List Event
  | [], later, s => (later, s, [])
  | b :: rest, later, s =>
    if time < b.due then
      let (pool, s, es) := runDue time rest later s
      (b :: pool, s, es)
    else
      match advance b.next time s with
      | (.ended _, s, es) =>
        let (pool, s, es') := runDue time rest later s
        (pool, s, es ++ es')
      | (.waiting ms next, s, es) =>
        let (pool, s, es') := runDue time rest (later ++ [⟨time + ms, next⟩]) s
        (pool, s, es ++ es')

/-- The time at which the first of a pool is due. -/
def firstDue? (pool : Pool σ) : Option Nat := (pool.map (·.due)).min?

/-- What a run in the foreground leaves. -/
structure Turn (σ α : Type) where
  trace : Trace σ α
  pool : Pool σ

/-- Runs a computation in the foreground while those of a pool get their turns; `fuel` bounds the
number of waits. -/
def runBeside : (fuel : Nat) → Timed σ α → Pool σ → Nat → σ → Turn σ α
  | 0, _, pool, t, s => ⟨⟨.endless, s, t, []⟩, pool⟩
  | fuel + 1, main, pool, t, s =>
    match advance main t s with
    -- nothing ends any more, but the pool goes on as long as someone in it waits
    | (.ended .hung, s, es) =>
      let (pool, s, es') := runDue t pool [] s
      match firstDue? pool with
      | none => ⟨⟨.hung, s, t, es ++ es'⟩, pool⟩
      | some due =>
        let turn := runBeside fuel hang pool (max due t) s
        { turn with trace := { turn.trace with events := es ++ es' ++ turn.trace.events } }
    | (.ended ending, s, es) => ⟨⟨ending, s, t, es⟩, pool⟩
    | (.waiting ms next, s, es) =>
      let (pool, s, es') := runDue t pool [] s
      let due := t + ms
      -- the wait is cut where the pool is due before its end
      let turn :=
        match firstDue? pool with
        | some other =>
          if other < due then runBeside fuel (wait (due - max other t) next) pool (max other t) s
          else runBeside fuel next pool due s
        | none => runBeside fuel next pool due s
      { turn with trace := { turn.trace with events := es ++ es' ++ turn.trace.events } }

end GatewayDirectory.Timed
