import Mathlib.Data.List.Induction

/-!
# Moves and the states between them

A system that makes one move after the other is a fold. `stateAfter step s moves n` is the state
after the first `n` moves, so that a run can be spoken of at each of its points; one more move
leaves all of them as they were.
-/

namespace GatewayDirectory

variable {σ μ : Type}

/-- What the first `n` of some moves leave. -/
def stateAfter (step : σ → μ → σ) (s : σ) (moves : List μ) (n : Nat) : σ :=
  (moves.take n).foldl step s

section StateAfter

variable {step : σ → μ → σ} {s : σ} {moves : List μ} {m : μ} {n : Nat}

/-- After all moves the system is where the run leaves it. -/
theorem stateAfter_length : stateAfter step s moves moves.length = moves.foldl step s := by
  rw [stateAfter, List.take_length]

/-- A further move does not touch the states before it. -/
theorem stateAfter_append (h : n ≤ moves.length) :
    stateAfter step s (moves ++ [m]) n = stateAfter step s moves n := by
  rw [stateAfter, List.take_append_of_le_length h, ← stateAfter]

/-- The state after a move is what the move makes of the state before it. -/
theorem stateAfter_succ (h : moves[n]? = some m) :
    stateAfter step s moves (n + 1) = step (stateAfter step s moves n) m := by
  rw [stateAfter, List.take_add_one, h, List.foldl_append]
  rfl

/-- A move that is there has its place in the list. -/
theorem lt_length_of_getElem? (h : moves[n]? = some m) : n < moves.length :=
  (List.getElem?_eq_some_iff.1 h).1

/-- A further move leaves those before it in their places. -/
theorem getElem?_append_singleton {m' : μ} (h : moves[n]? = some m') :
    (moves ++ [m])[n]? = some m' := by
  rw [List.getElem?_append_left (lt_length_of_getElem? h), h]

end StateAfter

end GatewayDirectory
