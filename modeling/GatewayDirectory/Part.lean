/-!
# Parts of a state

A `Part σ α` says where an `α` sits in a larger state `σ`: how it is read, and how it is replaced
while all else stays.
-/

namespace GatewayDirectory

/-- A place in a state. -/
structure Part (σ α : Type) where
  get : σ → α
  set : α → σ → σ

namespace Part

variable {σ α β : Type}

/-- The whole state. -/
def whole : Part α α := ⟨id, fun a _ => a⟩

/-- A part of a part. -/
def within (outer : Part σ α) (inner : Part α β) : Part σ β :=
  ⟨fun s => inner.get (outer.get s), fun b s => outer.set (inner.set b (outer.get s)) s⟩

/-- Answers from the part and changes it. -/
def run (p : Part σ α) (f : α → β × α) (s : σ) : β × σ :=
  let (b, a) := f (p.get s)
  (b, p.set a s)

end Part

end GatewayDirectory
