import GatewayDirectory.Decoding.Basic
import GatewayDirectory.Json.Reader

/-!
# Decoding JSON

A record is an object, or an array of its fields in order. What the reader could not make sense of
is malformed for everyone who asks for it.
-/

namespace GatewayDirectory.Json

open Decoding

/-- What a value is, as a message says it; `none` for a value that denotes nothing. -/
def found? : Json → Option Found
  | .null => some .null
  | .bool b => some (.bool b)
  | .number (.int i) => some (.integer i)
  | .number (.real s) => some (.float s)
  | .string s => some (.string s)
  | .array _ => some .sequence
  | .object _ => some .map
  | .unreadable => none

/-- The error for a value of the wrong kind. -/
def mismatch (wanted : Wanted) (v : Json) : Decoding.Error :=
  match v.found? with
  | some found => .invalidType found wanted
  | none => .malformed

instance : Source Json where
  text wanted
    | .string s => .ok s
    | v => .error (v.mismatch wanted)
  count
    | .number (.int i) => if 0 ≤ i then .ok i.toNat else .error (.invalidValue (.integer i) .count)
    | v => .error (v.mismatch .count)
  isNone
    | .null => .ok true
    | _ => .ok false
  items
    | .array xs => .ok xs
    | v => .error (v.mismatch .sequence)
  entries
    | .object ms => .ok (ms.map fun (k, v) => (.ok k, v))
    | v => .error (v.mismatch .map)
  fields name known
    | .object ms => .ok ⟨ms.map fun (k, v) => (.ok k, v), none, false⟩
    | .array xs =>
      .ok ⟨(known.zip xs).map fun (k, v) => (.ok k, v), some xs.length, known.length < xs.length⟩
    | v => .error (v.mismatch (.record name))

/-- What the bytes of a JSON text denote. -/
def decode {α : Type} (read : Json → Except Decoding.Error α) (bytes : ByteArray) :
    Except Decoding.Error α :=
  match Json.read bytes with
  | some v => read v
  | none => .error .malformed

end GatewayDirectory.Json
