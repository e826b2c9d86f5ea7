import GatewayDirectory.Text.Decimal
import GatewayDirectory.Text.Blank

/-!
# JSON values

The values that JSON text denotes. An object keeps its members in the order of the text, repeated
names included, because both can be seen in what a reader reports. A value that is well formed but
denotes nothing that can be used (a number out of range, a string with half a surrogate pair) is
kept as `unreadable`: it matters only to those who ask for it.
-/

namespace GatewayDirectory

/-- A JSON number: an integer of 64 bits, or the decimal text of a double. -/
inductive Json.Number where
  | int (value : Int)
  | real (shown : String)
deriving DecidableEq, Inhabited

/-- A value of JSON. -/
inductive Json where
  | null
  | bool (value : Bool)
  | number (value : Json.Number)
  | string (value : String)
  | array (items : List Json)
  | object (members : List (String × Json))
  | unreadable
deriving Inhabited

namespace Json

open Text

/-- A number literal taken apart. -/
structure Literal where
  negative : Bool
  whole : List Char
  /-- Digits after the point, if there is one. -/
  fraction : Option (List Char)
  /-- Sign and digits of the exponent, if there is one. -/
  exponent : Option (Bool × List Char)

/-- Takes a number literal apart; no leading zero, and digits after a point and an exponent mark. -/
def Literal.read? (cs : List Char) : Option Literal := do
  let (negative, cs) := match cs with
    | '-' :: rest => (true, rest)
    | _ => (false, cs)
  let whole := cs.takeWhile Char.isDigit
  let cs := cs.dropWhile Char.isDigit
  if whole.isEmpty || (whole.head? == some '0' && whole.length != 1) then none
  let (fraction, cs) ← match cs with
    | '.' :: rest =>
      let digits := rest.takeWhile Char.isDigit
      if digits.isEmpty then none else some (some digits, rest.dropWhile Char.isDigit)
    | _ => some (none, cs)
  match cs with
  | [] => some ⟨negative, whole, fraction, none⟩
  | mark :: rest =>
    if mark ≠ 'e' ∧ mark ≠ 'E' then none
    let (down, digits) := match rest with
      | '-' :: rest => (true, rest)
      | '+' :: rest => (false, rest)
      | _ => (false, rest)
    if digits.isEmpty || !digits.all Char.isDigit then none
    some ⟨negative, whole, fraction, some (down, digits)⟩

/-- Digits taken into a significand of 64 bits until it would overflow, with the number left out. -/
def takeSignificand (significand : Nat) : List Char → Nat × Nat
  | [] => (significand, 0)
  | d :: rest =>
    let next := significand * 10 + (d.toNat - 48)
    if next < UInt64.size then takeSignificand next rest else (significand, rest.length + 1)

/-- `significand * 10 ^ power` as a double, scaled in steps of at most `10 ^ 308`; `none` if too
large. -/
def scaleFloat? (significand : Nat) (power : Int) : Option Float :=
  let rec go : Nat → Float → Int → Option Float
    | 0, x, _ => some x
    | fuel + 1, x, p =>
      if p.natAbs ≤ 308 then
        if 0 ≤ p then
          let y := x * Float.ofScientific 1 false p.natAbs
          if y.isInf then none else some y
        else some (x / Float.ofScientific 1 false p.natAbs)
      else if x == 0.0 then some x
      else if 0 ≤ p then none
      else go fuel (x / Float.ofScientific 1 false 308) (p + 308)
  go (power.natAbs / 308 + 2) (Float.ofNat significand) power

/-- The double that a literal with a point, an exponent or too many digits denotes. -/
def Literal.float? (l : Literal) : Option Float := do
  let (significand, dropped) := takeSignificand 0 l.whole
  let (significand, power) := match l.fraction with
    | none => (significand, (dropped : Int))
    | some digits =>
      let (longer, left) := takeSignificand significand digits
      (longer, (dropped : Int) - (digits.length - left : Nat))
  let signed (x : Float) : Float := if l.negative then -x else x
  match l.exponent with
  | none => (scaleFloat? significand power).map signed
  | some (down, digits) =>
    let size := digitsValue digits
    if 0x80000000 ≤ size then
      if significand ≠ 0 ∧ !down then none else some (signed 0.0)
    else (scaleFloat? significand (if down then power - size else power + size)).map signed

/-- The value of a number literal, unreadable when it is too large for a double. -/
def Literal.value (l : Literal) : Json :=
  let asFloat := match l.float? with
    | some x => Json.number (.real (Decimal.ofFloat x))
    | none => .unreadable
  if l.fraction.isSome || l.exponent.isSome then asFloat
  else
    let n := digitsValue l.whole
    if l.negative then
      if 0 < n ∧ n ≤ 0x8000000000000000 then .number (.int (-n)) else asFloat
    else if n < UInt64.size then .number (.int n) else asFloat

end Json

end GatewayDirectory
