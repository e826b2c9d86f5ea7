/-!
# The shortest decimal of a binary fraction

A double is shown with the fewest digits that read back as the same double, and of those the
nearest. A finite positive double is `m * 2 ^ q`; the reals that round to it form an interval whose
ends belong to it when `m` is even. The search walks the decimal grids from coarse to fine and stops
at the first that has a point in the interval, in exact arithmetic.
-/

namespace GatewayDirectory.Text.Decimal

/-- A positive rational number, as a quotient. -/
structure Quotient where
  numerator : Nat
  denominator : Nat

/-- `n * base ^ exponent`. -/
def scaled (n base : Nat) (exponent : Int) : Quotient :=
  if 0 ≤ exponent then ⟨n * Nat.pow base exponent.toNat, 1⟩
  else ⟨n, Nat.pow base (-exponent).toNat⟩

/-- Whether one quotient is less than another. -/
def Quotient.lt (x y : Quotient) : Bool := x.numerator * y.denominator < y.numerator * x.denominator

/-- Whether two quotients are the same number. -/
def Quotient.same (x y : Quotient) : Bool :=
  x.numerator * y.denominator == y.numerator * x.denominator

/-- A double's significand and its power of two. -/
structure Binary where
  significand : Nat
  exponent : Int

/-- The significand and exponent of a positive double's bits. -/
def Binary.ofBits (bits : UInt64) : Binary :=
  let fraction := (bits &&& 0x000FFFFFFFFFFFFF).toNat
  let biased := ((bits >>> 52) &&& 0x7FF).toNat
  if biased = 0 then ⟨fraction, -1074⟩ else ⟨fraction + 0x10000000000000, (biased : Int) - 1075⟩

/-- Whether a quotient rounds to the double. -/
def Binary.holds (b : Binary) (x : Quotient) : Bool :=
  let low :=
    if b.significand = 0x10000000000000 ∧ b.exponent ≠ -1074 then
      scaled (4 * b.significand - 1) 2 (b.exponent - 2)
    else scaled (4 * b.significand - 2) 2 (b.exponent - 2)
  let high := scaled (4 * b.significand + 2) 2 (b.exponent - 2)
  let even := b.significand % 2 == 0
  (low.lt x && x.lt high) || (even && (low.same x || x.same high))

/-- The point of the grid of step `10 ^ power` that reads back as the double, the nearer of two. -/
def Binary.onGrid (b : Binary) (power : Int) : Option Nat :=
  let value := scaled b.significand 2 b.exponent
  let step := scaled 1 10 power
  let below := value.numerator * step.denominator / (value.denominator * step.numerator)
  let point (n : Nat) := scaled n 10 power
  let lower := below ≠ 0 ∧ b.holds (point below)
  let upper := b.holds (point (below + 1))
  if lower then
    if upper then
      -- twice the value against the sum of the two points
      let sum := scaled (2 * below + 1) 10 power
      let twice : Quotient := ⟨2 * value.numerator, value.denominator⟩
      if sum.lt twice then some (below + 1)
      else if twice.lt sum then some below
      else some (if below % 2 = 0 then below else below + 1)
    else some below
  else if upper then some (below + 1)
  else none

/-- The first grid with a point for the double, from `power` down. -/
def Binary.search (b : Binary) : (fuel : Nat) → (power : Int) → Option (Nat × Int)
  | 0, _ => none
  | fuel + 1, power =>
    match b.onGrid power with
    | some n => some (n, power)
    | none => b.search fuel (power - 1)

/-- The shortest decimal `n * 10 ^ power` of a positive double. -/
def Binary.shortest (b : Binary) : Nat × Int := (b.search 660 310).getD (0, 0)

/-- A decimal written with a point and without an exponent. -/
def positional (n : Nat) (power : Int) : String :=
  let digits := Nat.toDigits 10 n
  if 0 ≤ power then String.ofList (digits ++ List.replicate power.toNat '0' ++ ['.', '0'])
  else
    let places := (-power).toNat
    let padded := List.replicate (places + 1 - digits.length) '0' ++ digits
    let cut := padded.length - places
    String.ofList (padded.take cut ++ '.' :: padded.drop cut)

/-- A double as text: shortest digits, positional, at least one digit after the point. -/
def ofFloat (x : Float) : String :=
  if x.isNaN then "NaN"
  else
    let sign := if x.toBits >>> 63 == 1 then "-" else ""
    let size := x.toBits &&& 0x7FFFFFFFFFFFFFFF
    if x.isInf then sign ++ "inf"
    else if size == 0 then sign ++ "0.0"
    else
      let (n, power) := (Binary.ofBits size).shortest
      sign ++ positional n power

end GatewayDirectory.Text.Decimal
