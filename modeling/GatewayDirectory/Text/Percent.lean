/-!
# Percent encoding

A text becomes a run of unreserved ASCII characters: every byte of its UTF-8 form other than
letters, digits and `-_.~` is written as a percent sign and two upper-case digits of base sixteen.
`decode` undoes that on a list of bytes and leaves a percent sign that no two digits follow as it
is.
-/

namespace GatewayDirectory.Text.Percent

/-- Letters, digits and `-_.~` stand for themselves. -/
def isUnreserved (b : UInt8) : Bool :=
  let c := Char.ofNat b.toNat
  c.isAlphanum || c == '-' || c == '_' || c == '.' || c == '~'

/-- The upper-case digit of a number below sixteen. -/
def hexDigit (n : Nat) : Char := Char.ofNat (if n < 10 then 48 + n else 55 + n)

/-- One byte as it stands in an encoded text. -/
def encodeByte (b : UInt8) : List Char :=
  if isUnreserved b then [Char.ofNat b.toNat]
  else ['%', hexDigit (b.toNat / 16), hexDigit (b.toNat % 16)]

/-- The text with every reserved byte spelled by two digits. -/
def encode (s : String) : String :=
  String.ofList (s.toUTF8.toList.flatMap encodeByte)

/-- The value of a digit of base sixteen, in either case. -/
def hexValue? (b : UInt8) : Option UInt8 :=
  if 48 ≤ b ∧ b ≤ 57 then some (b - 48)
  else if 65 ≤ b ∧ b ≤ 70 then some (b - 55)
  else if 97 ≤ b ∧ b ≤ 102 then some (b - 87)
  else none

/-- The bytes that an encoded run of bytes stands for. -/
def decode : List UInt8 → List UInt8
  | 37 :: a :: b :: rest =>
    match hexValue? a, hexValue? b with
    | some x, some y => (x * 16 + y) :: decode rest
    | _, _ => 37 :: decode (a :: b :: rest)
  | b :: rest => b :: decode rest
  | [] => []

end GatewayDirectory.Text.Percent
