/-!
# Blanks

The characters that separate words: controls from tab to carriage return, the space, and the
separators of other scripts.
-/

namespace GatewayDirectory.Text

/-- Whether the character only separates. -/
def isBlank (c : Char) : Bool :=
  let n := c.toNat
  (9 ≤ n && n ≤ 13) || n == 0x20 || n == 0x85 || n == 0xA0 || n == 0x1680 ||
    (0x2000 ≤ n && n ≤ 0x200A) || n == 0x2028 || n == 0x2029 || n == 0x202F || n == 0x205F ||
    n == 0x3000

/-- The characters from the first that is not blank. -/
def skipBlanks (cs : List Char) : List Char := cs.dropWhile isBlank

/-- The text without its last characters that equal `c`. -/
def dropTrailing (c : Char) (s : String) : String :=
  String.ofList (s.toList.reverse.dropWhile (· == c)).reverse

/-- The pieces of a text between the separators `c`, one more than there are separators. -/
def splitAt (c : Char) (cs : List Char) : List (List Char) :=
  match cs with
  | [] => [[]]
  | x :: rest =>
    if x = c then [] :: splitAt c rest
    else
      match splitAt c rest with
      | [] => [[x]]
      | piece :: pieces => (x :: piece) :: pieces

/-- The value of a decimal digit. -/
def digitValue? (c : Char) : Option Nat :=
  if c.isDigit then some (c.toNat - 48) else none

/-- The number that a run of decimal digits spells. -/
def digitsValue (cs : List Char) : Nat := cs.foldl (fun n c => n * 10 + (c.toNat - 48)) 0

/-- The number that a non-empty run of decimal digits spells. -/
def natural? (cs : List Char) : Option Nat :=
  if cs.isEmpty then none else if cs.all Char.isDigit then some (digitsValue cs) else none

/-- A number with at least `width` digits, zeros in front. -/
def zeroPadded (width n : Nat) : String :=
  let digits := Nat.toDigits 10 n
  String.ofList (List.replicate (width - digits.length) '0' ++ digits)

end GatewayDirectory.Text
