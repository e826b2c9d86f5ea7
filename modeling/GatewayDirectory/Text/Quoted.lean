import GatewayDirectory.Text.Unseen

/-!
# Quoted text

Messages show a text between double quotes, so that blanks, breaks and characters without a glyph
can be seen. `quoted` spells the quote, the backslash and the common controls by a letter, every
other unseen character by its code point, and leaves the rest as it is.
-/

namespace GatewayDirectory.Text

/-- The digits of `n` in base sixteen, lower case. -/
def hexLower (n : Nat) : List Char := Nat.toDigits 16 n

/-- How a character is spelled between quotes. -/
def quotedChar (c : Char) : List Char :=
  match c with
  | '"' => ['\\', '"']
  | '\\' => ['\\', '\\']
  | '\n' => ['\\', 'n']
  | '\r' => ['\\', 'r']
  | '\t' => ['\\', 't']
  | '\x00' => ['\\', '0']
  | c => if isUnseen c then ['\\', 'u', '\x7b'] ++ hexLower c.toNat ++ ['\x7d'] else [c]

/-- The text between double quotes. -/
def quoted (s : String) : String :=
  String.ofList ('"' :: s.toList.flatMap quotedChar ++ ['"'])

end GatewayDirectory.Text
