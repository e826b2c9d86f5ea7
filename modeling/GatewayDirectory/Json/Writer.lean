import GatewayDirectory.Json.Basic

/-!
# JSON as text

`compact` writes a value without blanks and `indented` over lines with two spaces a level. In both a
string holds every character as it is, except the quote, the backslash and the controls below the
space.
-/

namespace GatewayDirectory.Json

/-- The lower-case digit of a number below sixteen. -/
def hexDigit (n : Nat) : Char := Char.ofNat (if n < 10 then 48 + n else 87 + n)

/-- How a character stands in a string. -/
def escape (c : Char) : List Char :=
  match c with
  | '"' => ['\\', '"']
  | '\\' => ['\\', '\\']
  | '\x08' => ['\\', 'b']
  | '\x0c' => ['\\', 'f']
  | '\n' => ['\\', 'n']
  | '\r' => ['\\', 'r']
  | '\t' => ['\\', 't']
  | c =>
    if c.toNat < 0x20 then ['\\', 'u', '0', '0', hexDigit (c.toNat / 16), hexDigit (c.toNat % 16)]
    else [c]

/-- A string with its quotes. -/
def stringChars (s : String) : List Char := '"' :: s.toList.flatMap escape ++ ['"']

/-- The text of a number. -/
def Number.text : Number → String
  | .int i => toString i
  | .real s => s

mutual

/-- The characters of a value written without blanks. -/
def compactChars : Json → List Char
  | .null | .unreadable => ['n', 'u', 'l', 'l']
  | .bool true => ['t', 'r', 'u', 'e']
  | .bool false => ['f', 'a', 'l', 's', 'e']
  | .number n => n.text.toList
  | .string s => stringChars s
  | .array [] => ['[', ']']
  | .array (x :: xs) => '[' :: (compactChars x ++ compactItems xs)
  | .object [] => ['\x7b', '\x7d']
  | .object ((k, x) :: xs) =>
    '\x7b' :: (stringChars k ++ ':' :: (compactChars x ++ compactMembers xs))

/-- The items after the first, and the closing bracket. -/
def compactItems : List Json → List Char
  | [] => [']']
  | x :: xs => ',' :: (compactChars x ++ compactItems xs)

/-- The members after the first, and the closing brace. -/
def compactMembers : List (String × Json) → List Char
  | [] => ['\x7d']
  | (k, x) :: xs => ',' :: (stringChars k ++ ':' :: (compactChars x ++ compactMembers xs))

end

/-- The value without blanks. -/
def compact (v : Json) : String := String.ofList (compactChars v)

/-- A line break and the blanks of a level. -/
def newLine (level : Nat) : List Char := '\n' :: List.replicate (2 * level) ' '

mutual

/-- The characters of a value written over lines, from a level of indentation. -/
def indentedChars (level : Nat) : Json → List Char
  | .array (x :: xs) =>
    '[' :: (newLine (level + 1) ++ (indentedChars (level + 1) x ++ indentedItems level xs))
  | .object ((k, x) :: xs) =>
    '\x7b' :: (newLine (level + 1) ++ (stringChars k ++ ':' :: ' ' ::
      (indentedChars (level + 1) x ++ indentedMembers level xs)))
  | .array [] => ['[', ']']
  | .object [] => ['\x7b', '\x7d']
  | .null | .unreadable => ['n', 'u', 'l', 'l']
  | .bool true => ['t', 'r', 'u', 'e']
  | .bool false => ['f', 'a', 'l', 's', 'e']
  | .number n => n.text.toList
  | .string s => stringChars s

/-- The items after the first, each on a line, and the closing bracket. -/
def indentedItems (level : Nat) : List Json → List Char
  | [] => newLine level ++ [']']
  | x :: xs =>
    ',' :: (newLine (level + 1) ++ (indentedChars (level + 1) x ++ indentedItems level xs))

/-- The members after the first, each on a line, and the closing brace. -/
def indentedMembers (level : Nat) : List (String × Json) → List Char
  | [] => newLine level ++ ['\x7d']
  | (k, x) :: xs =>
    ',' :: (newLine (level + 1) ++ (stringChars k ++ ':' :: ' ' ::
      (indentedChars (level + 1) x ++ indentedMembers level xs)))

end

/-- The value over lines, two spaces a level. -/
def indented (v : Json) : String := String.ofList (indentedChars 0 v)

end GatewayDirectory.Json
