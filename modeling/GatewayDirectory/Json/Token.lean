import GatewayDirectory.Json.Basic

/-!
# JSON tokens

The words of JSON text. `Token.scan` reads characters one by one and holds what it is inside of, so
it recurses on the text. A character that no text could hold (a byte that is no UTF-8) may stand in
a string, which then denotes nothing.
-/

namespace GatewayDirectory.Json

/-- A word of JSON text. -/
inductive Token where
  | openArray
  | closeArray
  | openObject
  | closeObject
  | colon
  | comma
  | null
  | bool (value : Bool)
  | number (literal : Literal)
  /-- A string, `none` if its escapes or bytes denote no text. -/
  | string (value : Option String)

/-- The value of a digit of base sixteen. -/
def hexValue? (c : Option Char) : Option Nat :=
  match c with
  | none => none
  | some c =>
    if c.isDigit then some (c.toNat - 48)
    else if 'a' ≤ c ∧ c ≤ 'f' then some (c.toNat - 87)
    else if 'A' ≤ c ∧ c ≤ 'F' then some (c.toNat - 55)
    else none

/-- The number that four digits of base sixteen spell. -/
def hexUnit? (a b c d : Option Char) : Option Nat := do
  return ((← hexValue? a) * 16 + (← hexValue? b)) * 256 + ((← hexValue? c) * 16 + (← hexValue? d))

/-- The characters of a string read so far, latest first. -/
structure Held where
  chars : List Char
  /-- The first half of a surrogate pair that waits for the second. -/
  half : Option Nat
  /-- Whether all that was read denotes characters. -/
  readable : Bool

/-- Nothing read yet. -/
def Held.start : Held := ⟨[], none, true⟩

/-- One more character; a half that still waits will never be completed. -/
def Held.push (h : Held) (c : Char) : Held := ⟨c :: h.chars, none, h.readable && h.half.isNone⟩

/-- One more character that cannot be read. -/
def Held.spoil (h : Held) : Held := ⟨h.chars, none, false⟩

/-- One more unit spelled by an escape: a character, or half of a surrogate pair. -/
def Held.pushUnit (h : Held) (unit : Nat) : Held :=
  match h.half with
  | some high =>
    if 0xDC00 ≤ unit ∧ unit ≤ 0xDFFF then
      let c := Char.ofNat (0x10000 + (high - 0xD800) * 0x400 + (unit - 0xDC00))
      ⟨c :: h.chars, none, h.readable⟩
    else h.spoil
  | none =>
    if 0xD800 ≤ unit ∧ unit ≤ 0xDBFF then ⟨h.chars, some unit, h.readable⟩
    else if 0xDC00 ≤ unit ∧ unit ≤ 0xDFFF then h.spoil
    else ⟨Char.ofNat unit :: h.chars, none, h.readable⟩

/-- What a finished string denotes. -/
def Held.text? (h : Held) : Option String :=
  if h.readable && h.half.isNone then some (String.ofList h.chars.reverse) else none

/-- What the scanner is inside of. -/
inductive Inside where
  | blank
  | string (held : Held)
  /-- In a number, latest character first. -/
  | number (chars : List Char)

/-- The blanks that may stand between words. -/
def isSpace (c : Char) : Bool := c = ' ' || c = '\n' || c = '\t' || c = '\r'

/-- The characters of number literals. -/
def isNumberChar (c : Char) : Bool :=
  c.isDigit || c = '.' || c = '-' || c = '+' || c = 'e' || c = 'E'

/-- A word of one character. -/
def Token.punctuation? (c : Char) : Option Token :=
  match c with
  | '[' => some .openArray
  | ']' => some .closeArray
  | '\x7b' => some .openObject
  | '\x7d' => some .closeObject
  | ':' => some .colon
  | ',' => some .comma
  | _ => none

/-- The words of a text, put in front of `done` in reverse; `none` if something is no word. -/
def Token.scanFrom : Inside → List (Option Char) → List Token → Option (List Token)
  | .blank, [], found => some found.reverse
  | .string _, [], _ => none
  | .number chars, [], found => do
    let l ← Literal.read? chars.reverse
    some (Token.number l :: found).reverse
  | .blank, none :: _, _ => none
  | .blank, some 't' :: some 'r' :: some 'u' :: some 'e' :: rest, found =>
    scanFrom .blank rest (.bool true :: found)
  | .blank, some 'f' :: some 'a' :: some 'l' :: some 's' :: some 'e' :: rest, found =>
    scanFrom .blank rest (.bool false :: found)
  | .blank, some 'n' :: some 'u' :: some 'l' :: some 'l' :: rest, found =>
    scanFrom .blank rest (.null :: found)
  | .blank, some c :: rest, found =>
    if isSpace c then scanFrom .blank rest found
    else if c = '"' then scanFrom (.string .start) rest found
    else if c = '-' || c.isDigit then scanFrom (.number [c]) rest found
    else
      match punctuation? c with
      | some t => scanFrom .blank rest (t :: found)
      | none => none
  | .number chars, c :: rest, found =>
    let numeric := match c with
      | some c => isNumberChar c
      | none => false
    if numeric then scanFrom (.number (c.getD ' ' :: chars)) rest found
    else
      -- the number ends here, and what ends it is a blank or a word of its own
      match Literal.read? chars.reverse with
      | none => none
      | some l =>
        match c with
        | none => none
        | some c =>
          if isSpace c then scanFrom .blank rest (.number l :: found)
          else
            match punctuation? c with
            | some t => scanFrom .blank rest (t :: .number l :: found)
            | none => none
  | .string held, some '"' :: rest, found => scanFrom .blank rest (.string held.text? :: found)
  | .string held, some '\\' :: some 'u' :: a :: b :: c :: d :: rest, found =>
    match hexUnit? a b c d with
    | some unit => scanFrom (.string (held.pushUnit unit)) rest found
    | none => none
  | .string held, some '\\' :: some c :: rest, found =>
    match c with
    | '"' => scanFrom (.string (held.push '"')) rest found
    | '\\' => scanFrom (.string (held.push '\\')) rest found
    | '/' => scanFrom (.string (held.push '/')) rest found
    | 'b' => scanFrom (.string (held.push '\x08')) rest found
    | 'f' => scanFrom (.string (held.push '\x0c')) rest found
    | 'n' => scanFrom (.string (held.push '\n')) rest found
    | 'r' => scanFrom (.string (held.push '\r')) rest found
    | 't' => scanFrom (.string (held.push '\t')) rest found
    | _ => none
  | .string held, none :: rest, found => scanFrom (.string held.spoil) rest found
  | .string held, some c :: rest, found =>
    if c = '\\' || c.toNat < 0x20 then none
    else scanFrom (.string (held.push c)) rest found

/-- The words of a text. -/
def Token.scan (cs : List (Option Char)) : Option (List Token) := scanFrom .blank cs []

end GatewayDirectory.Json
