/-!
# Bytes read as text

Bytes that come from outside need not be UTF-8. `pieces` reads them as characters with a gap for
every longest run that starts a character and does not end it; `lossy` shows a gap as U+FFFD. Of
bytes that are the UTF-8 form of a text, the pieces are the characters of that text.
-/

namespace GatewayDirectory.Text

/-- A continuation byte. -/
def isTail (b : UInt8) : Bool := 0x80 ≤ b && b ≤ 0xBF

/-- Whether `second` may follow `lead` in the UTF-8 form of a character. -/
def secondFits (lead second : UInt8) : Bool :=
  if lead == 0xE0 then 0xA0 ≤ second && second ≤ 0xBF
  else if lead == 0xED then 0x80 ≤ second && second ≤ 0x9F
  else if lead == 0xF0 then 0x90 ≤ second && second ≤ 0xBF
  else if lead == 0xF4 then 0x80 ≤ second && second ≤ 0x8F
  else isTail second

/-- The number that the low bits of a run of bytes spell. -/
def joinBits (lead : Nat) (tail : List UInt8) : Nat :=
  tail.foldl (fun n b => n * 64 + (b.toNat - 0x80)) lead

/-- The characters of a run of bytes, with `none` for each maximal run that is part of none. -/
def scanPieces : List UInt8 → List (Option Char)
  | [] => []
  | a :: rest =>
    if a < 0x80 then some (Char.ofNat a.toNat) :: scanPieces rest
    else if 0xC2 ≤ a ∧ a ≤ 0xDF then
      match rest with
      | b :: rest' =>
        if isTail b then some (Char.ofNat (joinBits (a.toNat - 0xC0) [b])) :: scanPieces rest'
        else none :: scanPieces (b :: rest')
      | [] => [none]
    else if 0xE0 ≤ a ∧ a ≤ 0xEF then
      match rest with
      | b :: c :: rest' =>
        if secondFits a b then
          if isTail c then some (Char.ofNat (joinBits (a.toNat - 0xE0) [b, c])) :: scanPieces rest'
          else none :: scanPieces (c :: rest')
        else none :: scanPieces (b :: c :: rest')
      | [b] => if secondFits a b then [none] else none :: scanPieces [b]
      | [] => [none]
    else if 0xF0 ≤ a ∧ a ≤ 0xF4 then
      match rest with
      | b :: c :: d :: rest' =>
        if secondFits a b then
          if isTail c then
            if isTail d then
              some (Char.ofNat (joinBits (a.toNat - 0xF0) [b, c, d])) :: scanPieces rest'
            else none :: scanPieces (d :: rest')
          else none :: scanPieces (c :: d :: rest')
        else none :: scanPieces (b :: c :: d :: rest')
      | [b, c] =>
        if secondFits a b then
          if isTail c then [none] else none :: scanPieces [c]
        else none :: scanPieces [b, c]
      | [b] => if secondFits a b then [none] else none :: scanPieces [b]
      | [] => [none]
    else none :: scanPieces rest

/-- The characters of a text, none of them missing. -/
def piecesOf (s : String) : List (Option Char) := s.toList.map some

/-- What bytes read as: characters, with `none` where no character can be read. -/
def pieces (bytes : ByteArray) : List (Option Char) :=
  match String.fromUTF8? bytes with
  | some s => piecesOf s
  | none => scanPieces bytes.toList

/-- The bytes as text, with U+FFFD where no character can be read. -/
def lossy (bytes : ByteArray) : String :=
  match String.fromUTF8? bytes with
  | some s => s
  | none => String.ofList ((scanPieces bytes.toList).map (·.getD '\uFFFD'))

/-- Bytes that spell a text are read as that text. -/
@[simp] theorem fromUTF8?_toUTF8 (s : String) : String.fromUTF8? s.toUTF8 = some s := by
  have h : s.toUTF8.IsValidUTF8 := s.isValidUTF8
  simp only [String.fromUTF8?, h, ↓reduceDIte]
  rfl

/-- Bytes that spell a text have the characters of that text as pieces. -/
@[simp] theorem pieces_toUTF8 (s : String) : pieces s.toUTF8 = piecesOf s := by
  simp only [pieces, fromUTF8?_toUTF8]

end GatewayDirectory.Text
