import GatewayDirectory.Json.Token
import GatewayDirectory.Text.Utf8

/-!
# Reading JSON

`Json.ofTokens` builds a value word by word. It holds the arrays and objects that are still open, so
it recurses on the words and no depth of nesting is too much for it. `Json.read` reads the bytes of
a text that holds one value and blanks only.
-/

namespace GatewayDirectory.Json

/-- An array or object that is still open, latest part first. -/
inductive Frame where
  | array (items : List Json)
  /-- Members, and the name whose value is being read; unreadable once a name was. -/
  | object (members : List (String × Json)) (readable : Bool) (name : Option String)

/-- What may come next. -/
inductive Expected where
  | value
  /-- The first item of an array or its end. -/
  | firstItem
  /-- The first name of an object or its end. -/
  | firstName
  | name
  | colon
  /-- A comma or the end of what is open; the end of the text when nothing is. -/
  | next

/-- What has been read: the value finished last, if nothing is open, and what is open. -/
structure Progress where
  expected : Expected
  opened : List Frame
  result : Json

/-- A value is complete: it joins what is open. -/
def Progress.complete (opened : List Frame) (v : Json) : Progress :=
  match opened with
  | [] => ⟨.next, [], v⟩
  | .array items :: rest => ⟨.next, .array (v :: items) :: rest, .null⟩
  | .object members readable name :: rest =>
    match name with
    | some n => ⟨.next, .object ((n, v) :: members) readable none :: rest, .null⟩
    | none => ⟨.next, .object members false none :: rest, .null⟩

/-- The value of a finished object, which cannot be used if a name could not be read. -/
def objectOf (members : List (String × Json)) (readable : Bool) : Json :=
  if readable then .object members.reverse else .unreadable

/-- The progress after a value starts. -/
def Progress.start (opened : List Frame) (t : Token) : Option Progress :=
  match t with
  | .openArray => some ⟨.firstItem, .array [] :: opened, .null⟩
  | .openObject => some ⟨.firstName, .object [] true none :: opened, .null⟩
  | .null => some (complete opened .null)
  | .bool b => some (complete opened (.bool b))
  | .number l => some (complete opened l.value)
  | .string (some s) => some (complete opened (.string s))
  | .string none => some (complete opened .unreadable)
  | _ => none

/-- The progress after one more word, `none` if it may not stand there. -/
def Progress.step (p : Progress) (t : Token) : Option Progress :=
  match p.expected with
  | .value => start p.opened t
  | .firstItem =>
    match t, p.opened with
    | .closeArray, .array items :: rest => some (complete rest (.array items.reverse))
    | t, opened => start opened t
  | .firstName =>
    match t, p.opened with
    | .closeObject, .object members readable _ :: rest =>
      some (complete rest (objectOf members readable))
    | .string s, .object members readable _ :: rest =>
      some ⟨.colon, .object members (readable && s.isSome) s :: rest, .null⟩
    | _, _ => none
  | .name =>
    match t, p.opened with
    | .string s, .object members readable _ :: rest =>
      some ⟨.colon, .object members (readable && s.isSome) s :: rest, .null⟩
    | _, _ => none
  | .colon =>
    match t with
    | .colon => some ⟨.value, p.opened, .null⟩
    | _ => none
  | .next =>
    match t, p.opened with
    | .comma, .array items :: rest => some ⟨.value, .array items :: rest, .null⟩
    | .comma, .object members readable name :: rest =>
      some ⟨.name, .object members readable name :: rest, .null⟩
    | .closeArray, .array items :: rest => some (complete rest (.array items.reverse))
    | .closeObject, .object members readable _ :: rest =>
      some (complete rest (objectOf members readable))
    | _, _ => none

/-- The progress after more words. -/
def Progress.steps (p : Progress) : List Token → Option Progress
  | [] => some p
  | t :: ts =>
    match p.step t with
    | some q => q.steps ts
    | none => none

/-- The value that words spell, if they spell exactly one. -/
def ofTokens (ts : List Token) : Option Json :=
  match Progress.steps ⟨.value, [], .null⟩ ts with
  | some ⟨.next, [], v⟩ => some v
  | _ => none

/-- The value that a text spells, characters that cannot be read standing as `none`. -/
def ofPieces (cs : List (Option Char)) : Option Json := (Token.scan cs).bind ofTokens

/-- The value that the bytes of a text spell. -/
def read (bytes : ByteArray) : Option Json := ofPieces (Text.pieces bytes)

end GatewayDirectory.Json
