import GatewayDirectory.Decoding.Basic
import GatewayDirectory.Text.Blank
import GatewayDirectory.Text.Decimal
import GatewayDirectory.Yaml.Node

/-!
# Decoding YAML

A record is a mapping; a text is any scalar, taken as it is written. Where a value may be left out,
a plain scalar that spells null stands for nothing. A plain empty scalar and an empty text act as an
empty list, an empty map or a record without fields. What a scalar is in a message follows its tag,
or else the spelling of a plain one.
-/

namespace GatewayDirectory.Yaml

open Decoding

/-- The spellings of null. -/
def isNull (s : String) : Bool := s = "null" || s = "Null" || s = "NULL" || s = "~"

/-- The spellings of truth values. -/
def bool? (s : String) : Option Bool :=
  if s = "true" ∨ s = "True" ∨ s = "TRUE" then some true
  else if s = "false" ∨ s = "False" ∨ s = "FALSE" then some false
  else none

/-- The natural number that a non-empty run of digits in a base spells. -/
def naturalIn? (base : Nat) (cs : List Char) : Option Nat :=
  if cs.isEmpty then none
  else cs.foldlM (fun n c => ((hexDigitValue? c).filter (· < base)).map (n * base + ·)) 0

/-- A zero followed by digits only, which is text and not a number. -/
def isPaddedDigits (cs : List Char) : Bool :=
  let cs := match cs with
    | '-' :: rest | '+' :: rest => rest
    | _ => cs
  1 < cs.length && cs.head? == some '0' && cs.all Char.isDigit

/-- The natural number that a scalar spells, in base ten, sixteen, eight or two. -/
def natural? (cs : List Char) : Option Nat :=
  let body := match cs with
    | '+' :: rest => rest
    | _ => cs
  let based := match body with
    | '0' :: 'x' :: rest => naturalIn? 16 rest
    | '0' :: 'o' :: rest => naturalIn? 8 rest
    | '0' :: 'b' :: rest => naturalIn? 2 rest
    | _ => none
  match based with
  | some n => some n
  | none => if isPaddedDigits cs then none else naturalIn? 10 body

/-- The natural number of 64 bits that a scalar spells. -/
def count? (s : String) : Option Nat := (natural? s.toList).filter (· < UInt64.size)

/-- The number below zero that a scalar spells. -/
def negative? (cs : List Char) : Option Int :=
  let magnitude := match cs with
    | '-' :: '0' :: 'x' :: rest => naturalIn? 16 rest
    | '-' :: '0' :: 'o' :: rest => naturalIn? 8 rest
    | '-' :: '0' :: 'b' :: rest => naturalIn? 2 rest
    | _ => none
  match magnitude with
  | some n => some (-n)
  | none =>
    if isPaddedDigits cs then none
    else
      match cs with
      | '-' :: rest => (naturalIn? 10 rest).map fun n => -(n : Int)
      | _ => none

/-- The integer of at most 128 bits that a scalar spells. -/
def integer? (s : String) : Option Found :=
  match natural? s.toList with
  | some n => if n < UInt64.size then some (.integer n)
    else if n < UInt64.size * UInt64.size then some (.wide n)
    else none
  | none =>
    match negative? s.toList with
    | some i => if -0x8000000000000000 ≤ i then some (.integer i)
      else if -0x80000000000000000000000000000000 ≤ i then some (.wide i)
      else none
    | none => none

/-- The decimal number that digits with a point and an exponent spell, as text; `none` if too large.
-/
def decimal? (cs : List Char) : Option String := do
  let (sign, cs) := match cs with
    | '-' :: rest => ("-", rest)
    | '+' :: rest => ("", rest)
    | _ => ("", cs)
  let whole := cs.takeWhile Char.isDigit
  let cs := cs.dropWhile Char.isDigit
  let (fraction, cs) := match cs with
    | '.' :: rest => (rest.takeWhile Char.isDigit, rest.dropWhile Char.isDigit)
    | _ => ([], cs)
  if whole.isEmpty && fraction.isEmpty then none
  let exponent ← match cs with
    | [] => some (0 : Int)
    | mark :: rest =>
      if mark ≠ 'e' ∧ mark ≠ 'E' then none
      else
        match rest with
        | '-' :: digits => (Text.natural? digits).map fun n => -(n : Int)
        | '+' :: digits => (Text.natural? digits).map Int.ofNat
        | digits => (Text.natural? digits).map Int.ofNat
  let significand := Text.digitsValue (whole ++ fraction)
  let power := exponent - fraction.length
  let digits := whole.length + fraction.length
  if significand = 0 ∨ power + digits < -400 then some (sign ++ "0.0")
  else if 400 < power + digits then none
  else
    let x :=
      if 0 ≤ power then Float.ofScientific (significand * Nat.pow 10 power.toNat) false 0
      else Float.ofScientific significand true (-power).toNat
    if x.isInf then none else some (sign ++ Text.Decimal.ofFloat x)

/-- The floating point number that a scalar spells, as text. -/
def float? (s : String) : Option String :=
  let unsigned := match s.toList with
    | '+' :: rest => rest
    | cs => cs
  let doubled :=
    s.toList.head? == some '+' && (unsigned.head? == some '+' || unsigned.head? == some '-')
  if doubled then none
  else
    let body := String.ofList unsigned
    if body = ".inf" ∨ body = ".Inf" ∨ body = ".INF" then some "inf"
    else if s = "-.inf" ∨ s = "-.Inf" ∨ s = "-.INF" then some "-inf"
    else if s = ".nan" ∨ s = ".NaN" ∨ s = ".NAN" then some "NaN"
    else decimal? unsigned

/-- What a plain scalar is by its spelling. -/
def plainFound (s : String) : Found :=
  if s = "" ∨ isNull s then .unit
  else
    match bool? s with
    | some b => .bool b
    | none =>
      match integer? s with
      | some found => found
      | none =>
        if isPaddedDigits s.toList then .string s
        else
          match float? s with
          | some shown => .float shown
          | none => .string s

/-- The tags of the kinds of scalars. -/
def tagSpace : String := "tag:yaml.org,2002:"

/-- Whether a tag has a meaning to its document only, so that it says nothing about a scalar. -/
def isLocal (tag : String) : Bool := tag.toList.head? == some '!'

/-- The error for a scalar that is not what was asked for. -/
def scalarMismatch (wanted : Wanted) (s : String) (style : Style) (tag : Option String) :
    Decoding.Error :=
  let invalid (found? : Option Found) (kind : Wanted) : Decoding.Error :=
    match found? with
    | some found => .invalidType found wanted
    | none => .invalidValue (.string s) kind
  match tag with
  | some t =>
    if t = tagSpace ++ "bool" then invalid ((bool? s).map .bool) .boolean
    else if t = tagSpace ++ "int" then invalid (integer? s) .integer
    else if t = tagSpace ++ "float" then invalid ((float? s).map .float) .float
    else if t = tagSpace ++ "null" then invalid (if isNull s then some .unit else none) .null
    else .invalidType (if isLocal t && style = .plain then plainFound s else .string s) wanted
  | none => .invalidType (if style = .plain then plainFound s else .string s) wanted

/-- A place in a document; no node where the text holds no document. -/
structure Place where
  anchored : Array Node
  node : Option Node

namespace Place

/-- Another place of the same document. -/
def move (p : Place) (n : Node) : Place := { p with node := some n }

/-- The node that stands there, aliases followed. -/
def target (p : Place) : Option Node :=
  match p.node with
  | some (.alias n) => p.anchored[n]?
  | n => n

/-- The error for a node of the wrong kind. -/
def mismatch (wanted : Wanted) : Option Node → Decoding.Error
  | some (.scalar s style tag) => scalarMismatch wanted s style tag
  | some (.sequence _) => .invalidType .sequence wanted
  | some (.mapping _) => .invalidType .map wanted
  | some (.alias _) | none => .malformed

/-- Whether nothing stands where a list, a map or a record is asked for. -/
def isBare : Option Node → Bool
  | none => true
  | some (.scalar s style _) => s = "" && style = .plain
  | _ => false

/-- The text of a node. -/
def text (wanted : Wanted) (p : Place) : Except Decoding.Error String :=
  match p.target with
  | some (.scalar s _ _) => .ok s
  | n => .error (mismatch wanted n)

/-- The entries of a mapping, its keys taken as `wanted` says. -/
def entries (wanted key : Wanted) (p : Place) :
    Except Decoding.Error (List (Except Decoding.Error String × Place)) :=
  match p.target with
  | some (.mapping pairs) => .ok (pairs.map fun (k, v) => ((p.move k).text key, p.move v))
  | n => if isBare n then .ok [] else .error (mismatch wanted n)

end Place

instance : Source Place where
  text := Place.text
  count p :=
    match p.target with
    | some (.scalar s style tag) =>
      let numeric := style = .plain || (style = .literal && tag == some (tagSpace ++ "int"))
      match if numeric then count? s else none with
      | some n => .ok n
      | none => .error (scalarMismatch .count s style tag)
    | n => .error (Place.mismatch .count n)
  isNone p :=
    match p.target with
    | none => .ok true
    | some (.scalar s style tag) =>
      if style ≠ .plain then .ok false
      else
        match tag with
        | some t =>
          if t = tagSpace ++ "null" then
            if isNull s then .ok true else .error (.invalidValue (.string s) .null)
          else .ok false
        | none => .ok (s = "" || isNull s)
    | _ => .ok false
  items p :=
    match p.target with
    | some (.sequence xs) => .ok (xs.map p.move)
    | n => if Place.isBare n then .ok [] else .error (Place.mismatch .sequence n)
  entries p := p.entries .map .string
  fields name _ p := (p.entries (.record name) .fieldName).map fun ms => ⟨ms, none, false⟩

/-- What a YAML text denotes that should hold one document at most. What follows the first is looked
at last. -/
def decode {α : Type} (read : Place → Except Decoding.Error α) (text : String) :
    Except Decoding.Error α :=
  match Stream.read text with
  | some .empty => read ⟨#[], none⟩
  | some (.document d isOnly) =>
    match read ⟨d.anchored, some d.root⟩ with
    | .ok a => if isOnly then .ok a else .error .malformed
    | .error e => .error e
  | none => .error .malformed

/-- What the bytes of a YAML text denote. -/
def decodeBytes {α : Type} (read : Place → Except Decoding.Error α) (bytes : ByteArray) :
    Except Decoding.Error α :=
  match String.fromUTF8? bytes with
  | some text => decode read text
  | none => .error .malformed

end GatewayDirectory.Yaml
