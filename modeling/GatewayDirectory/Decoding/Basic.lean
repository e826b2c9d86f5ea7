import GatewayDirectory.Text.Quoted

/-!
# Decoding

How a record is read from a tree, whatever the format of the tree. `Source` is what a format offers:
reading a node as text, as a count, as a list, as a map or as the fields of a record. `Fields.check`
goes through the given fields in the order of the document, so that the first fault there is the one
reported; only then are fields that were not given looked at, in the order of the record.
-/

namespace GatewayDirectory

/-- What stands at a place where something else was asked for. -/
inductive Decoding.Found where
  | null
  | unit
  | bool (value : Bool)
  | integer (value : Int)
  /-- An integer of more than 64 bits, signed or not. -/
  | wide (value : Int)
  | float (shown : String)
  | string (value : String)
  | sequence
  | map
deriving DecidableEq, Inhabited

/-- What was asked for. -/
inductive Decoding.Wanted where
  | string
  | sequence
  | map
  | count
  | record (name : String)
  | instant
  | fieldName
  | null
  | boolean
  | integer
  | float
deriving DecidableEq, Inhabited

/-- Why a document is not what was asked for. -/
inductive Decoding.Error where
  /-- The text breaks the rules of its format, or a part of it denotes nothing. -/
  | malformed
  | missingField (name : String)
  | duplicateField (name : String)
  | invalidType (found : Decoding.Found) (wanted : Decoding.Wanted)
  | invalidValue (found : Decoding.Found) (wanted : Decoding.Wanted)
  | invalidLength (given : Nat) (record : String) (fields : Nat)
deriving DecidableEq, Inhabited

namespace Decoding

/-- A phrase for what stands there. -/
def Found.text : Found → String
  | .null => "null"
  | .unit => "unit value"
  | .bool b => "boolean \x60" ++ (if b then "true" else "false") ++ "\x60"
  | .integer i => "integer \x60" ++ toString i ++ "\x60"
  | .wide i => "integer \x60" ++ toString i ++ "\x60 as " ++ (if i < 0 then "i128" else "u128")
  | .float s => "floating point \x60" ++ s ++ "\x60"
  | .string s => "string " ++ Text.quoted s
  | .sequence => "sequence"
  | .map => "map"

/-- A phrase for what was asked for. -/
def Wanted.text : Wanted → String
  | .string => "a string"
  | .sequence => "a sequence"
  | .map => "a map"
  | .count => "u64"
  | .record name => "struct " ++ name
  | .instant => "an RFC 3339 formatted date and time string"
  | .fieldName => "field identifier"
  | .null => "null"
  | .boolean => "a boolean"
  | .integer => "an integer"
  | .float => "a float"

/-- The message of a decoding error; the wording of a broken format is not kept. -/
def Error.message : Error → String
  | .malformed => "<parse error>"
  | .missingField name => "missing field \x60" ++ name ++ "\x60"
  | .duplicateField name => "duplicate field \x60" ++ name ++ "\x60"
  | .invalidType found wanted => "invalid type: " ++ found.text ++ ", expected " ++ wanted.text
  | .invalidValue found wanted => "invalid value: " ++ found.text ++ ", expected " ++ wanted.text
  | .invalidLength given record fields =>
    "invalid length " ++ toString given ++ ", expected struct " ++ record ++ " with " ++
      toString fields ++ " elements"

/-- The fields given for a record. -/
structure Fields (V : Type) where
  /-- Names and values in the order of the document. -/
  members : List (Except Error String × V)
  /-- How many were given by position, if they were. -/
  positional : Option Nat
  /-- Whether more were given than the record has. -/
  excess : Bool

/-- What a format of trees offers to a decoder. -/
class Source (V : Type) where
  /-- The text of a node, where `Wanted` names what it is to spell. -/
  text : Wanted → V → Except Error String
  /-- The count that a node denotes, a natural number of 64 bits. -/
  count : V → Except Error Nat
  /-- Whether a node stands for nothing where a value may be left out. -/
  isNone : V → Except Error Bool
  /-- The items of a list. -/
  items : V → Except Error (List V)
  /-- The entries of a map in the order of the document. -/
  entries : V → Except Error (List (Except Error String × V))
  /-- The fields of a record with that name and those fields. -/
  fields : String → List String → V → Except Error (Fields V)

/-- One field of a record: its name and what its value must be. -/
structure Field (V : Type) where
  name : String
  check : V → Except Error Unit

variable {V : Type}

/-- Checks the given fields in order: none twice, each of its kind; unknown ones are passed over. -/
def Fields.check (known : List (Field V)) :
    (seen : List String) → List (Except Error String × V) → Except Error Unit
  | _, [] => .ok ()
  | seen, (name, v) :: rest => do
    let name ← name
    match known.find? fun f => f.name == name with
    | none => Fields.check known seen rest
    | some f =>
      if seen.contains name then .error (.duplicateField name)
      else
        f.check v
        Fields.check known (name :: seen) rest

/-- The value given for a field. -/
def Fields.find? (fs : Fields V) (name : String) : Option V :=
  (fs.members.find? fun x => match x.1 with
    | .ok n => n == name
    | .error _ => false).map (·.2)

/-- The fields of a record once each is known to be of its kind. -/
def record [Source V] (name : String) (known : List (Field V)) (v : V) :
    Except Error (Fields V) := do
  let fs ← Source.fields name (known.map (·.name)) v
  Fields.check known [] fs.members
  if fs.excess then .error .malformed else .ok fs

/-- A field that must be given, read by `read`; `size` is the number of fields of the record. -/
def Fields.required {α : Type} (fs : Fields V) (record : String) (size : Nat) (name : String)
    (read : V → Except Error α) : Except Error α :=
  match fs.find? name with
  | some v => read v
  | none =>
    match fs.positional with
    | some given => .error (.invalidLength given record size)
    | none => .error (.missingField name)

/-- A field that has the value `default` when it is not given. -/
def Fields.default {α : Type} (fs : Fields V) (default : α) (name : String)
    (read : V → Except Error α) : Except Error α :=
  match fs.find? name with
  | some v => read v
  | none => .ok default

/-- A value that may stand for nothing. -/
def optional [Source V] {α : Type} (read : V → Except Error α) (v : V) :
    Except Error (Option α) := do
  if ← Source.isNone v then return none
  return some (← read v)

/-- A text. -/
def string [Source V] (v : V) : Except Error String := Source.text .string v

/-- A text or nothing. -/
def optionalString [Source V] (v : V) : Except Error (Option String) := optional string v

/-- A list of what `read` reads. -/
def list [Source V] {α : Type} (read : V → Except Error α) (v : V) : Except Error (List α) := do
  (← Source.items v).mapM read

/-- The entries of a map, each value read by `read`, in the order of the document. -/
def pairs [Source V] {α : Type} (read : V → Except Error α) (v : V) :
    Except Error (List (String × α)) := do
  (← Source.entries v).mapM fun (key, value) => do return (← key, ← read value)

/-- A field that holds a text. -/
def Field.string [Source V] (name : String) : Field V :=
  ⟨name, fun v => do discard (Decoding.string v)⟩

/-- A field that holds a text or nothing. -/
def Field.optionalString [Source V] (name : String) : Field V :=
  ⟨name, fun v => do discard (Decoding.optionalString v)⟩

end Decoding

end GatewayDirectory
