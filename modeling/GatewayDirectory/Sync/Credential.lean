import GatewayDirectory.Decoding.Yaml
import GatewayDirectory.Entry
import GatewayDirectory.Storage.OsError
import GatewayDirectory.Table

/-!
# Credentials

A credential is one view of an inventory: the role that scans it, its region, and an allow-list that
may rename gateways and give them write tokens. A list of credentials is valid when every role and
region is given and no two entries of the allow-lists, of any credential, have one rename target.
-/

namespace GatewayDirectory.Sync

open Decoding

/-- What an allow-list says about a gateway. -/
structure RenameSpec where
  rename : Option String
  token : Option String
deriving DecidableEq, Inhabited

namespace RenameSpec

/-- The spec that says nothing. -/
def empty : RenameSpec := ⟨none, none⟩

/-- The name to use instead, if one is given. -/
def target (s : RenameSpec) : Option String := s.rename.filter (· != "")

/-- Reads a spec; both fields may be left out. -/
def decode {V : Type} [Source V] (v : V) : Except Decoding.Error RenameSpec := do
  let fs ← record "RenameSpec" [.optionalString "rename", .optionalString "token"] v
  return {
    rename := ← fs.default none "rename" optionalString
    token := ← fs.default none "token" optionalString }

/-- The spec as an object. -/
def toJson (s : RenameSpec) : Json :=
  .object [("rename", .ofOption s.rename), ("token", .ofOption s.token)]

end RenameSpec

/-- A view of an inventory. -/
structure Credential where
  role : String
  region : String
  externalId : Option String
  defaultToken : Option String
  /-- The allow-list by gateway name; an empty one lets every gateway pass. -/
  only : Table RenameSpec
deriving DecidableEq, Inhabited

namespace Credential

/-- Reads an allow-list; the list or an entry may be left empty, and of two entries with one name
the later counts. -/
def readOnly {V : Type} [Source V] (v : V) : Except Decoding.Error (Table RenameSpec) := do
  match ← optional (pairs (optional RenameSpec.decode)) v with
  | none => return .empty
  | some entries => return .ofList (entries.map fun (name, spec) => (name, spec.getD .empty))

/-- Reads a credential; role and region must be given. -/
def decode {V : Type} [Source V] (v : V) : Except Decoding.Error Credential := do
  let fs ← record "Credential"
    [.string "role_arn", .string "region", .optionalString "role_external_id",
      .optionalString "default_token", ⟨"only", fun v => do discard (readOnly v)⟩] v
  return {
    role := ← fs.required "Credential" 5 "role_arn" string
    region := ← fs.required "Credential" 5 "region" string
    externalId := ← fs.default none "role_external_id" optionalString
    defaultToken := ← fs.default none "default_token" optionalString
    only := ← fs.default .empty "only" readOnly }

/-- The credential as an object. -/
def toJson (c : Credential) : Json :=
  .object [("role_arn", .string c.role), ("region", .string c.region),
    ("role_external_id", .ofOption c.externalId), ("default_token", .ofOption c.defaultToken),
    ("only", .object (c.only.toList.map fun (name, spec) => (name, spec.toJson)))]

end Credential

/-- Why credentials cannot be used. -/
inductive ConfigError where
  | unread (path : String) (cause : OsError)
  | malformed (cause : Decoding.Error)
  | missingField (index : Nat) (field : String)
  | duplicateRename (rename first second : String)
deriving DecidableEq, Inhabited

/-- The message of a configuration error. -/
def ConfigError.message : ConfigError → String
  | .unread path cause => "failed to read " ++ path ++ ": " ++ cause.message
  | .malformed cause => "failed to parse credentials: " ++ cause.message
  | .missingField index field => "credential #" ++ toString index ++ " is missing " ++ field
  | .duplicateRename rename first second =>
    "rename target " ++ Text.quoted rename ++ " declared twice (" ++ first ++ " and " ++ second ++
      ")"

/-- Adds the rename targets of an allow-list to those taken so far, each with the entry that took
it. -/
def claimTargets (role : String) :
    List (String × RenameSpec) → Table String → Except ConfigError (Table String)
  | [], taken => .ok taken
  | (name, spec) :: rest, taken =>
    match spec.target with
    | none => claimTargets role rest taken
    | some target =>
      let owner := role ++ "/" ++ name
      match taken.get? target with
      | some first => .error (.duplicateRename target first owner)
      | none => claimTargets role rest (taken.insert target owner)

/-- Checks the credentials from number `index` on, given the rename targets taken before. -/
def validateFrom (index : Nat) : List Credential → Table String → Except ConfigError Unit
  | [], _ => .ok ()
  | c :: rest, taken =>
    if c.role = "" then .error (.missingField index "role_arn")
    else if c.region = "" then .error (.missingField index "region")
    else
      match claimTargets c.role c.only.toList taken with
      | .error e => .error e
      | .ok taken => validateFrom (index + 1) rest taken

/-- Checks a list of credentials. -/
def validate (credentials : List Credential) : Except ConfigError Unit :=
  validateFrom 0 credentials .empty

/-- The credentials that a YAML text lists, if they are valid. -/
def parseCredentials (yaml : String) : Except ConfigError (List Credential) :=
  match Yaml.decode (list Credential.decode) yaml with
  | .error e => .error (.malformed e)
  | .ok credentials =>
    match validate credentials with
    | .error e => .error e
    | .ok () => .ok credentials

end GatewayDirectory.Sync
