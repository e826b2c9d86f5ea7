import GatewayDirectory.Sync.Credential
import GatewayDirectory.Sync.Item
import GatewayDirectory.Timed

/-!
# Inventories

An inventory lists the gateways that a credential can see, page by page. The token of a page names
the next one. A `Listing` holds the items of each role and serves them in pages of a fixed size,
with the number of items already served as token.
-/

namespace GatewayDirectory.Sync

open Decoding

/-- Why a page cannot be had. -/
inductive InventoryError where
  | page (credential message : String)
  | timeout
  | snapshotUnread (path : String) (cause : OsError)
  | snapshotMalformed (cause : Decoding.Error)
deriving DecidableEq, Inhabited

/-- The message of an inventory error. -/
def InventoryError.message : InventoryError → String
  | .page credential text => "listing failed for " ++ credential ++ ": " ++ text
  | .timeout => "listing timed out"
  | .snapshotUnread path cause =>
    "failed to load inventory snapshot: " ++ path ++ ": " ++ cause.message
  | .snapshotMalformed cause => "failed to load inventory snapshot: " ++ cause.message

/-- A page of a list. -/
structure Page where
  items : List Item
  /-- The token of the page after it; the last page has none. -/
  next : Option String
deriving DecidableEq, Inhabited

/-- An inventory whose answers work on a state. -/
abbrev Inventory (σ : Type) := Credential → Option String → Timed σ (Except InventoryError Page)

/-- The items of each role. -/
structure Listing where
  items : Table (List Item)
  pageSize : Nat
deriving DecidableEq, Inhabited

namespace Listing

/-- The size of a page unless another is chosen. -/
def defaultPageSize : Nat := 100

/-- A listing with pages of the usual size. -/
def ofTable (items : Table (List Item)) : Listing := ⟨items, defaultPageSize⟩

/-- The listing with pages of another size, at least one. -/
def withPageSize (l : Listing) (size : Nat) : Listing := { l with pageSize := max size 1 }

/-- The number that a page token spells, which has 64 bits and may have a plus sign. -/
def offset? (token : String) : Option Nat :=
  let digits := match token.toList with
    | '+' :: rest => rest
    | cs => cs
  (Text.natural? digits).filter (· < UInt64.size)

/-- The items of a role; an unknown one has none. -/
def itemsOf (l : Listing) (role : String) : List Item := (l.items.get? role).getD []

/-- The page of a role's items that starts at an offset. The end of the page is a sum of natural
numbers; it is assumed that offset and page size together stay below the limit of a machine word, in
which the sum could overflow. -/
def pageAt (l : Listing) (role : String) (offset : Nat) : Page :=
  let all := l.itemsOf role
  let stop := min (offset + l.pageSize) all.length
  ⟨(all.take stop).drop offset, if stop < all.length then some (toString stop) else none⟩

/-- The page that a token names, the first one without a token. -/
def page (l : Listing) (role : String) (token : Option String) : Except InventoryError Page :=
  match token with
  | none => .ok (l.pageAt role 0)
  | some t =>
    match offset? t with
    | some n => .ok (l.pageAt role n)
    | none => .error (.page role ("invalid page token " ++ Text.quoted t))

/-- The inventory of a listing. -/
def inventory {σ : Type} (l : Listing) : Inventory σ := fun c token => return l.page c.role token

/-- The listing that a YAML text holds: a map from roles to items. -/
def ofYaml (yaml : String) : Except InventoryError Listing :=
  match Yaml.decode (pairs (list Item.decode)) yaml with
  | .ok entries => .ok (.ofTable (.ofList entries))
  | .error e => .error (.snapshotMalformed e)

end Listing

end GatewayDirectory.Sync
