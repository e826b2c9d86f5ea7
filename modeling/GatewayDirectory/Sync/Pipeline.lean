import GatewayDirectory.Event
import GatewayDirectory.Sync.Credential
import GatewayDirectory.Sync.Item

/-!
# From scanned items to items to save

Pure steps between a scan and the sink. `dedup` counts the names of a scan in a table, beside the
order in which they were first seen, and keeps those that it reports once; `filterRename` applies a
credential's allow-list, and `prepare` gives each accepted gateway its key `account:region:name`.
The events each step reports are functions of the same input.
-/

namespace GatewayDirectory.Sync

/-- What a scan reports of a name: how often it does, and the id that came with it last. -/
structure NameGroup where
  count : Nat
  id : String
deriving DecidableEq, Inhabited

/-- The items of a scan, grouped by their names. -/
structure Groups where
  /-- The names in the order in which they were first seen. -/
  order : List String
  table : Table NameGroup
deriving DecidableEq, Inhabited

namespace Groups

/-- Adds one more item to the group of its name. -/
def note (g : Groups) (x : Item) : Groups :=
  match g.table.get? x.name with
  | some group => { g with table := g.table.insert x.name ⟨group.count + 1, x.id⟩ }
  | none => ⟨g.order ++ [x.name], g.table.insert x.name ⟨1, x.id⟩⟩

/-- The groups of a list of items. -/
def ofItems (items : List Item) : Groups := items.foldl note ⟨[], .empty⟩

/-- Takes names out of a table, in order, each with its group. -/
def drain : List String → Table NameGroup → List (String × NameGroup)
  | [], _ => []
  | name :: rest, table =>
    match table.get? name with
    -- a name that was taken out before is passed over
    | none => drain rest table
    | some group => (name, group) :: drain rest (table.erase name)

end Groups

/-- The names of a scan in order of first occurrence, each with its group. -/
def grouped (items : List Item) : List (String × NameGroup) :=
  let groups := Groups.ofItems items
  Groups.drain groups.order groups.table

/-- A scan split by how often a name occurs in it. -/
structure Deduped where
  /-- The items whose name occurs once, in order. -/
  unique : List Item
  /-- The names that occur more often, each once, in order of first occurrence. -/
  duplicates : List String
deriving DecidableEq, Inhabited

/-- Puts one more name where it belongs: back into an item, or among the duplicates. -/
def Deduped.place (d : Deduped) (name : String) (group : NameGroup) : Deduped :=
  if group.count = 1 then { d with unique := d.unique ++ [⟨name, group.id⟩] }
  else { d with duplicates := d.duplicates ++ [name] }

/-- Drops every name that a scan reports more than once, for its id is not known. -/
def dedup (items : List Item) : Deduped :=
  (grouped items).foldl (fun d x => d.place x.1 x.2) ⟨[], []⟩

/-- What `dedup` reports: each dropped name with its number of occurrences. -/
def dedupEvents (items : List Item) : List Event :=
  (grouped items).filterMap fun x =>
    if x.2.count = 1 then none else some (.duplicateDropped x.1 x.2.count)

/-- A gateway that an allow-list lets pass, under its new name. -/
structure Accepted where
  name : String
  id : String
  token : Option String
deriving DecidableEq, Inhabited

/-- A token, unless it is empty. -/
def nonEmpty (token : Option String) : Option String := token.filter (· != "")

/-- Applies an allow-list to an item; `none` if it is not listed. -/
def filterRename (c : Credential) (item : Item) : Option Accepted :=
  if c.only.isEmpty then some ⟨item.name, item.id, nonEmpty c.defaultToken⟩
  else
    match c.only.get? item.name with
    | none => none
    | some spec =>
      some ⟨spec.target.getD item.name, item.id, (nonEmpty spec.token).or (nonEmpty c.defaultToken)⟩

/-- What `filterRename` reports: a gateway that is not listed. -/
def filterEvents (c : Credential) (item : Item) : List Event :=
  if (filterRename c item).isNone then [.notListed item.name c.role] else []

/-- The key of a gateway in the directory. Nothing is escaped. -/
def composeKey (account region name : String) : String := account ++ ":" ++ region ++ ":" ++ name

/-- An item ready to be saved. -/
structure SyncItem where
  key : String
  id : String
  token : Option String
deriving DecidableEq, Inhabited

/-- The item to save for an accepted gateway. -/
def Accepted.keyed (a : Accepted) (account region : String) : SyncItem :=
  ⟨composeKey account region a.name, a.id, a.token⟩

/-- The items to save and how many were left out. -/
def prepare : (unique : List Item) → (c : Credential) → (account : String) → List SyncItem × Nat
  | [], _, _ => ([], 0)
  | item :: rest, c, account =>
    let (items, filtered) := prepare rest c account
    match filterRename c item with
    | none => (items, filtered + 1)
    | some accepted => (accepted.keyed account c.region :: items, filtered)

/-- What `prepare` reports: each item left out. -/
def prepareEvents (unique : List Item) (c : Credential) : List Event :=
  unique.flatMap (filterEvents c)

end GatewayDirectory.Sync
