import GatewayDirectory.Decoding.Basic

/-!
# Items

What a scan of an inventory finds: a gateway's name with the id that its provider gave it.
-/

namespace GatewayDirectory.Sync

open Decoding

/-- A gateway as an inventory lists it. -/
structure Item where
  name : String
  id : String
deriving DecidableEq, Inhabited

/-- Reads an item; both fields must be given. -/
def Item.decode {V : Type} [Source V] (v : V) : Except Decoding.Error Item := do
  let fs ← record "DiscoveredItem" [.string "name", .string "id"] v
  return {
    name := ← fs.required "DiscoveredItem" 2 "name" string
    id := ← fs.required "DiscoveredItem" 2 "id" string }

end GatewayDirectory.Sync
