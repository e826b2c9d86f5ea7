import GatewayDirectory.Proofs.Directory.History
import GatewayDirectory.Sync.Pipeline

/-!
# What items write into a store

The calls that store an item are one write of its id and one of its token, if it has one. `Amounts`
says what the items of a key amount to: the last id, the number of them, and the last token. Items
that are stored one after the other amount to all of them (`Amounts.append`), and those that are
stored again change nothing but the counter and the time (`Amounts.again`).
-/

namespace GatewayDirectory.Sync

open Directory

namespace SyncItem

/-- Whether a directory takes the item: its key is a valid name and its id is not empty. -/
def isStorable (i : SyncItem) : Bool := isValidName i.key && i.id != ""

/-- An item is taken under a valid name and with an id. -/
theorem isStorable_iff {i : SyncItem} :
    i.isStorable = true ↔ isValidName i.key = true ∧ i.id ≠ "" := by
  rw [isStorable, Bool.and_eq_true, bne_iff_ne]

/-- The calls that store the item; none for one that a directory does not take. -/
def writes (i : SyncItem) : List Call :=
  if i.isStorable then .put i.key i.id :: i.token.toList.map (.putToken i.key) else []

/-- Whether the item is stored under a key. -/
def isStoredAt (key : String) (i : SyncItem) : Bool := i.isStorable && i.key == key

end SyncItem

/-! ## What the items of a key amount to -/

/-- An entry that items were stored into: it has the id of the last of them and the last token, and
its counter has been raised by their number. -/
structure Stored (before : Option Entry) (key : String) (items : List SyncItem) (e : Entry) :
    Prop where
  name_eq : e.name = (before.map (·.name)).getD key
  id_eq : items.getLast?.map (·.id) = some e.id
  counter_eq : e.counter = (before.map (·.counter)).getD 0 + UInt64.ofNat items.length
  token_eq : e.token = (items.filterMap (·.token)).getLast?.or (before.bind (·.token))

/-- What the entry of a key has become when items were stored under it. -/
def Amounts (before : Option Entry) (key : String) (items : List SyncItem) (after : Option Entry) :
    Prop :=
  (items = [] ∧ after = before) ∨ ∃ e, after = some e ∧ Stored before key items e

section Amounts

variable {key : String} {before mid after : Option Entry} {items more : List SyncItem} {e : Entry}

/-- An entry has an id, so that there is an item that it came from. -/
theorem Stored.ne_nil (h : Stored before key items e) : items ≠ [] := by
  rintro rfl
  cases h.id_eq

/-- **Items that are stored after others add to what those amount to.** -/
theorem Amounts.append (h : Amounts before key items mid) (h' : Amounts mid key more after) :
    Amounts before key (items ++ more) after := by
  -- if one of the lists is empty the other one amounts to all; otherwise the later item decides
  rcases h' with ⟨rfl, rfl⟩ | ⟨e', rfl, h'⟩
  · rw [List.append_nil]
    exact h
  rcases h with ⟨rfl, rfl⟩ | ⟨e, rfl, h⟩
  · exact .inr ⟨e', rfl, h'⟩
  refine .inr ⟨e', rfl, ?_⟩
  constructor
  · rw [h'.name_eq, ← h.name_eq]
    rfl
  · rw [List.getLast?_append, Option.map_or, h'.id_eq]
    rfl
  · -- the counters add up modulo 64 bits, as the numbers of items do
    have hmid : e'.counter = e.counter + UInt64.ofNat more.length := h'.counter_eq
    rw [hmid, h.counter_eq, List.length_append, UInt64.ofNat_add, UInt64.add_assoc]
  · have hmid : e'.token = (more.filterMap (·.token)).getLast?.or e.token := h'.token_eq
    rw [hmid, h.token_eq, List.filterMap_append, List.getLast?_append, Option.or_assoc]

/-- **Items that are stored again leave the name, the id and the token as they are.** -/
theorem Amounts.again (h : Amounts before key items mid) (h' : Amounts mid key items after) :
    after.map (fun e => (e.name, e.id, e.token)) = mid.map fun e => (e.name, e.id, e.token) := by
  rcases h' with ⟨-, rfl⟩ | ⟨e', rfl, h'⟩
  · rfl
  rcases h with ⟨hnil, -⟩ | ⟨e, rfl, h⟩
  · exact absurd hnil h'.ne_nil
  have hname : e'.name = e.name := h'.name_eq
  have hid : e'.id = e.id := Option.some.inj (h'.id_eq.symm.trans h.id_eq)
  have htoken : e'.token = e.token := by
    rw [h'.token_eq, Option.bind_some, h.token_eq]
    -- the last token is the one that was bound before, or there is none and the token stays
    cases (items.filterMap (·.token)).getLast? <;> rfl
  rw [Option.map_some, Option.map_some, hname, hid, htoken]

/-- The number of changes grows by the number of items, unless the counter starts again. -/
theorem Amounts.changes_eq (h : Amounts before key items (some e))
    (hsmall : (before.map (·.changes)).getD 0 + items.length < UInt64.size) :
    e.changes = (before.map (·.changes)).getD 0 + items.length := by
  rcases h with ⟨rfl, rfl⟩ | ⟨e', he, h⟩
  · rfl
  cases he
  have hbefore : ((before.map Entry.counter).getD 0).toNat = (before.map (·.changes)).getD 0 := by
    cases before <;> rfl
  rw [Entry.changes, h.counter_eq, UInt64.toNat_add, hbefore, UInt64.toNat_ofNat', Nat.add_mod_mod]
  exact Nat.mod_eq_of_lt hsmall

end Amounts

/-! ## What a history of writes amounts to -/

/-- A token is bound to the entry of its name, if there is one, and to no other. -/
theorem get?_putToken (s : Store) (name token key : String) :
    (s.putToken name token).2.get? key =
      if name = key then (s.get? key).map (·.bind token) else s.get? key := by
  by_cases hkey : name = key
  · subst hkey
    cases hname : s.get? name with
    | none => rw [Store.putToken_of_none hname, if_pos rfl, hname, Option.map_none]
    | some e =>
      rw [Store.putToken_of_some hname, if_pos rfl, Table.get?_insert_self, Option.map_some]
  · rw [if_neg hkey]
    cases hname : s.get? name with
    | none => rw [Store.putToken_of_none hname]
    | some e => rw [Store.putToken_of_some hname, Table.get?_insert, if_neg hkey]

/-- The writes of an item that a directory takes leave the entry that is written for it, with its
token bound if it has one. -/
theorem get?_run_writes {i : SyncItem} (hstorable : i.isStorable = true) {calls : History}
    (hcalls : calls.map (·.2) = i.writes) (s : Store) :
    ∃ now, ∀ key, (s.run calls).get? key =
      if i.key = key then
        some (i.token.elim (s.written now i.key i.id) (s.written now i.key i.id).bind)
      else s.get? key := by
  obtain ⟨hvalid, hid⟩ := SyncItem.isStorable_iff.1 hstorable
  rw [SyncItem.writes, if_pos hstorable] at hcalls
  -- the first call is the write of the id; a binding follows if there is a token
  obtain ⟨⟨now, c⟩, rest, rfl, rfl, hrest⟩ := List.map_eq_cons_iff.1 hcalls
  refine ⟨now, fun key => ?_⟩
  rw [Store.run, Store.answer, Store.put_of_valid hvalid hid]
  cases htoken : i.token with
  | none =>
    rw [htoken] at hrest
    obtain rfl := List.map_eq_nil_iff.1 hrest
    rw [Store.run, Table.get?_insert]
    rfl
  | some token =>
    rw [htoken] at hrest
    obtain ⟨⟨now', c⟩, rest', rfl, rfl, hnil⟩ := List.map_eq_cons_iff.1 hrest
    obtain rfl := List.map_eq_nil_iff.1 hnil
    rw [Store.run, Store.answer, Store.run, get?_putToken, Table.get?_insert]
    by_cases hkey : i.key = key
    · rw [if_pos hkey, if_pos hkey, if_pos hkey]
      rfl
    · rw [if_neg hkey, if_neg hkey, if_neg hkey]

/-- What the writes of an item amount to. -/
theorem amounts_writes (i : SyncItem) {calls : History} (hcalls : calls.map (·.2) = i.writes)
    (s : Store) (key : String) :
    Amounts (s.get? key) key ([i].filter (·.isStoredAt key)) ((s.run calls).get? key) := by
  by_cases hstorable : i.isStorable = true
  · obtain ⟨now, hrun⟩ := get?_run_writes hstorable hcalls s
    rw [hrun key]
    by_cases hkey : i.key = key
    · subst hkey
      have hmine : [i].filter (·.isStoredAt i.key) = [i] := by
        simp [SyncItem.isStoredAt, hstorable]
      rw [hmine, if_pos rfl]
      refine .inr ⟨_, rfl, ?_⟩
      unfold Store.written
      -- the entry is updated or created, and gets a token or keeps its own
      cases htoken : i.token with
      | none => cases s.get? i.key <;> constructor <;> simp [htoken, Entry.update, Entry.create]
      | some token =>
        cases s.get? i.key <;> constructor <;> simp [htoken, Entry.update, Entry.create, Entry.bind]
    · have hnone : [i].filter (·.isStoredAt key) = [] := by
        simp [SyncItem.isStoredAt, hkey]
      rw [hnone, if_neg hkey]
      exact .inl ⟨rfl, rfl⟩
  · have hnone : [i].filter (·.isStoredAt key) = [] := by
      simp [SyncItem.isStoredAt, hstorable]
    rw [SyncItem.writes, if_neg hstorable] at hcalls
    obtain rfl := List.map_eq_nil_iff.1 hcalls
    exact .inl ⟨hnone, rfl⟩

/-- **What the writes of items amount to**, for every key. -/
theorem amounts_run (items : List SyncItem) {calls : History}
    (hcalls : calls.map (·.2) = items.flatMap SyncItem.writes) (s : Store) (key : String) :
    Amounts (s.get? key) key (items.filter (·.isStoredAt key)) ((s.run calls).get? key) := by
  -- along the items, with the calls of each cut off at the front
  induction items generalizing calls s with
  | nil =>
    obtain rfl := List.map_eq_nil_iff.1 hcalls
    exact .inl ⟨rfl, rfl⟩
  | cons i items ih =>
    rw [List.flatMap_cons] at hcalls
    obtain ⟨first, rest, rfl, hfirst, hrest⟩ := List.map_eq_append_iff.1 hcalls
    rw [Store.run_append, ← List.singleton_append, List.filter_append]
    exact (amounts_writes i hfirst s key).append (ih hrest (s.run first))

end GatewayDirectory.Sync
