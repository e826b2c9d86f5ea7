/-!
# Tables

A finite map from texts that keeps its entries in the order of their keys. Two tables with the same
look-ups are equal (`Table.ext_get?`), so a statement about every look-up is a statement about the
table, and `toList` lists each key once in increasing order (`Table.sorted`).
-/

namespace GatewayDirectory

universe u

/-- Entries whose keys strictly increase. -/
def Increasing {α : Type u} (entries : List (String × α)) : Prop :=
  entries.Pairwise fun x y => x.1 < y.1

namespace Increasing

variable {α : Type u}

/-- The value held for `key` in a list of entries. -/
def get? (key : String) : List (String × α) → Option α
  | [] => none
  | (k, v) :: rest => if k = key then some v else get? key rest

/-- The entries with `value` held for `key`, put where the key belongs. -/
def insert (key : String) (value : α) : List (String × α) → List (String × α)
  | [] => [(key, value)]
  | (k, v) :: rest =>
    if key < k then (key, value) :: (k, v) :: rest
    else if k = key then (key, value) :: rest
    else (k, v) :: insert key value rest

/-- Of two different keys that are not in order the other order holds. -/
theorem lt_of_not_lt_of_ne {a b : String} (h : ¬ a < b) (hne : b ≠ a) : b < a := by
  rcases Decidable.em (b < a) with hlt | hlt
  · exact hlt
  · exact absurd (String.le_antisymm h hlt) hne

/-- A write brings in its own entry at most: every other entry of the result was there before. -/
theorem mem_insert {key : String} {value : α} {entries : List (String × α)} {x : String × α}
    (h : x ∈ insert key value entries) : x = (key, value) ∨ x ∈ entries := by
  induction entries with
  | nil => simpa [insert] using h
  | cons head rest ih =>
    obtain ⟨k, v⟩ := head
    simp only [insert] at h
    split at h
    · simpa using h
    · split at h
      · rcases List.mem_cons.1 h with h | h
        · exact .inl h
        · exact .inr (List.mem_cons_of_mem _ h)
      · rcases List.mem_cons.1 h with h | h
        · exact .inr (h ▸ List.mem_cons_self)
        · exact (ih h).imp_right (List.mem_cons_of_mem _)

/-- Writing where the key belongs keeps the keys increasing. -/
theorem insert_increasing {entries : List (String × α)} (h : Increasing entries) (key : String)
    (value : α) : Increasing (insert key value entries) := by
  induction entries with
  | nil => simp [insert, Increasing]
  | cons head rest ih =>
    obtain ⟨k, v⟩ := head
    obtain ⟨hk, hr⟩ := List.pairwise_cons.1 h
    simp only [insert]
    split
    · -- the new entry goes in front, so its key lies below every key
      rename_i hlt
      refine List.pairwise_cons.2 ⟨?_, h⟩
      intro x hx
      rcases List.mem_cons.1 hx with rfl | hx
      · exact hlt
      · exact String.lt_trans hlt (hk x hx)
    · split
      · rename_i heq
        subst heq
        exact List.pairwise_cons.2 ⟨hk, hr⟩
      · rename_i hnlt hne
        refine List.pairwise_cons.2 ⟨?_, ih hr⟩
        intro x hx
        rcases mem_insert hx with rfl | hx
        · exact lt_of_not_lt_of_ne hnlt hne
        · exact hk x hx

/-- A look-up after a write finds the new value at the key and is as before elsewhere. -/
theorem get?_insert (key other : String) (value : α) (entries : List (String × α)) :
    get? other (insert key value entries) =
      if key = other then some value else get? other entries := by
  induction entries with
  | nil => simp [insert, get?]
  | cons head rest ih =>
    obtain ⟨k, v⟩ := head
    simp only [insert]
    split
    · simp [get?]
    · split
      · rename_i heq
        subst heq
        simp only [get?]
        split <;> rfl
      · rename_i hne
        simp only [get?, ih]
        by_cases hk : k = other
        · subst hk
          simp [Ne.symm hne]
        · simp [hk]

/-- A key below every key of the entries is not held. -/
theorem get?_eq_none {key : String} {entries : List (String × α)}
    (h : ∀ x ∈ entries, key < x.1) : get? key entries = none := by
  induction entries with
  | nil => rfl
  | cons head rest ih =>
    obtain ⟨k, v⟩ := head
    have hk : key < k := h (k, v) List.mem_cons_self
    have hne : k ≠ key := fun e => String.lt_irrefl k (e ▸ hk)
    simp [get?, hne, ih fun x hx => h x (List.mem_cons_of_mem _ hx)]

/-- With increasing keys an entry is what a look-up of its key finds: no entry before it has that
key. -/
theorem get?_of_mem {entries : List (String × α)} (h : Increasing entries) {x : String × α}
    (hx : x ∈ entries) : get? x.1 entries = some x.2 := by
  induction entries with
  | nil => simp at hx
  | cons head rest ih =>
    obtain ⟨k, v⟩ := head
    obtain ⟨hk, hr⟩ := List.pairwise_cons.1 h
    rcases List.mem_cons.1 hx with rfl | hx
    · simp [get?]
    · have hne : k ≠ x.1 := fun e => String.lt_irrefl k (e ▸ hk x hx)
      simp [get?, hne, ih hr hx]

/-- What a look-up finds is an entry, also where keys repeat. -/
theorem mem_of_get? {key : String} {value : α} {entries : List (String × α)}
    (h : get? key entries = some value) : (key, value) ∈ entries := by
  induction entries with
  | nil => simp [get?] at h
  | cons head rest ih =>
    obtain ⟨k, v⟩ := head
    simp only [get?] at h
    split at h
    · rename_i heq
      subst heq
      cases h
      exact List.mem_cons_self
    · exact List.mem_cons_of_mem _ (ih h)

/-- Lists with increasing keys and the same look-ups are equal. -/
theorem ext {a b : List (String × α)} (ha : Increasing a) (hb : Increasing b)
    (h : ∀ key, get? key a = get? key b) : a = b := by
  induction a generalizing b with
  | nil =>
    cases b with
    | nil => rfl
    | cons y b => simpa [get?] using h y.1
  | cons x a ih =>
    obtain ⟨hx, hra⟩ := List.pairwise_cons.1 ha
    cases b with
    | nil => simpa [get?] using h x.1
    | cons y b =>
      obtain ⟨hy, hrb⟩ := List.pairwise_cons.1 hb
      -- the first keys agree: the smaller of two would be held on one side only
      have hxy : x.1 = y.1 := by
        rcases Decidable.em (x.1 = y.1) with heq | hne
        · exact heq
        · rcases Decidable.em (x.1 < y.1) with hlt | hnlt
          · have hn : get? x.1 (y :: b) = none := get?_eq_none fun z hz => by
              rcases List.mem_cons.1 hz with rfl | hz
              · exact hlt
              · exact String.lt_trans hlt (hy z hz)
            have := h x.1
            rw [hn] at this
            simp [get?] at this
          · have hgt := lt_of_not_lt_of_ne hnlt (Ne.symm hne)
            have hn : get? y.1 (x :: a) = none := get?_eq_none fun z hz => by
              rcases List.mem_cons.1 hz with rfl | hz
              · exact hgt
              · exact String.lt_trans hgt (hx z hz)
            have := h y.1
            rw [hn] at this
            simp [get?] at this
      obtain ⟨k, v⟩ := x
      obtain ⟨k', v'⟩ := y
      have hk : k = k' := hxy
      subst hk
      have hv : v = v' := by simpa [get?] using h k
      subst hv
      congr 1
      refine ih hra hrb fun key => ?_
      by_cases hkey : k = key
      · subst hkey
        rw [get?_eq_none hx, get?_eq_none hy]
      · simpa [get?, hkey] using h key

end Increasing

/-- A finite map from texts, kept in key order. -/
structure Table (α : Type u) where
  /-- Every key with its value, in increasing key order. -/
  toList : List (String × α)
  /-- Keys strictly increase, so none is held twice. -/
  sorted : Increasing toList

namespace Table

variable {α : Type u}

/-- The table without entries. -/
def empty : Table α := ⟨[], List.Pairwise.nil⟩

instance : Inhabited (Table α) := ⟨empty⟩

instance : EmptyCollection (Table α) := ⟨empty⟩

instance [DecidableEq α] : DecidableEq (Table α) := fun a b =>
  if h : a.toList = b.toList then .isTrue (by cases a; cases b; cases h; rfl)
  else .isFalse fun e => h (e ▸ rfl)

/-- The value held for `key`. -/
def get? (t : Table α) (key : String) : Option α := Increasing.get? key t.toList

/-- The table with `value` held for `key`, replacing what was held before. -/
def insert (t : Table α) (key : String) (value : α) : Table α :=
  ⟨Increasing.insert key value t.toList, Increasing.insert_increasing t.sorted key value⟩

/-- The entries that satisfy `keep`. -/
def filter (t : Table α) (keep : String → α → Bool) : Table α :=
  ⟨t.toList.filter fun x => keep x.1 x.2, t.sorted.filter _⟩

/-- The table without `key`. -/
def erase (t : Table α) (key : String) : Table α := t.filter fun k _ => k != key

/-- The number of keys held. -/
def size (t : Table α) : Nat := t.toList.length

/-- Whether no key is held. -/
def isEmpty (t : Table α) : Bool := t.toList.isEmpty

/-- Whether `key` is held. -/
def contains (t : Table α) (key : String) : Bool := (t.get? key).isSome

/-- The table of a list of entries; of two with one key the later is kept. -/
def ofList (entries : List (String × α)) : Table α :=
  entries.foldl (fun t x => t.insert x.1 x.2) empty

/-- The keys in increasing order. -/
def keys (t : Table α) : List String := t.toList.map (·.1)

/-- The values in the order of their keys. -/
def values (t : Table α) : List α := t.toList.map (·.2)

/-- A table is its list of entries; the proof that they increase carries no data. -/
theorem ext_toList {a b : Table α} (h : a.toList = b.toList) : a = b := by
  cases a; cases b; cases h; rfl

/-- A table is what its look-ups say. -/
theorem ext_get? {a b : Table α} (h : ∀ key, a.get? key = b.get? key) : a = b :=
  ext_toList (Increasing.ext a.sorted b.sorted h)

/-- An empty table holds nothing. -/
@[simp] theorem get?_empty (key : String) : (empty : Table α).get? key = none := rfl

/-- A write is seen at its own key and nowhere else. -/
theorem get?_insert (t : Table α) (key other : String) (value : α) :
    (t.insert key value).get? other = if key = other then some value else t.get? other :=
  Increasing.get?_insert key other value t.toList

/-- A write is seen at its own key. -/
@[simp] theorem get?_insert_self (t : Table α) (key : String) (value : α) :
    (t.insert key value).get? key = some value := by simp [get?_insert]

/-- A key that is taken out is not held, and no other key is touched. -/
theorem get?_erase (t : Table α) (key other : String) :
    (t.erase key).get? other = if key = other then none else t.get? other := by
  simp only [erase, filter, get?]
  induction t.toList with
  | nil => simp [Increasing.get?]
  | cons head rest ih =>
    obtain ⟨k, v⟩ := head
    rw [List.filter_cons]
    -- the induction is on the entries that the filter goes through; an entry is dropped just where
    -- its key is the one taken out
    by_cases hkey : key = other
    · subst hkey
      by_cases hk : k = key
      · simpa [hk, Increasing.get?] using ih
      · simpa [hk, Increasing.get?] using ih
    · by_cases hk : k = key
      · have hother : k ≠ other := hk ▸ hkey
        simpa [hk, hother, hkey, Increasing.get?] using ih
      · simp only [bne_iff_ne, ne_eq, hk, not_false_eq_true, if_true, Increasing.get?, ih, hkey,
          if_false]

/-- Writing entries with increasing keys adds each of them. -/
theorem get?_foldl_insert {entries : List (String × α)} (h : Increasing entries) (t : Table α)
    (key : String) :
    (entries.foldl (fun t x => t.insert x.1 x.2) t).get? key =
      (Increasing.get? key entries).or (t.get? key) := by
  induction entries generalizing t with
  | nil => rfl
  | cons head rest ih =>
    obtain ⟨k, v⟩ := head
    obtain ⟨hk, hr⟩ := List.pairwise_cons.1 h
    rw [List.foldl_cons, ih hr, get?_insert, Increasing.get?]
    by_cases heq : k = key
    · subst heq
      simp [Increasing.get?_eq_none hk]
    · simp [heq]

/-- The entries of a table make up that table. -/
theorem ofList_toList (t : Table α) : ofList t.toList = t := by
  refine ext_get? fun key => ?_
  rw [ofList, get?_foldl_insert t.sorted, get?_empty, Option.or_none]
  rfl

/-- The entries of a table are its look-ups that succeed. -/
theorem mem_toList_iff {t : Table α} {key : String} {value : α} :
    (key, value) ∈ t.toList ↔ t.get? key = some value :=
  ⟨fun h => Increasing.get?_of_mem t.sorted h, Increasing.mem_of_get?⟩

/-- What is kept of a table is what satisfies the test. -/
theorem get?_filter_eq_some_iff {t : Table α} {keep : String → α → Bool} {key : String}
    {value : α} :
    (t.filter keep).get? key = some value ↔ t.get? key = some value ∧ keep key value = true := by
  rw [← mem_toList_iff, ← mem_toList_iff]
  exact List.mem_filter

/-- The keys of a table are those that a look-up finds. -/
theorem mem_keys_iff {t : Table α} {key : String} :
    key ∈ t.keys ↔ ∃ value, t.get? key = some value := by
  simp only [keys, List.mem_map]
  constructor
  · rintro ⟨⟨k, v⟩, hmem, rfl⟩
    exact ⟨v, mem_toList_iff.1 hmem⟩
  · rintro ⟨v, hv⟩
    exact ⟨(key, v), mem_toList_iff.2 hv, rfl⟩

/-- No key is listed twice. -/
theorem nodup_keys (t : Table α) : t.keys.Nodup := by
  rw [keys, List.Nodup, List.pairwise_map]
  refine t.sorted.imp fun {x y} hlt heq => ?_
  exact String.lt_irrefl y.1 (heq ▸ hlt)

end Table

end GatewayDirectory
