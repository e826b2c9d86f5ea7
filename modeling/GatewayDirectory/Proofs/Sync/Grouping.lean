import GatewayDirectory.Sync.Pipeline
import Mathlib.Data.List.Basic
import Mathlib.Data.List.Induction
import Mathlib.Data.List.Nodup

/-!
# The names of a scan, counted

`dedup` goes through a scan once, with a table of counts and ids beside the list of the names seen,
and then takes the groups out of the table in the order of that list. `Groups.Counts` is what ties
the two together while the scan is gone through: the list holds the names in order of first
occurrence, and the table holds how often each occurs and the item that it came with last. Each item
keeps it (`Groups.Counts.note`), so it holds of the whole scan (`counts_ofItems`), and what is taken
out of the table is what is looked up in it (`drain_eq`). With that the result is told without table
and list: the items whose name occurs once, in the order of the scan (`unique_eq`), and the names
that occur more often, in order of first occurrence (`duplicates_eq`). What `prepare` collects and
counts on its way is told as the two lists that it stands for (`prepare_eq_filterMap`).
-/

namespace GatewayDirectory.Sync

variable {items : List Item} {name : String}

/-! ## Occurrences -/

/-- How often a name occurs. -/
def occurrences (name : String) (items : List Item) : Nat := items.countP fun x => x.name == name

/-- The last item of a name. -/
def lastNamed (name : String) (items : List Item) : Option Item :=
  (items.filter fun x => x.name == name).getLast?

/-- The names of a list of items, each once, in order of first occurrence. -/
def firstNames : List Item → List String
  | [] => []
  | x :: rest => x.name :: (firstNames rest).filter (· != x.name)

/-- Occurrences are counted among the names. -/
theorem count_map_name (name : String) (items : List Item) :
    (items.map (·.name)).count name = occurrences name items := by
  rw [List.count, List.countP_map]
  rfl

/-- The first item counts for its name. -/
theorem occurrences_cons (name : String) (x : Item) (rest : List Item) :
    occurrences name (x :: rest) = occurrences name rest + if x.name = name then 1 else 0 := by
  simp [occurrences, List.countP_cons]

/-- The last item counts for its name. -/
theorem occurrences_concat (name : String) (items : List Item) (x : Item) :
    occurrences name (items ++ [x]) = occurrences name items + if x.name = name then 1 else 0 := by
  simp [occurrences, List.countP_append, List.countP_cons]

/-- A name occurs if it is one of the names. -/
theorem occurrences_pos_iff : 0 < occurrences name items ↔ name ∈ items.map (·.name) := by
  rw [← count_map_name, List.count_pos_iff]

/-- The last item is the last of its name. -/
theorem lastNamed_concat (name : String) (items : List Item) (x : Item) :
    lastNamed name (items ++ [x]) = if x.name = name then some x else lastNamed name items := by
  by_cases hx : x.name = name
  · simp [lastNamed, List.filter_append, hx]
  · simp [lastNamed, List.filter_append, hx]

/-- An item of another name is not the last of this one. -/
theorem lastNamed_cons_of_ne {x : Item} (h : x.name ≠ name) (rest : List Item) :
    lastNamed name (x :: rest) = lastNamed name rest := by
  rw [lastNamed, List.filter_cons_of_neg (by simpa using h)]
  rfl

/-- The first item is the last of its name if no other has it. -/
theorem lastNamed_cons (x : Item) (rest : List Item) :
    lastNamed x.name (x :: rest) = some ((lastNamed x.name rest).getD x) := by
  rw [lastNamed, List.filter_cons_of_pos (by simp), List.getLast?_cons]
  rfl

/-- The last item of a name has that name. -/
theorem name_of_lastNamed {x : Item} (h : lastNamed name items = some x) : x.name = name := by
  have hmem := List.mem_of_getLast? h
  exact of_decide_eq_true (List.mem_filter.1 hmem).2

/-- A name has a last item unless it does not occur. -/
theorem lastNamed_eq_none_iff : lastNamed name items = none ↔ name ∉ items.map (·.name) := by
  simp [lastNamed]

/-! ## Names in order of first occurrence -/

/-- The names in order of first occurrence are the names, each once. -/
theorem firstNames_spec (items : List Item) :
    (firstNames items).Nodup ∧ ∀ name, name ∈ firstNames items ↔ name ∈ items.map (·.name) := by
  induction items with
  | nil => simp [firstNames]
  | cons x rest ih =>
    obtain ⟨hnodup, hmem⟩ := ih
    refine ⟨List.nodup_cons.2 ⟨by simp, hnodup.filter _⟩, fun name => ?_⟩
    rw [firstNames, List.map_cons, List.mem_cons, List.mem_cons, List.mem_filter, hmem]
    by_cases hx : name = x.name
    · simp [hx]
    · simp [hx]

/-- One more item adds its name to those found, unless it was found before. -/
theorem firstNames_concat (items : List Item) (x : Item) :
    firstNames (items ++ [x]) =
      if x.name ∈ items.map (·.name) then firstNames items else firstNames items ++ [x.name] := by
  induction items with
  | nil => rfl
  | cons y rest ih =>
    rw [List.cons_append, firstNames, firstNames, ih]
    by_cases hy : x.name = y.name
    · -- the name of the first item is taken out of the rest in any case
      split <;> simp [hy, List.filter_append]
    · by_cases hrest : x.name ∈ rest.map (·.name)
      · simp [hrest]
      · simp [hrest, hy, List.filter_append]

/-- **The names found stand in order of first occurrence.** -/
theorem firstNames_order (items : List Item) :
    (firstNames items).Pairwise fun m n =>
      (items.map (·.name)).idxOf m < (items.map (·.name)).idxOf n := by
  induction items with
  | nil => exact List.Pairwise.nil
  | cons x rest ih =>
    refine List.pairwise_cons.2 ⟨fun n hn => ?_, ?_⟩
    · have hne : n ≠ x.name := by simpa using (List.mem_filter.1 hn).2
      rw [List.map_cons, List.idxOf_cons_self, List.idxOf_cons_ne _ hne.symm]
      exact Nat.succ_pos _
    · -- behind the first item everything is one place further on
      refine (ih.filter _).imp_of_mem fun {m n} hm hn hlt => ?_
      have hm' : m ≠ x.name := by simpa using (List.mem_filter.1 hm).2
      have hn' : n ≠ x.name := by simpa using (List.mem_filter.1 hn).2
      rw [List.map_cons, List.idxOf_cons_ne _ hm'.symm, List.idxOf_cons_ne _ hn'.symm]
      exact Nat.succ_lt_succ hlt

/-! ## The table beside the list -/

namespace Groups

/-- What has been gone through is in the list, each name once and in order, and in the table, with
its count and the id that came last. -/
structure Counts (g : Groups) (items : List Item) : Prop where
  order_eq : g.order = firstNames items
  get?_table : ∀ name, g.table.get? name =
    (lastNamed name items).map fun x => ⟨occurrences name items, x.id⟩

/-- To write down one more of a name makes the table the one of the longer scan. -/
theorem Counts.get?_insert {g : Groups} (h : g.Counts items) (x : Item) (name : String) :
    (g.table.insert x.name ⟨occurrences x.name items + 1, x.id⟩).get? name =
      (lastNamed name (items ++ [x])).map fun y => ⟨occurrences name (items ++ [x]), y.id⟩ := by
  rw [Table.get?_insert, h.get?_table, lastNamed_concat, occurrences_concat]
  by_cases hname : x.name = name
  · subst hname
    rw [if_pos rfl, if_pos rfl, if_pos rfl]
    rfl
  · rw [if_neg hname, if_neg hname, if_neg hname]
    rfl

/-- **One more item keeps the list and the table together.** -/
theorem Counts.note {g : Groups} (h : g.Counts items) (x : Item) :
    (g.note x).Counts (items ++ [x]) := by
  have htable := h.get?_insert x
  have hx := h.get?_table x.name
  cases hlast : lastNamed x.name items with
  | none =>
    -- a name that was not seen is not in the table, and is seen now
    have hnew := lastNamed_eq_none_iff.1 hlast
    have hzero : occurrences x.name items = 0 := by
      have := mt occurrences_pos_iff.1 hnew
      omega
    rw [hlast, Option.map_none] at hx
    rw [hzero] at htable
    rw [Groups.note, hx]
    refine ⟨?_, htable⟩
    rw [firstNames_concat, if_neg hnew, h.order_eq]
  | some y =>
    -- a name that was seen keeps its place in the list
    have hold : x.name ∈ items.map (·.name) := by
      by_contra hnew
      rw [lastNamed_eq_none_iff.2 hnew] at hlast
      cases hlast
    rw [hlast, Option.map_some] at hx
    rw [Groups.note, hx]
    refine ⟨?_, htable⟩
    rw [firstNames_concat, if_pos hold]
    exact h.order_eq

/-- **The groups of a scan count it.** -/
theorem counts_ofItems (items : List Item) : (ofItems items).Counts items := by
  -- from the back, as the fold notes one item after the others
  induction items using List.reverseRecOn with
  | nil => exact ⟨rfl, fun _ => rfl⟩
  | append_singleton items x ih =>
    rw [ofItems, List.foldl_append]
    exact ih.note x

/-- **What is taken out of a table is what it held**: to take one name out leaves the others. -/
theorem drain_eq {names : List String} (h : names.Nodup) (table : Table NameGroup) :
    drain names table = names.filterMap fun name => (table.get? name).map (name, ·) := by
  -- along the names; the table gets smaller by those that were taken out before
  induction names generalizing table with
  | nil => rfl
  | cons name rest ih =>
    obtain ⟨hnew, hrest⟩ := List.nodup_cons.1 h
    rw [drain]
    cases hget : table.get? name with
    | none =>
      rw [List.filterMap_cons_none (by rw [hget]; rfl)]
      exact ih hrest table
    | some group =>
      have hothers : ∀ other ∈ rest, ((table.erase name).get? other).map (other, ·) =
          (table.get? other).map (other, ·) := by
        intro other hother
        have hne : name ≠ other := by
          rintro rfl
          exact hnew hother
        rw [Table.get?_erase, if_neg hne]
      rw [List.filterMap_cons_some (b := (name, group)) (by rw [hget]; rfl)]
      simp only [ih hrest]
      rw [List.filterMap_congr hothers]

end Groups

/-- The groups of a scan are its names in order, each with its count and the id that came last. -/
theorem grouped_eq (items : List Item) :
    grouped items = (firstNames items).filterMap fun name =>
      (lastNamed name items).map fun x => (name, ⟨occurrences name items, x.id⟩) := by
  obtain ⟨horder, htable⟩ := Groups.counts_ofItems items
  rw [grouped, horder, Groups.drain_eq (firstNames_spec items).1]
  simp only [htable, Option.map_map]
  rfl

/-! ## What is kept and what is dropped -/

/-- The groups are placed one after the other: those of one item go back into items, and of the
others the names are kept. -/
theorem foldl_place (groups : List (String × NameGroup)) (d : Deduped) :
    groups.foldl (fun d x => d.place x.1 x.2) d =
      ⟨d.unique ++ groups.filterMap fun x => if x.2.count = 1 then some ⟨x.1, x.2.id⟩ else none,
        d.duplicates ++ groups.filterMap fun x => if x.2.count = 1 then none else some x.1⟩ := by
  induction groups generalizing d with
  | nil => simp
  | cons x groups ih =>
    rw [List.foldl_cons, ih]
    by_cases hcount : x.2.count = 1
    · simp [Deduped.place, hcount]
    · simp [Deduped.place, hcount]

/-- **Items whose names occur once are found again by their names**, in order. -/
theorem filterMap_firstNames {p : String → Bool}
    (honce : ∀ name, p name = true → occurrences name items ≤ 1) :
    (firstNames items).filterMap (fun name => if p name then lastNamed name items else none) =
      items.filter (p ·.name) := by
  induction items with
  | nil => rfl
  | cons x rest ih =>
    simp only [occurrences_cons] at honce
    have hih := ih fun name hname => Nat.le_trans (Nat.le_add_right _ _) (honce name hname)
    -- an item whose name occurs once has no other of its name behind it
    have hrest (hp : p x.name = true) : lastNamed x.name rest = none := by
      have hone := honce x.name hp
      rw [if_pos rfl] at hone
      rw [lastNamed_eq_none_iff, ← occurrences_pos_iff]
      omega
    -- the names behind the first one are those of the rest without it
    have hothers : ((firstNames rest).filter (· != x.name)).filterMap
        (fun name => if p name then lastNamed name (x :: rest) else none) =
          rest.filter (p ·.name) := by
      rw [← hih, List.filterMap_filter]
      refine List.filterMap_congr fun name _ => ?_
      by_cases hname : x.name = name
      · subst hname
        by_cases hp : p x.name = true
        · simp [hp, hrest hp]
        · simp [hp]
      · simp [lastNamed_cons_of_ne hname, Ne.symm hname]
    rw [firstNames, List.filterMap_cons, hothers, List.filter_cons]
    by_cases hp : p x.name = true
    · rw [if_pos hp, if_pos hp, lastNamed_cons, hrest hp]
      rfl
    · rw [if_neg hp, if_neg hp]

/-- **The items that a scan keeps are those whose name occurs in it once**, in the order of the
scan. -/
theorem unique_eq (items : List Item) :
    (dedup items).unique = items.filter fun x => occurrences x.name items == 1 := by
  have honce : ∀ name, (occurrences name items == 1) = true → occurrences name items ≤ 1 := by
    intro name hname
    exact Nat.le_of_eq (beq_iff_eq.1 hname)
  rw [dedup, foldl_place, ← filterMap_firstNames honce]
  show (grouped items).filterMap _ = _
  rw [grouped_eq, List.filterMap_filterMap]
  refine List.filterMap_congr fun name _ => ?_
  cases hlast : lastNamed name items with
  | none => simp
  | some x =>
    -- the item that is put together again is the one that was taken apart
    have hitem : (⟨name, x.id⟩ : Item) = x := by rw [← name_of_lastNamed hlast]
    simp [hitem]

/-- **The names that a scan drops are those that occur in it more than once**, in order of first
occurrence. -/
theorem duplicates_eq (items : List Item) :
    (dedup items).duplicates =
      (firstNames items).filter fun name => decide (1 < occurrences name items) := by
  rw [dedup, foldl_place, ← List.filterMap_eq_filter]
  show (grouped items).filterMap _ = _
  rw [grouped_eq, List.filterMap_filterMap]
  refine List.filterMap_congr fun name hname => ?_
  have hmem := ((firstNames_spec items).2 name).1 hname
  have hpos := occurrences_pos_iff.2 hmem
  cases hlast : lastNamed name items with
  | none => exact absurd hmem (lastNamed_eq_none_iff.1 hlast)
  | some x =>
    by_cases hcount : occurrences name items = 1
    · simp [Option.guard, hcount]
    · have hmany : 1 < occurrences name items := by omega
      simp [Option.guard, hcount, hmany]

/-- An item is kept if it is the only one of its name. -/
theorem mem_unique_iff {x : Item} :
    x ∈ (dedup items).unique ↔ x ∈ items ∧ occurrences x.name items = 1 := by
  rw [unique_eq, List.mem_filter, beq_iff_eq]

/-- **No two items that a scan keeps have one name.** -/
theorem nodup_unique_names (items : List Item) : ((dedup items).unique.map (·.name)).Nodup := by
  rw [List.nodup_iff_count_le_one]
  intro name
  by_cases hmem : name ∈ (dedup items).unique.map (·.name)
  · obtain ⟨x, hx, rfl⟩ := List.mem_map.1 hmem
    -- what is kept is a part of the scan, where each of its names occurs once
    have hsub : (dedup items).unique.Sublist items := by
      rw [unique_eq]
      exact List.filter_sublist
    calc ((dedup items).unique.map (·.name)).count x.name
        ≤ (items.map (·.name)).count x.name := (hsub.map _).count_le _
      _ = occurrences x.name items := count_map_name x.name items
      _ = 1 := (mem_unique_iff.1 hx).2
  · rw [List.count_eq_zero_of_not_mem hmem]
    exact Nat.zero_le 1

/-! ## What is left out -/

/-- **The items to save are those that the allow-list lets pass**, and the others are counted. -/
theorem prepare_eq_filterMap (unique : List Item) (c : Credential) (account : String) :
    prepare unique c account =
      ((unique.filterMap (filterRename c)).map (·.keyed account c.region),
        unique.countP fun item => (filterRename c item).isNone) := by
  induction unique with
  | nil => rfl
  | cons item rest ih =>
    rw [prepare, ih]
    cases hitem : filterRename c item with
    | none => simp [hitem]
    | some accepted => simp [hitem]

end GatewayDirectory.Sync
