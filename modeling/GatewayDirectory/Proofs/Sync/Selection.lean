import GatewayDirectory.Proofs.Sync.Conservation

/-!
# Which gateways are saved, and as what

What the pure steps make of a scan, told without their tables and folds. A name is kept if the scan
reports it once, and reported as a duplicate otherwise, in order of first occurrence
(`duplicates_spec`). Of the gateways kept those that the allow-list lets pass are saved, in order,
each as `Credential.itemFor` says (`prepare_eq`). `selection_exact` puts this together and adds that
the order of the scan decides the order of what comes out, and nothing else.
-/

namespace GatewayDirectory.Sync

/-! ## What is reported as duplicate -/

/-- **The duplicates of a scan are the names it reports twice or more often**, in order of first
occurrence. -/
theorem duplicates_spec (items : List Item) :
    (∀ name, name ∈ (dedup items).duplicates ↔ 2 ≤ occurrences name items) ∧
      (dedup items).duplicates.Pairwise fun m n =>
        (items.map (·.name)).idxOf m < (items.map (·.name)).idxOf n := by
  rw [duplicates_eq]
  refine ⟨fun name => ?_, (firstNames_order items).filter _⟩
  rw [List.mem_filter, (firstNames_spec items).2, ← occurrences_pos_iff, decide_eq_true_iff]
  omega

/-! ## What a gateway is saved as -/

/-- The first text given that is not empty. -/
def firstGiven (texts : List (Option String)) : Option String :=
  (texts.filterMap id).find? (· ≠ "")

/-- Whether an allow-list lets a gateway pass: it names the gateway, or it names none at all. -/
def Credential.passes (c : Credential) (x : Item) : Bool :=
  c.only.isEmpty || (c.only.get? x.name).isSome

/-- What a gateway that passes is saved as: under its new name or else its own, with its own token
or else the usual one. An allow-list that is empty gives neither name nor token. -/
def Credential.itemFor (c : Credential) (account : String) (x : Item) : SyncItem :=
  let spec := c.only.get? x.name
  let name := (firstGiven [spec.bind (·.rename)]).getD x.name
  { key := account ++ ":" ++ c.region ++ ":" ++ name
    id := x.id
    token := firstGiven [spec.bind (·.token), c.defaultToken] }

/-- A text that is not empty is the first one given. -/
theorem filter_ne_empty (text : Option String) : text.filter (· != "") = firstGiven [text] := by
  cases text with
  | none => rfl
  | some s => by_cases hs : s = "" <;> simp [firstGiven, hs]

/-- Of two texts the second one counts if the first one is empty or not there. -/
theorem nonEmpty_or (a b : Option String) : (nonEmpty a).or (nonEmpty b) = firstGiven [a, b] := by
  rw [nonEmpty, nonEmpty, filter_ne_empty, filter_ne_empty]
  cases a with
  | none => rfl
  | some s => by_cases hs : s = "" <;> simp [firstGiven, hs]

/-- **The allow-list decides what passes, and as what it is saved.** -/
theorem keyed_filterRename (c : Credential) (account : String) (x : Item) :
    (filterRename c x).map (·.keyed account c.region) =
      if c.passes x then some (c.itemFor account x) else none := by
  unfold filterRename Credential.passes Credential.itemFor
  -- an allow-list that is empty lets everything pass under its own name
  cases hempty : c.only.isEmpty with
  | true =>
    rw [get?_of_isEmpty hempty, nonEmpty, filter_ne_empty]
    rfl
  | false =>
    cases hspec : c.only.get? x.name with
    | none => rfl
    | some spec =>
      simp only [Bool.false_eq_true, ↓reduceIte, Option.map_some, Accepted.keyed, composeKey,
        nonEmpty_or, RenameSpec.target, filter_ne_empty, Option.bind_some, Option.isSome_some,
        Bool.or_true]

/-- **The items to save are those of the gateways that pass**, in order; the others are counted. -/
theorem prepare_eq (unique : List Item) (c : Credential) (account : String) :
    prepare unique c account =
      ((unique.filter c.passes).map (c.itemFor account), unique.countP (!c.passes ·)) := by
  rw [prepare_eq_filterMap, List.map_filterMap]
  congr 1
  · -- item by item, `keyed_filterRename` says what becomes of it
    rw [← List.filterMap_eq_map, List.filterMap_filter]
    exact List.filterMap_congr fun x _ => keyed_filterRename c account x
  · refine List.countP_congr fun x _ => ?_
    -- what is left out is what does not pass
    have hkeyed := congrArg Option.isNone (keyed_filterRename c account x)
    rw [Option.isNone_map] at hkeyed
    rw [hkeyed]
    cases c.passes x <;> simp

/-! ## Scans in another order -/

section Order

variable {items items' : List Item}

/-- How often a name occurs does not depend on the order. -/
theorem occurrences_perm (h : items'.Perm items) (name : String) :
    occurrences name items' = occurrences name items :=
  h.countP_eq _

/-- Scans that differ in order keep the same items. -/
theorem unique_perm (h : items'.Perm items) : (dedup items').unique.Perm (dedup items).unique := by
  rw [unique_eq, unique_eq]
  simp only [occurrences_perm h]
  exact h.filter _

/-- Scans that differ in order report the same duplicates. -/
theorem duplicates_perm (h : items'.Perm items) :
    (dedup items').duplicates.Perm (dedup items).duplicates := by
  -- each is named once, so it is enough that both name the same
  have hnodup (l : List Item) : (dedup l).duplicates.Nodup := by
    rw [duplicates_eq]
    exact (firstNames_spec l).1.filter _
  refine (List.perm_ext_iff_of_nodup (hnodup _) (hnodup _)).2 fun name => ?_
  rw [(duplicates_spec items').1, (duplicates_spec items).1, occurrences_perm h]

/-- Items to save that differ in order come of gateways that do. -/
theorem prepare_perm {unique unique' : List Item} (h : unique'.Perm unique) (c : Credential)
    (account : String) :
    (prepare unique' c account).1.Perm (prepare unique c account).1 ∧
      (prepare unique' c account).2 = (prepare unique c account).2 := by
  rw [prepare_eq, prepare_eq]
  exact ⟨(h.filter _).map _, h.countP_eq _⟩

end Order

/-! ## The whole selection -/

/-- What is kept of a scan, what is reported as duplicate, what is to be saved and how much is left
out. -/
structure SelectionLaw (items : List Item) (c : Credential) (account : String) (kept : Deduped)
    (saved : List SyncItem) (leftOut : Nat) : Prop where
  /-- Names that occur once, in the order of the scan. -/
  unique_eq : kept.unique = items.filter fun x => (items.map (·.name)).count x.name = 1
  duplicates_iff : ∀ name, name ∈ kept.duplicates ↔ 2 ≤ (items.map (·.name)).count name
  /-- Each of them once, in order of first occurrence. -/
  duplicates_order : kept.duplicates.Pairwise fun m n =>
    (items.map (·.name)).idxOf m < (items.map (·.name)).idxOf n
  saved_eq : saved = (kept.unique.filter c.passes).map (c.itemFor account)
  leftOut_eq : leftOut + saved.length = kept.unique.length

/-- **What a scan comes to is decided by it exactly**, whatever the credential and the account: the
gateways whose names occur once and pass the allow-list are saved under their new names, in order.
A scan that reports the same in another order comes to the same items to save, the same duplicates
and the same number left out. -/
theorem selection_exact (items items' : List Item) (c : Credential) (account : String)
    (h : items'.Perm items) :
    let kept := dedup items
    let kept' := dedup items'
    let prepared := prepare kept.unique c account
    let prepared' := prepare kept'.unique c account
    SelectionLaw items c account kept prepared.1 prepared.2 ∧
      prepared'.1.Perm prepared.1 ∧ kept'.duplicates.Perm kept.duplicates ∧
      prepared'.2 = prepared.2 := by
  intro kept kept' prepared prepared'
  obtain ⟨hitems, hcount⟩ := prepare_perm (unique_perm h) c account
  refine ⟨⟨?_, fun name => ?_, (duplicates_spec items).2, ?_, ?_⟩, hitems, duplicates_perm h,
    hcount⟩
  · rw [Sync.unique_eq]
    refine List.filter_congr fun x _ => ?_
    rw [count_map_name]
    rfl
  · rw [count_map_name]
    exact (duplicates_spec items).1 name
  · exact congrArg Prod.fst (prepare_eq _ c account)
  · show (prepare _ c account).2 + (prepare _ c account).1.length = _
    -- those that pass and those that do not are all that were kept
    rw [prepare_eq, List.length_map, ← List.countP_eq_length_filter, Nat.add_comm,
      List.length_eq_countP_add_countP c.passes]
    simp only [Bool.not_eq_true, Bool.decide_eq_false]

/-- A scan with two repeated names, read from either end: `edge` gets the name and the token of its
entry, the texts of the entry for `site` are empty, and `lone` is not listed. -/
theorem selection_exact_of_reverse :
    let items : List Item := [⟨"b", "1"⟩, ⟨"a", "2"⟩, ⟨"b", "3"⟩, ⟨"site", "4"⟩, ⟨"edge", "5"⟩,
      ⟨"a", "6"⟩, ⟨"lone", "7"⟩]
    let c : Credential := ⟨"arn:aws:iam::1:role/r", "eu", none, some "usual", .ofList
      [("edge", ⟨some "core", some "own"⟩), ("site", ⟨some "", some ""⟩)]⟩
    let saved : List SyncItem := [⟨"1:eu:site", "4", some "usual"⟩, ⟨"1:eu:core", "5", some "own"⟩]
    items.reverse.Perm items ∧ SelectionLaw items c "1" (dedup items) saved 1 ∧
      (dedup items).duplicates = ["b", "a"] ∧ (dedup items.reverse).duplicates = ["a", "b"] ∧
      (prepare (dedup items.reverse).unique c "1").1.Perm saved ∧
      (dedup items.reverse).duplicates.Perm (dedup items).duplicates ∧
      (prepare (dedup items.reverse).unique c "1").2 = 1 := by
  intro items c saved
  have hperm : items.reverse.Perm items := items.reverse_perm
  have hprepare : prepare (dedup items).unique c "1" = (saved, 1) := by decide +kernel
  obtain ⟨hlaw, hsaved, hduplicates, hleftOut⟩ := selection_exact items items.reverse c "1" hperm
  rw [hprepare] at hlaw hsaved hleftOut
  exact ⟨hperm, hlaw, by decide +kernel, by decide +kernel, hsaved, hduplicates, hleftOut⟩

end GatewayDirectory.Sync
