import GatewayDirectory.Proofs.Sync.Grouping
import GatewayDirectory.Proofs.Sync.Validation
import Mathlib.Data.List.Pairwise

/-!
# Keys of prepared items

Which prepared items of a credential share a key. A name that a scan keeps occurs in it once
(`nodup_unique_names`), and the rename targets of a valid list of credentials are told apart
(`target_inj`). So two kept gateways end up under one name only if one of them is renamed to the
name of the other, and the other keeps its own (`Credential.Clash`); with that exception every item
has a key of its own (`nodup_keys_iff`).
-/

namespace GatewayDirectory.Sync

/-! ## Rename targets of a valid configuration -/

/-- **In a valid list of credentials no two names of an allow-list have one rename target.** -/
theorem target_inj {credentials : List Credential} {c : Credential}
    (hvalid : validate credentials = .ok ()) (hc : c ∈ credentials) {a b target : String}
    {spec other : RenameSpec} (ha : c.only.get? a = some spec) (hb : c.only.get? b = some other)
    (hspec : spec.target = some target) (hother : other.target = some target) : a = b := by
  -- the targets of one credential are among those of all
  have hnodup : (c.only.toList.filterMap (·.2.target)).Nodup := by
    have hall := ((validate_eq_ok_iff credentials).1 hvalid).2
    rw [targets, List.filterMap_flatMap, List.filter_flatMap] at hall
    have hown := (List.nodup_flatMap.1 hall).1 c hc
    rwa [Table.values, List.filterMap_map, List.filter_filterMap] at hown
  have hpair := List.pairwise_filterMap.1 hnodup
  -- two entries with one target would be a repetition among the targets
  by_contra hne
  have : Std.Symm fun x y : String × RenameSpec =>
      ∀ t, x.2.target = some t → ∀ u, y.2.target = some u → t ≠ u :=
    ⟨fun x y hxy t hy u hx => (hxy u hx t hy).symm⟩
  exact hpair.forall (Table.mem_toList_iff.2 ha) (Table.mem_toList_iff.2 hb)
    (fun h => hne (congrArg Prod.fst h)) target hspec target hother rfl

/-! ## Names under which gateways are saved -/

section Names

variable {c : Credential} {x y : Item} {a b : Accepted}

/-- `x` is renamed to the name of `y`, which is listed and keeps its own. -/
def Credential.Clash (c : Credential) (x y : Item) : Prop :=
  (c.only.get? x.name).bind (·.target) = some y.name ∧
    (c.only.get? y.name).map (·.target) = some none

instance (c : Credential) (x y : Item) : Decidable (c.Clash x y) :=
  inferInstanceAs (Decidable (_ ∧ _))

/-- An allow-list that is empty lists nothing. -/
theorem get?_of_isEmpty {t : Table RenameSpec} (h : t.isEmpty = true) (name : String) :
    t.get? name = none := by
  rw [Table.isEmpty, List.isEmpty_iff] at h
  rw [Table.get?, h, Increasing.get?]

/-- A gateway is saved under the rename target of its name, or else under its own. -/
theorem name_of_filterRename (h : filterRename c x = some a) :
    a.name = ((c.only.get? x.name).bind (·.target)).getD x.name := by
  unfold filterRename at h
  split at h
  · rename_i hempty
    cases h
    rw [get?_of_isEmpty hempty, Option.bind_none, Option.getD_none]
  · split at h
    · cases h
    · rename_i spec hspec
      cases h
      rw [hspec, Option.bind_some]

/-- Where the allow-list names one gateway, it names every gateway that passes. -/
theorem listed_of_filterRename {spec : RenameSpec} {name : String}
    (hlisted : c.only.get? name = some spec) (h : filterRename c x = some a) :
    ∃ own, c.only.get? x.name = some own := by
  unfold filterRename at h
  split at h
  · rename_i hempty
    rw [get?_of_isEmpty hempty] at hlisted
    cases hlisted
  · split at h
    · cases h
    · exact ⟨_, ‹_›⟩

/-- A gateway that the allow-list names passes. -/
theorem filterRename_of_listed {spec : RenameSpec} (h : c.only.get? x.name = some spec) :
    ∃ a, filterRename c x = some a := by
  unfold filterRename
  split
  · exact ⟨_, rfl⟩
  · rw [h]
    exact ⟨_, rfl⟩

/-- One of two gateways that clash is renamed, the other is not. -/
theorem Credential.Clash.ne (h : c.Clash x y) : x ≠ y := by
  rintro rfl
  obtain ⟨own, hown, hnone⟩ := Option.map_eq_some_iff.1 h.2
  have htarget := h.1
  rw [hown, Option.bind_some, hnone] at htarget
  cases htarget

/-- **Two gateways that clash are saved under one name.** -/
theorem Credential.Clash.name_eq (h : c.Clash x y) :
    ∃ a b, filterRename c x = some a ∧ filterRename c y = some b ∧ a.name = b.name := by
  obtain ⟨spec, hspec, -⟩ := Option.bind_eq_some_iff.1 h.1
  obtain ⟨own, hown, hnone⟩ := Option.map_eq_some_iff.1 h.2
  obtain ⟨a, ha⟩ := filterRename_of_listed hspec
  obtain ⟨b, hb⟩ := filterRename_of_listed hown
  refine ⟨a, b, ha, hb, ?_⟩
  rw [name_of_filterRename ha, name_of_filterRename hb, h.1, hown, Option.bind_some, hnone]
  rfl

/-- **Two gateways of different names are saved under one name only if they clash.** -/
theorem clash_of_name_eq (hinj : ∀ m n target spec other, c.only.get? m = some spec →
      c.only.get? n = some other → spec.target = some target → other.target = some target → m = n)
    (hx : filterRename c x = some a) (hy : filterRename c y = some b) (hne : x.name ≠ y.name)
    (hname : a.name = b.name) : c.Clash x y ∨ c.Clash y x := by
  rw [name_of_filterRename hx, name_of_filterRename hy] at hname
  -- each of the two is renamed or keeps its name; the name they share decides between them
  cases htx : (c.only.get? x.name).bind (·.target) with
  | none =>
    cases hty : (c.only.get? y.name).bind (·.target) with
    | none =>
      -- both keep their names, which differ
      rw [htx, hty] at hname
      exact absurd hname hne
    | some target =>
      rw [htx, hty] at hname
      obtain ⟨spec, hspec, -⟩ := Option.bind_eq_some_iff.1 hty
      obtain ⟨own, hown⟩ := listed_of_filterRename hspec hx
      rw [hown] at htx
      cases hname
      exact .inr ⟨hty, by rw [hown, Option.map_some, ← htx, Option.bind_some]⟩
  | some target =>
    obtain ⟨spec, hspec, htarget⟩ := Option.bind_eq_some_iff.1 htx
    cases hty : (c.only.get? y.name).bind (·.target) with
    | none =>
      rw [htx, hty] at hname
      obtain ⟨own, hown⟩ := listed_of_filterRename hspec hy
      rw [hown] at hty
      cases hname
      exact .inl ⟨htx, by rw [hown, Option.map_some, ← hty, Option.bind_some]⟩
    | some other =>
      -- both are renamed, and targets are told apart
      rw [htx, hty] at hname
      obtain ⟨spec', hspec', htarget'⟩ := Option.bind_eq_some_iff.1 hty
      cases hname
      exact absurd (hinj _ _ _ _ _ hspec hspec' htarget htarget') hne

end Names

/-! ## Keys -/

/-- Within an account and a region a key tells the name. -/
theorem composeKey_inj {account region m n : String} :
    composeKey account region m = composeKey account region n ↔ m = n := by
  simp [composeKey]

/-- The keys of the items to save, item by item. -/
theorem keys_prepare (unique : List Item) (c : Credential) (account : String) :
    (prepare unique c account).1.map (·.key) =
      unique.filterMap fun x =>
        (filterRename c x).map fun a => composeKey account c.region a.name := by
  simp only [prepare_eq_filterMap, List.map_filterMap, Option.map_map]
  rfl

/-- **Every prepared gateway has a key of its own, unless two clash.** For a credential of a valid
list, any scan and any account, no two items to save have one key, exactly when no gateway that the
scan keeps is renamed to the name of another that the allow-list lets keep its own. -/
theorem nodup_keys_iff (credentials : List Credential) (c : Credential) (items : List Item)
    (account : String) (hvalid : validate credentials = .ok ()) (hc : c ∈ credentials) :
    ((prepare (dedup items).unique c account).1.map (·.key)).Nodup ↔
      ∀ x ∈ (dedup items).unique, ∀ y ∈ (dedup items).unique, ¬ c.Clash x y := by
  have hnames : (dedup items).unique.Pairwise fun x y => x.name ≠ y.name :=
    List.pairwise_map.1 (nodup_unique_names items)
  rw [keys_prepare, List.Nodup, List.pairwise_filterMap]
  constructor
  · intro hkeys x hx y hy hclash
    obtain ⟨a, b, ha, hb, hname⟩ := hclash.name_eq
    have hsymm : Std.Symm fun x y : Item =>
        ∀ k, (filterRename c x).map (fun a => composeKey account c.region a.name) = some k →
        ∀ l, (filterRename c y).map (fun a => composeKey account c.region a.name) = some l →
          k ≠ l :=
      ⟨fun x y hxy k hk l hl => (hxy l hl k hk).symm⟩
    exact hkeys.forall hx hy hclash.ne _ (by rw [ha]; rfl) _ (by rw [hb]; rfl)
      (composeKey_inj.2 hname)
  · intro hclash
    refine hnames.imp_of_mem fun {x y} hx hy hne k hk l hl hkl => ?_
    obtain ⟨a, ha, rfl⟩ := Option.map_eq_some_iff.1 hk
    obtain ⟨b, hb, rfl⟩ := Option.map_eq_some_iff.1 hl
    rcases clash_of_name_eq (fun _ _ _ _ _ => target_inj hvalid hc) ha hb hne
      (composeKey_inj.1 hkl) with h | h
    · exact hclash x hx y hy h
    · exact hclash y hy x hx h

/-- Of two scans with one allow-list only the second finds both `edge`, which is renamed to `core`,
and `core`: there the keys meet. -/
theorem nodup_keys_iff_of_rename :
    let c : Credential := ⟨"arn:aws:iam::1:role/r", "eu", none, none, .ofList
      [("edge", ⟨some "core", none⟩), ("core", .empty), ("site", ⟨some "", none⟩)]⟩
    let keys (items : List Item) := (prepare (dedup items).unique c "1").1.map (·.key)
    validate [c] = .ok () ∧ c ∈ [c] ∧
      (keys [⟨"edge", "a"⟩, ⟨"core", "b"⟩, ⟨"core", "c"⟩, ⟨"site", "d"⟩]).Nodup ∧
      ¬ (keys [⟨"edge", "a"⟩, ⟨"core", "b"⟩, ⟨"site", "d"⟩]).Nodup := by
  intro c keys
  have hvalid : validate [c] = .ok () := by decide +kernel
  have hc : c ∈ [c] := List.mem_singleton_self c
  refine ⟨hvalid, hc, (nodup_keys_iff [c] c _ "1" hvalid hc).2 ?_, fun h => ?_⟩
  · -- the scan drops `core`, so that no gateway keeps a name that is a target
    decide +kernel
  · have hclash : c.Clash ⟨"edge", "a"⟩ ⟨"core", "b"⟩ := by decide +kernel
    exact (nodup_keys_iff [c] c _ "1" hvalid hc).1 h _ (by decide +kernel) _ (by decide +kernel)
      hclash

/-- **A rename target is not kept apart from the names that stay.** The list of credentials is
valid, and yet two gateways that a scan finds get one key. -/
theorem keys_meet :
    let c : Credential := ⟨"arn:aws:iam::1:role/r", "eu", none, none, .ofList
      [("edge", ⟨some "core", none⟩), ("core", .empty)]⟩
    let items : List Item := [⟨"edge", "1"⟩, ⟨"core", "2"⟩]
    validate [c] = .ok () ∧ c ∈ [c] ∧
      (prepare (dedup items).unique c "1").1 = [⟨"1:eu:core", "1", none⟩, ⟨"1:eu:core", "2", none⟩] ∧
      ¬ ((prepare (dedup items).unique c "1").1.map (·.key)).Nodup := by
  decide +kernel

end GatewayDirectory.Sync
