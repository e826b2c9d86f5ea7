import GatewayDirectory.Proofs.Sync.Conservation
import GatewayDirectory.Proofs.Sync.Listing
import GatewayDirectory.Proofs.Sync.Writes

/-!
# What discovery leaves in a directory

A cycle over the items of a listing, saved into a directory that is a store, makes the writes of the
items that its credentials offer, each item's once and in order (`Discovery.exists_visitsAll`): no
page is listed twice or left out, and an item that the directory does not take leaves it as it is,
however often it is tried.
-/

namespace GatewayDirectory

open Directory

/-- Each call to the directory is answered at once, as the store in its state answers it at some
time of a clock. -/
def Directory.IsStore {σ : Type} (d : Directory σ) (store : σ → Store) : Prop :=
  ∀ c t s, ∃ now s',
    (d c).Ends t s ((store s).answer now c).1 t s' ∧ store s' = ((store s).answer now c).2

/-- The directory over a store that is part of a state is that store. -/
theorem Store.isStore_directory {σ : Type} (clock : σ → Instant) {part : Part σ Store}
    (hpart : part.Lawful) : (Store.directory clock part).IsStore part.get := by
  intro c t s
  refine ⟨clock s, _, (Timed.Answers.update _ s).ends t, ?_⟩
  exact hpart.get_set _ _

namespace Sync

/-! ## What a credential offers -/

/-- A token that is kept is not empty. -/
theorem nonEmpty_ne (token : Option String) : nonEmpty token ≠ some "" := by
  intro h
  have hkept := Option.filter_eq_some_iff.1 h
  exact absurd hkept.2 (by decide)

/-- No prepared item has an empty token. -/
theorem token_ne_of_mem_itemsOf {c : Credential} {account : String} {collected : List Item}
    {i : SyncItem} (h : i ∈ itemsOf c account collected) : i.token ≠ some "" := by
  rw [itemsOf, prepare_eq_filterMap] at h
  obtain ⟨a, ha, rfl⟩ := List.mem_map.1 h
  obtain ⟨x, -, hx⟩ := List.mem_filterMap.1 ha
  unfold filterRename at hx
  by_cases hempty : c.only.isEmpty = true
  · rw [if_pos hempty] at hx
    cases hx
    exact nonEmpty_ne _
  · rw [if_neg hempty] at hx
    cases hspec : c.only.get? x.name with
    | none =>
      rw [hspec] at hx
      cases hx
    | some spec =>
      rw [hspec] at hx
      cases hx
      show (nonEmpty spec.token).or (nonEmpty c.defaultToken) ≠ some ""
      cases htoken : nonEmpty spec.token with
      | none => exact nonEmpty_ne _
      | some token =>
        intro heq
        exact nonEmpty_ne spec.token (htoken.trans heq)

/-- The items to save of a credential whose account is in its role, out of a listing; none if the
role is malformed. -/
def Listing.offered (l : Listing) (c : Credential) : List SyncItem :=
  match accountOfArn c.role with
  | .ok account => Sync.itemsOf c account (l.itemsOf c.role)
  | .error _ => []

/-! ## Saves into a store -/

section Saves

variable {σ : Type} {d : Directory σ} {store : σ → Store} {i : SyncItem}

/-- An item that the directory takes is saved at once, by its writes. -/
theorem save_stored (hd : d.IsStore store) (hi : i.isStorable = true) (htoken : i.token ≠ some "")
    (t : Nat) (s : σ) :
    ∃ s' calls, ((Sink.direct d).save i.key i.id i.token).Ends t s (.ok ()) t s' ∧
      calls.map (·.2) = i.writes ∧ store s' = (store s).run calls := by
  obtain ⟨hvalid, hid⟩ := SyncItem.isStorable_iff.1 hi
  have hkept : i.token.filter (· != "") = i.token := by
    cases htok : i.token with
    | none => rfl
    | some token =>
      rw [Option.filter_some, if_pos]
      exact bne_iff_ne.2 fun h => htoken (by rw [htok, h])
  obtain ⟨now, s₁, hput, hs₁⟩ := hd (.putAuthorized i.key i.id (i.token.filter (· != ""))) t s
  rw [Store.answer, Store.put_of_valid hvalid hid] at hput hs₁
  have hwrite : ((store s).answer now (.put i.key i.id)).2 = store s₁ := by
    rw [hs₁, Store.answer, Store.put_of_valid hvalid hid]
  cases htok : i.token with
  | none =>
    refine ⟨s₁, [(now, .put i.key i.id)], ?_, ?_, ?_⟩
    · rw [← htok]
      refine hput.bind (.reported _ ?_)
      rw [hkept, htok]
      exact .pure _ t s₁
    · rw [SyncItem.writes, if_pos hi, htok]
      rfl
    · rw [Store.run, Store.run, hwrite]
  | some token =>
    -- the entry that the write left is there to be bound
    obtain ⟨now', s₂, hbind, hs₂⟩ := hd (.putTokenAuthorized i.key token (some token)) t s₁
    have hget : (store s₁).get? i.key = some ((store s).written now i.key i.id) := by
      rw [hs₁, Table.get?_insert_self]
    rw [Store.answer, Store.putToken_of_some hget] at hbind hs₂
    refine ⟨s₂, [(now, .put i.key i.id), (now', .putToken i.key token)], ?_, ?_, ?_⟩
    · rw [← htok]
      refine hput.bind (.reported _ ?_)
      rw [hkept, htok]
      exact hbind.bind (.pure _ t s₂)
    · rw [SyncItem.writes, if_pos hi, htok]
      rfl
    · rw [Store.run, hwrite, Store.run, Store.run, Store.answer, Store.putToken_of_some hget, hs₂]

/-- An item that the directory does not take is refused at once, and the store stays. -/
theorem save_refused (hd : d.IsStore store) (hi : ¬ i.isStorable = true) (t : Nat) (s : σ) :
    ∃ e s', ((Sink.direct d).save i.key i.id i.token).Ends t s (.error e) t s' ∧
      store s' = store s := by
  obtain ⟨now, s₁, hput, hs₁⟩ :=
    hd (.putAuthorized i.key i.id (i.token.filter (· != ""))) t s
  rw [SyncItem.isStorable_iff] at hi
  obtain ⟨e, he⟩ := Store.put_of_not_valid (store s) now hi
  rw [Store.answer, he] at hput hs₁
  exact ⟨.directory e, s₁, hput.bind ((Timed.Answers.pure _ s₁).ends t), hs₁⟩

end Saves

/-! ## Cycles -/

/-- What propagates the items of a listing into a directory. -/
def Propagator.discovery {σ : Type} (l : Listing) (d : Directory σ) (options : Options)
    (clock : σ → Instant) (pageBudget : Nat) : Propagator σ :=
  ⟨.arn, l.inventory, .direct d, options, clock, pageBudget⟩

namespace Discovery

section Cycle

variable {σ : Type} {l : Listing} {d : Directory σ} {store : σ → Store} {options : Options}
  {clock : σ → Instant} {budget : Nat} {c : Credential} {i : SyncItem}

/-- However often an item that the directory does not take is tried, the store stays. -/
theorem attemptSave_refused (hd : d.IsStore store) (hi : ¬ i.isStorable = true)
    (left attempt t : Nat) (s : σ) :
    ∃ e t' s', ((Propagator.discovery l d options clock budget).attemptSave i left attempt).Ends t s
      (.error e) t' s' ∧ store s' = store s := by
  -- along the attempts that are left, each of which is refused at once
  induction left generalizing attempt t s with
  | zero =>
    obtain ⟨e, s₁, hsave, hs₁⟩ := save_refused hd hi t s
    have hcall := hsave.bounded (Nat.le_add_right t options.callTimeout)
    exact ⟨e, t, s₁, Propagator.attemptSave_abandoned hcall rfl, hs₁⟩
  | succ left ih =>
    obtain ⟨e, s₁, hsave, hs₁⟩ := save_refused hd hi t s
    have hcall := hsave.bounded (Nat.le_add_right t options.callTimeout)
    obtain ⟨e', t', s', hrest, hs'⟩ := ih (attempt + 1) (t + options.retryInterval) s₁
    exact ⟨e', t', s', Propagator.attemptSave_retried hcall rfl hrest, hs'.trans hs₁⟩

/-- **An item is saved exactly if the directory takes it**, and its writes are made once. -/
theorem exists_saves (hd : d.IsStore store) (hdry : options.dryRun = false)
    (htoken : i.token ≠ some "") (t : Nat) (s : σ) :
    ∃ e t' s' calls, (Propagator.discovery l d options clock budget).Saves i t s e t' s' ∧
      e.error.isNone = i.isStorable ∧ calls.map (·.2) = i.writes ∧
      store s' = (store s).run calls := by
  -- an item that is taken is saved with the first attempt, any other is given up
  by_cases hi : i.isStorable = true
  · obtain ⟨s', calls, hsave, hcalls, hs'⟩ := save_stored hd hi htoken t s
    have hcall := hsave.bounded (Nat.le_add_right t options.callTimeout)
    exact ⟨_, t, s', calls, .saved hdry (Propagator.attemptSave_saved hcall rfl), hi.symm, hcalls,
      hs'⟩
  · obtain ⟨e, t', s', hsave, hs'⟩ := attemptSave_refused hd hi (max options.retry 1 - 1) 1 t s
    refine ⟨_, t', s', [], .abandoned hdry hsave, ?_, ?_, hs'⟩
    · rw [Bool.not_eq_true] at hi
      rw [hi]
      rfl
    · rw [SyncItem.writes, if_neg hi]
      rfl

/-- **Items are saved one after the other**, those that the directory takes by their writes. -/
theorem exists_savesAll (hd : d.IsStore store) (hdry : options.dryRun = false)
    {items : List SyncItem} (htokens : ∀ i ∈ items, i.token ≠ some "") (t : Nat) (s : σ) :
    ∃ efforts t' s' calls,
      (Propagator.discovery l d options clock budget).SavesAll items t s efforts t' s' ∧
      efforts.map (·.error.isNone) = items.map (·.isStorable) ∧
      calls.map (·.2) = items.flatMap SyncItem.writes ∧ store s' = (store s).run calls := by
  induction items generalizing t s with
  | nil => exact ⟨[], t, s, [], .nil, rfl, rfl, rfl⟩
  | cons i items ih =>
    obtain ⟨hfirst, hothers⟩ := List.forall_mem_cons.1 htokens
    obtain ⟨e, t₁, s₁, calls, first, he, hcalls, hs₁⟩ := exists_saves hd hdry hfirst t s
    obtain ⟨efforts, t', s', more, rest, hefforts, hmore, hs'⟩ := ih hothers t₁ s₁
    refine ⟨e :: efforts, t', s', calls ++ more, .cons first rest, ?_, ?_, ?_⟩
    · rw [List.map_cons, List.map_cons, he, hefforts]
    · rw [List.map_append, hcalls, hmore, List.flatMap_cons]
    · rw [hs', hs₁, Store.run_append]

/-- **A credential is visited with the items that it offers**, and their writes are made once. -/
theorem exists_visits (hd : d.IsStore store) (hdry : options.dryRun = false)
    (hsize : 0 < l.pageSize) (hsmall : (l.itemsOf c.role).length ≤ UInt64.size)
    (hbudget : (l.itemsOf c.role).length < budget) (t : Nat) (s : σ) :
    ∃ v t' s' calls, (Propagator.discovery l d options clock budget).Visits c t s v t' s' ∧
      v.efforts.map (·.error.isNone) = (l.offered c).map (·.isStorable) ∧
      calls.map (·.2) = (l.offered c).flatMap SyncItem.writes ∧ store s' = (store s).run calls := by
  have hlookup : (Timed.bounded options.callTimeout (AccountResolver.arn c)).Ends t s
      (some (accountOfArn c.role)) t s := ((Timed.Answers.pure _ s).bounded _).ends t
  -- what is offered depends on whether the role tells an account
  unfold Listing.offered
  cases haccount : accountOfArn c.role with
  | error e =>
    rw [haccount] at hlookup
    exact ⟨_, t, s, [], .unknown hlookup rfl, rfl, rfl, rfl⟩
  | ok account =>
    rw [haccount] at hlookup
    have hscan : ((Propagator.discovery l d options clock budget).scan c).Ends t s
        ⟨l.itemsOf c.role, none⟩ t s := Listing.scan_inventory rfl hsize hsmall hbudget t s
    have htokens (i : SyncItem) (hi : i ∈ Sync.itemsOf c account (l.itemsOf c.role)) :=
      token_ne_of_mem_itemsOf hi
    obtain ⟨efforts, t', s', calls, hsaves, hefforts, hcalls, hs'⟩ :=
      exists_savesAll hd hdry htokens t s
    exact ⟨_, t', s', calls, .scanned hlookup hscan hsaves, hefforts, hcalls, hs'⟩

variable (clock) in
/-- **A cycle makes the writes of what its credentials offer**, in order, each once. -/
theorem exists_visitsAll (hd : d.IsStore store) (hdry : options.dryRun = false)
    (hsize : 0 < l.pageSize) {credentials : List Credential}
    (hsmall : ∀ c ∈ credentials, (l.itemsOf c.role).length ≤ UInt64.size)
    (hbudget : ∀ c ∈ credentials, (l.itemsOf c.role).length < budget) (t : Nat) (s : σ) :
    ∃ visits t' s' calls,
      (Propagator.discovery l d options clock budget).VisitsAll credentials t s visits t' s' ∧
      (visits.flatMap (·.efforts)).map (·.error.isNone) =
        (credentials.flatMap l.offered).map (·.isStorable) ∧
      calls.map (·.2) = (credentials.flatMap l.offered).flatMap SyncItem.writes ∧
      store s' = (store s).run calls := by
  -- along the credentials; each visit goes on from the store that the one before left
  induction credentials generalizing t s with
  | nil => exact ⟨[], t, s, [], .nil, rfl, rfl, rfl⟩
  | cons c credentials ih =>
    obtain ⟨hsmall, hsmalls⟩ := List.forall_mem_cons.1 hsmall
    obtain ⟨hbudget, hbudgets⟩ := List.forall_mem_cons.1 hbudget
    obtain ⟨v, t₁, s₁, calls, first, hv, hcalls, hs₁⟩ :=
      exists_visits hd hdry hsize hsmall hbudget t s
    obtain ⟨visits, t', s', more, rest, hvisits, hmore, hs'⟩ := ih hsmalls hbudgets t₁ s₁
    refine ⟨v :: visits, t', s', calls ++ more, .cons first rest, ?_, ?_, ?_⟩
    · rw [List.flatMap_cons, List.flatMap_cons, List.map_append, List.map_append, hv, hvisits]
    · rw [List.map_append, hcalls, hmore, List.flatMap_cons, List.flatMap_append]
    · rw [hs', hs₁, Store.run_append]

end Cycle

/-- The items saved and the items given up of visits are counted in their outcomes. -/
theorem saved_total (visits : List Visit) :
    (Outcome.total (visits.map (·.outcome))).saved =
        ((visits.flatMap (·.efforts)).map (·.error.isNone)).countP id ∧
      (Outcome.total (visits.map (·.outcome))).failed =
        ((visits.flatMap (·.efforts)).map (·.error.isNone)).countP (!·) := by
  have hfailed (e : Effort) : e.error.isSome = !e.error.isNone := by
    cases e.error <;> rfl
  simp only [Outcome.total_eq, List.map_map, List.countP_map, List.countP_flatMap]
  constructor
  · rfl
  · congr 1
    refine List.map_congr_left fun v _ => ?_
    exact List.countP_congr fun e _ => by rw [hfailed e]; rfl

end Discovery

/-- **What a cycle of discovery leaves in a directory.** Whatever the size of the pages, the number
of attempts, the credentials and what the directory holds at first, the cycle leaves the store that
one pass over the offered items makes, with one write of the id and one of the token for each item
that the directory takes, at some times of its clock. These items are counted as saved and the
others as failed. So the entry of a key gets the id of its last item and the last token, its changes
grow by the number of its items, and every other entry stays. To run the cycle again from there
changes nothing but the changes and the time of an entry. No role has more items than a number of
64 bits can count. -/
theorem discovery_fills_directory {σ : Type} (items : Table (List Item)) (size : Nat)
    (credentials : List Credential) (options : Options) (d : Directory σ) (store : σ → Store)
    (clock : σ → Instant) (budget : Nat) (hstore : d.IsStore store)
    (hdry : options.dryRun = false)
    (hsmall : ∀ c ∈ credentials, ((Listing.ofTable items).itemsOf c.role).length ≤ UInt64.size)
    (hbudget : ∀ c ∈ credentials, ((Listing.ofTable items).itemsOf c.role).length < budget)
    (t : Nat) (s : σ) :
    let l := (Listing.ofTable items).withPageSize size
    let p := Propagator.discovery l d options clock budget
    let offered := credentials.flatMap l.offered
    ∃ report t' s' calls, (p.runCycle credentials).Ends t s report t' s' ∧
      calls.map (·.2) = offered.flatMap SyncItem.writes ∧ store s' = (store s).run calls ∧
      report.outcome.saved = offered.countP (·.isStorable) ∧
      report.outcome.failed = offered.countP (!·.isStorable) ∧
      (∀ key, Amounts ((store s).get? key) key (offered.filter (·.isStoredAt key))
        ((store s').get? key)) ∧
      (∀ key e, (store s').get? key = some e →
        (((store s).get? key).map (·.changes)).getD 0 +
            (offered.filter (·.isStoredAt key)).length < UInt64.size →
        e.changes = (((store s).get? key).map (·.changes)).getD 0 +
          (offered.filter (·.isStoredAt key)).length) ∧
      ∀ t₂ s₂, store s₂ = store s' → ∃ report₂ t₃ s₃,
        (p.runCycle credentials).Ends t₂ s₂ report₂ t₃ s₃ ∧
        ∀ key, ((store s₃).get? key).map (fun e => (e.name, e.id, e.token)) =
          ((store s').get? key).map fun e => (e.name, e.id, e.token) := by
  intro l p offered
  have hsize : 0 < l.pageSize := Nat.lt_of_lt_of_le Nat.zero_lt_one (Nat.le_max_right size 1)
  have hcycle (t : Nat) (s : σ) :=
    Discovery.exists_visitsAll clock hstore hdry hsize hsmall hbudget t s
  obtain ⟨visits, t', s', calls, hvisits, hefforts, hcalls, hs'⟩ := hcycle t s
  have hamounts (key : String) := amounts_run offered hcalls (store s) key
  rw [← hs'] at hamounts
  obtain ⟨hsaved, hfailed⟩ := Discovery.saved_total visits
  rw [hefforts, List.countP_map] at hsaved hfailed
  refine ⟨_, t', s', calls, hvisits.runCycle_ends, hcalls, hs', hsaved, hfailed, hamounts, ?_, ?_⟩
  · intro key e he hsmall
    have hkey := hamounts key
    rw [he] at hkey
    exact hkey.changes_eq hsmall
  · intro t₂ s₂ hs₂
    obtain ⟨visits₂, t₃, s₃, calls₂, hvisits₂, -, hcalls₂, hs₃⟩ := hcycle t₂ s₂
    refine ⟨_, t₃, s₃, hvisits₂.runCycle_ends, fun key => ?_⟩
    -- the second cycle stores the same items into what the first one left
    have hagain := amounts_run offered hcalls₂ (store s₂) key
    rw [← hs₃, hs₂] at hagain
    exact (hamounts key).again hagain

/-- A role with three items on three pages, one of them without an id, and a credential whose role
is malformed: the two others are saved, each with its token. -/
theorem discovery_fills_directory_of_pages :
    let items : Table (List Item) :=
      .ofList [("arn:aws:iam::1:role/r", [⟨"a", "1"⟩, ⟨"b", ""⟩, ⟨"c", "3"⟩])]
    let credentials : List Credential :=
      [⟨"arn:aws:iam::1:role/r", "eu", none, some "key", .empty⟩, ⟨"r", "eu", none, none, .empty⟩]
    let clock (_ : Store) : Instant := ⟨0, 0⟩
    let d := Store.directory clock Part.whole
    let p := Propagator.discovery ((Listing.ofTable items).withPageSize 1) d .usual clock 4
    d.IsStore Part.whole.get ∧ Options.usual.dryRun = false ∧
      (∀ c ∈ credentials, ((Listing.ofTable items).itemsOf c.role).length ≤ UInt64.size) ∧
      (∀ c ∈ credentials, ((Listing.ofTable items).itemsOf c.role).length < 4) ∧
      ∃ report t' s' calls, (p.runCycle credentials).Ends 0 .empty report t' s' ∧
        calls.map (·.2) = [.put "1:eu:a" "1", .putToken "1:eu:a" "key", .put "1:eu:c" "3",
          .putToken "1:eu:c" "key"] ∧
        s' = Store.run .empty calls ∧ report.outcome.saved = 2 ∧ report.outcome.failed = 1 := by
  intro items credentials clock d p
  have hstore : d.IsStore Part.whole.get :=
    Store.isStore_directory clock ⟨fun _ _ => rfl, fun _ => rfl, fun _ _ _ => rfl⟩
  have hsmall : ∀ c ∈ credentials,
      ((Listing.ofTable items).itemsOf c.role).length ≤ UInt64.size := by decide +kernel
  have hbudget : ∀ c ∈ credentials,
      ((Listing.ofTable items).itemsOf c.role).length < 4 := by decide +kernel
  obtain ⟨report, t', s', calls, hends, hcalls, hs', hsaved, hfailed, -⟩ :=
    discovery_fills_directory items 1 credentials .usual d Part.whole.get clock 4 hstore rfl hsmall
      hbudget 0 .empty
  have hwrites : (credentials.flatMap ((Listing.ofTable items).withPageSize 1).offered).flatMap
      SyncItem.writes = [.put "1:eu:a" "1", .putToken "1:eu:a" "key", .put "1:eu:c" "3",
        .putToken "1:eu:c" "key"] := by decide +kernel
  refine ⟨hstore, rfl, hsmall, hbudget, report, t', s', calls, hends, hcalls.trans hwrites, hs',
    ?_, ?_⟩
  · rw [hsaved]
    decide +kernel
  · rw [hfailed]
    decide +kernel

end Sync

end GatewayDirectory
