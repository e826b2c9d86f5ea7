import GatewayDirectory.Resolution.Cache
import Mathlib.Algebra.GroupWithZero.Nat
import Mathlib.Data.Finset.Card
import Mathlib.Data.List.Induction

/-!
# How long a cache keeps an id

A cache is told by the history of the operations on it. `LastInsert` finds in a history the last
insert of a name and the operations since, and `elapsed` is the time that passes in these. A name
reads as its last id while less than the time to live has passed since its last insert, whatever was
purged meanwhile, and it is held until a purge finds it stale (`Held`). `Records` is the invariant
of the cache: it holds just these names, each with the id and the age of its last insert.
-/

namespace GatewayDirectory.Resolution.Cache

/-- An operation on a cache, or an advance of its clock. -/
inductive Operation where
  | insert (name id : String)
  | get (name : String)
  | purge
  | size
  | isEmpty
  | advance (nanos : Nat)
deriving DecidableEq, Inhabited

/-- What an operation answers. -/
inductive Reply where
  | done
  | id (id : Option String)
  | count (n : Nat)
  | flag (b : Bool)
deriving DecidableEq, Inhabited

/-- A cache and the time that its clock shows. -/
structure Clocked where
  cache : Cache
  now : Instant
deriving DecidableEq, Inhabited

/-- The nanoseconds by which an operation advances the clock. -/
def Operation.nanos : Operation → Nat
  | advance nanos => nanos
  | insert _ _ | get _ | purge | size | isEmpty => 0

/-- What an operation answers and leaves. -/
def Operation.perform : Operation → Clocked → Reply × Clocked
  | insert name id, s => (.done, { s with cache := s.cache.insert s.now name id })
  | get name, s => (.id (s.cache.get? s.now name), s)
  | purge, s => (.count (s.cache.purge s.now).1, { s with cache := (s.cache.purge s.now).2 })
  | size, s => (.count s.cache.size, s)
  | isEmpty, s => (.flag s.cache.isEmpty, s)
  | advance nanos, s => (.done, { s with now := s.now.later nanos })

namespace Clocked

/-- What a history of operations leaves. -/
def after (s : Clocked) (ops : List Operation) : Clocked :=
  ops.foldl (fun s op => (op.perform s).2) s

/-- The operations of a history, each with its answer. -/
def transcript (s : Clocked) : List Operation → List (Operation × Reply)
  | [] => []
  | op :: rest => (op, (op.perform s).1) :: transcript (op.perform s).2 rest

/-- The gets of a history, each with its answer. -/
def gets (s : Clocked) (ops : List Operation) : List (Operation × Reply) :=
  (s.transcript ops).filter fun x => x.1 matches .get _

/-- One more operation acts on what the history leaves. -/
theorem after_concat (s : Clocked) (ops : List Operation) (op : Operation) :
    s.after (ops ++ [op]) = (op.perform (s.after ops)).2 := by
  rw [after, List.foldl_append]
  rfl

/-- The answers to a history that goes on are those to its first part and those that follow from
there. -/
theorem transcript_append (s : Clocked) (ops more : List Operation) :
    s.transcript (ops ++ more) = s.transcript ops ++ (s.after ops).transcript more := by
  induction ops generalizing s with
  | nil => rfl
  | cons op ops ih => exact congrArg _ (ih _)

/-- Every operation has its answer. -/
theorem length_transcript (s : Clocked) (ops : List Operation) :
    (s.transcript ops).length = ops.length := by
  induction ops generalizing s with
  | nil => rfl
  | cons op ops ih => exact congrArg Nat.succ (ih _)

/-- One more operation adds its own answer if it is a get, and nothing otherwise. -/
theorem gets_concat (s : Clocked) (ops : List Operation) (op : Operation) :
    s.gets (ops ++ [op]) = s.gets ops ++ (s.after ops).gets [op] := by
  rw [gets, transcript_append, List.filter_append]
  rfl

end Clocked

/-! ## What a history says -/

/-- The time that passes in a history, in nanoseconds. -/
def elapsed (ops : List Operation) : Nat := (ops.map (·.nanos)).sum

/-- The last insert of a name in a history carried that id, and those are the operations since. -/
def LastInsert (name id : String) (since ops : List Operation) : Prop :=
  .insert name id :: since <:+ ops ∧ ∀ other, .insert name other ∉ since

/-- The last insert of a name in a history carried that id, and so many nanoseconds passed since. -/
def InsertedAgo (name id : String) (age : Nat) (ops : List Operation) : Prop :=
  ∃ since, LastInsert name id since ops ∧ elapsed since = age

/-- No purge finds an id stale that was inserted just before those operations. -/
def Survives (ttl : Nat) (since : List Operation) : Prop :=
  ∀ first, first ++ [.purge] <+: since → elapsed first < ttl

/-- The name was inserted and not purged since its last insert, which carried that id and was so
many nanoseconds ago. -/
def HeldSince (ttl : Nat) (name id : String) (age : Nat) (ops : List Operation) : Prop :=
  ∃ since, LastInsert name id since ops ∧ Survives ttl since ∧ elapsed since = age

/-- The name was inserted and not purged since its last insert. -/
def Held (ttl : Nat) (name : String) (ops : List Operation) : Prop :=
  ∃ id age, HeldSince ttl name id age ops

section Histories

variable {ttl : Nat} {name id other : String} {since since' ops : List Operation} {op : Operation}

/-- The times of a history and of how it goes on add up. -/
theorem elapsed_append (ops more : List Operation) :
    elapsed (ops ++ more) = elapsed ops + elapsed more := by
  rw [elapsed, List.map_append, List.sum_append]
  rfl

/-- The last insert in a history that goes on is the operation with which it does, or the one in the
history before, if that operation inserts no id for the name. -/
theorem lastInsert_concat : LastInsert name id since (ops ++ [op]) ↔
    (since = [] ∧ op = .insert name id) ∨
      ∃ since', since = since' ++ [op] ∧ LastInsert name id since' ops ∧
        ∀ other, op ≠ .insert name other := by
  rw [LastInsert, List.suffix_concat_iff]
  constructor
  · rintro ⟨hnil | ⟨first, hsplit, hsuffix⟩, hlast⟩
    · -- the history does not end before its own last operation
      cases hnil
    · cases first with
      | nil =>
        obtain ⟨rfl, rfl⟩ := List.cons.inj hsplit
        exact .inl ⟨rfl, rfl⟩
      | cons head since' =>
        obtain ⟨rfl, rfl⟩ := List.cons.inj hsplit
        refine .inr ⟨since', rfl, ⟨hsuffix, fun other hmem => ?_⟩, fun other hop => ?_⟩
        · exact hlast other (List.mem_append_left _ hmem)
        · exact hlast other (List.mem_append_right _ (List.mem_singleton.2 hop.symm))
  · rintro (⟨rfl, rfl⟩ | ⟨since', rfl, ⟨hsuffix, hlast⟩, hother⟩)
    · exact ⟨.inr ⟨[], rfl, List.nil_suffix⟩, fun _ => List.not_mem_nil⟩
    · refine ⟨.inr ⟨_ :: since', rfl, hsuffix⟩, fun other hmem => ?_⟩
      rcases List.mem_append.1 hmem with hmem | hmem
      · exact hlast other hmem
      · exact hother other (List.mem_singleton.1 hmem).symm

/-- A name has one last insert at most. -/
theorem LastInsert.unique (h : LastInsert name id since ops)
    (h' : LastInsert name other since' ops) : other = id ∧ since' = since := by
  -- both inserts are the last operation, or both were made before it
  induction ops using List.reverseRecOn generalizing since since' with
  | nil => cases List.suffix_nil.1 h.1
  | append_singleton ops op ih =>
    rcases lastInsert_concat.1 h with ⟨rfl, rfl⟩ | ⟨first, rfl, hfirst, hop⟩
    · rcases lastInsert_concat.1 h' with ⟨rfl, hsame⟩ | ⟨_, -, -, hop⟩
      · cases hsame
        exact ⟨rfl, rfl⟩
      · exact absurd rfl (hop id)
    · rcases lastInsert_concat.1 h' with ⟨-, hsame⟩ | ⟨second, rfl, hsecond, -⟩
      · exact absurd hsame (hop other)
      · obtain ⟨rfl, rfl⟩ := ih hfirst hsecond
        exact ⟨rfl, rfl⟩

/-- A purge that comes next must not find the id stale either. -/
theorem survives_concat : Survives ttl (since ++ [op]) ↔
    Survives ttl since ∧ (op = .purge → elapsed since < ttl) := by
  constructor
  · intro h
    refine ⟨fun first hfirst => ?_, fun hop => ?_⟩
    · exact h first (List.prefix_concat_iff.2 (.inr hfirst))
    · exact h since (by rw [hop])
  · rintro ⟨hbefore, hnext⟩ first hfirst
    rw [List.prefix_concat_iff, List.append_singleton_inj] at hfirst
    rcases hfirst with ⟨rfl, hop⟩ | hfirst
    · exact hnext hop.symm
    · exact hbefore first hfirst

/-- An id that is still fresh was never found stale. -/
theorem survives_of_fresh (h : elapsed since < ttl) : Survives ttl since := by
  rintro first ⟨rest, rfl⟩
  rw [elapsed_append, elapsed_append] at h
  omega

/-- An operation that inserts no id for a name makes its last insert older by the time it takes. -/
theorem insertedAgo_concat {age : Nat} : InsertedAgo name id age (ops ++ [op]) ↔
    (age = 0 ∧ op = .insert name id) ∨
      ∃ before, age = before + op.nanos ∧ InsertedAgo name id before ops ∧
        ∀ other, op ≠ .insert name other := by
  constructor
  · rintro ⟨since, hlast, rfl⟩
    rcases lastInsert_concat.1 hlast with ⟨rfl, hop⟩ | ⟨since', rfl, hlast', hother⟩
    · exact .inl ⟨rfl, hop⟩
    · exact .inr ⟨elapsed since', elapsed_append since' [op], ⟨since', hlast', rfl⟩, hother⟩
  · rintro (⟨rfl, rfl⟩ | ⟨before, rfl, ⟨since, hlast, rfl⟩, hother⟩)
    · exact ⟨[], lastInsert_concat.2 (.inl ⟨rfl, rfl⟩), rfl⟩
    · exact ⟨since ++ [op], lastInsert_concat.2 (.inr ⟨since, rfl, hlast, hother⟩),
        elapsed_append since [op]⟩

/-- Without its purges a history does not show one more of them. -/
theorem filter_concat_purge :
    (ops ++ [Operation.purge]).filter (· ≠ .purge) = ops.filter (· ≠ .purge) := by
  simp [List.filter_append]

/-- Without its purges a history shows every other operation. -/
theorem filter_concat_of_ne (hop : op ≠ .purge) :
    (ops ++ [op]).filter (· ≠ .purge) = ops.filter (· ≠ .purge) ++ [op] := by
  simp [List.filter_append, hop]

/-- **Purges make no difference to when a name was last inserted.** -/
theorem insertedAgo_unpurged {age : Nat} :
    InsertedAgo name id age (ops.filter (· ≠ .purge)) ↔ InsertedAgo name id age ops := by
  -- a history grows at its end, and with it the time since the last insert
  induction ops using List.reverseRecOn generalizing age with
  | nil => rfl
  | append_singleton ops op ih =>
    rw [insertedAgo_concat]
    by_cases hop : op = .purge
    · -- a purge takes no time
      subst hop
      rw [filter_concat_purge, ih]
      simp [Operation.nanos]
    · rw [filter_concat_of_ne hop, insertedAgo_concat]
      simp only [ih]

/-- A name that is held stays so if the operation neither inserts it again nor purges it. -/
theorem heldSince_concat {age : Nat} : HeldSince ttl name id age (ops ++ [op]) ↔
    (age = 0 ∧ op = .insert name id) ∨
      ∃ before, age = before + op.nanos ∧ HeldSince ttl name id before ops ∧
        (∀ other, op ≠ .insert name other) ∧ (op = .purge → before < ttl) := by
  constructor
  · rintro ⟨since, hlast, hsurvives, rfl⟩
    rcases lastInsert_concat.1 hlast with ⟨rfl, hop⟩ | ⟨since', rfl, hlast', hother⟩
    · exact .inl ⟨rfl, hop⟩
    · obtain ⟨hbefore, hnext⟩ := survives_concat.1 hsurvives
      exact .inr ⟨elapsed since', elapsed_append since' [op], ⟨since', hlast', hbefore, rfl⟩,
        hother, hnext⟩
  · rintro (⟨rfl, rfl⟩ | ⟨before, rfl, ⟨since, hlast, hsurvives, rfl⟩, hother, hnext⟩)
    · refine ⟨[], lastInsert_concat.2 (.inl ⟨rfl, rfl⟩), fun first hnil => ?_, rfl⟩
      simp at hnil
    · exact ⟨since ++ [op], lastInsert_concat.2 (.inr ⟨since, rfl, hlast, hother⟩),
        survives_concat.2 ⟨hsurvives, hnext⟩, elapsed_append since [op]⟩

/-- What is held was inserted. -/
theorem HeldSince.insertedAgo {age : Nat} (h : HeldSince ttl name id age ops) :
    InsertedAgo name id age ops := by
  obtain ⟨since, hlast, -, hage⟩ := h
  exact ⟨since, hlast, hage⟩

/-- A name whose last insert is younger than the time to live is held. -/
theorem InsertedAgo.heldSince {age : Nat} (h : InsertedAgo name id age ops) (hfresh : age < ttl) :
    HeldSince ttl name id age ops := by
  obtain ⟨since, hlast, rfl⟩ := h
  exact ⟨since, hlast, survives_of_fresh hfresh, rfl⟩

/-- A name has one last insert, with one id and one age. -/
theorem InsertedAgo.unique {age age' : Nat} (h : InsertedAgo name id age ops)
    (h' : InsertedAgo name other age' ops) : other = id ∧ age' = age := by
  obtain ⟨since, hlast, rfl⟩ := h
  obtain ⟨since', hlast', rfl⟩ := h'
  obtain ⟨rfl, rfl⟩ := hlast.unique hlast'
  exact ⟨rfl, rfl⟩

end Histories

/-! ## The invariant -/

/-- A cache holds what its history says that it holds, each name with the id and the age of its last
insert. -/
structure Records (s : Clocked) (ttl : Nat) (ops : List Operation) : Prop where
  ttl_eq : s.cache.ttl = ttl
  held : ∀ name x, s.cache.entries.get? name = some x →
    ∃ age, HeldSince ttl name x.id age ops ∧ s.now.nanos - x.since.nanos = age
  kept : ∀ name id age, HeldSince ttl name id age ops →
    ∃ x, s.cache.entries.get? name = some x

namespace Records

variable {s s' : Clocked} {ttl : Nat} {ops : List Operation} {op : Operation} {name id : String}
  {x : Cached}

/-- An empty cache records that nothing was inserted. -/
theorem empty (ttl : Nat) (start : Instant) : Records ⟨.empty ttl, start⟩ ttl [] where
  ttl_eq := rfl
  held name x h := by cases h
  kept := by
    rintro name id age ⟨since, ⟨hsuffix, -⟩, -⟩
    cases List.suffix_nil.1 hsuffix

/-- An entry is fresh exactly if the last insert is younger than the time to live. -/
theorem isFresh_iff (h : Records s ttl ops) {age : Nat}
    (hage : s.now.nanos - x.since.nanos = age) : s.cache.isFresh s.now x = true ↔ age < ttl := by
  rw [isFresh, h.ttl_eq, hage, decide_eq_true_iff, Int.ofNat_lt]

/-- What is kept of a name is its last insert. -/
theorem exists_of_heldSince (h : Records s ttl ops) {age : Nat}
    (hheld : HeldSince ttl name id age ops) :
    ∃ x, s.cache.entries.get? name = some x ∧ x.id = id ∧ s.now.nanos - x.since.nanos = age := by
  obtain ⟨x, hx⟩ := h.kept name id age hheld
  obtain ⟨age', hheld', hage⟩ := h.held name x hx
  obtain ⟨hid, rfl⟩ := hheld.insertedAgo.unique hheld'.insertedAgo
  exact ⟨x, hx, hid, hage⟩

/-- **One operation extends the record** if it inserts its own id as of now, keeps the other names,
those that are stale excepted if it is a purge, and advances the clock by its time. -/
theorem concat (h : Records s ttl ops) (httl : s'.cache.ttl = s.cache.ttl)
    (hnow : s'.now.nanos = s.now.nanos + op.nanos)
    (hentry : ∀ name x, s'.cache.entries.get? name = some x ↔
      (op = .insert name x.id ∧ x.since = s'.now) ∨
        (s.cache.entries.get? name = some x ∧ (∀ other, op ≠ .insert name other) ∧
          (op = .purge → s.cache.isFresh s.now x = true))) :
    Records s' ttl (ops ++ [op]) where
  ttl_eq := httl.trans h.ttl_eq
  held name x hx := by
    rcases (hentry name x).1 hx with ⟨hop, hsince⟩ | ⟨hx, hother, hfresh⟩
    · exact ⟨0, heldSince_concat.2 (.inl ⟨rfl, hop⟩), by rw [hsince, Int.sub_self]; rfl⟩
    · obtain ⟨age, hheld, hage⟩ := h.held name x hx
      have hyoung (hop : op = .purge) : age < ttl := (h.isFresh_iff hage).1 (hfresh hop)
      refine ⟨age + op.nanos, heldSince_concat.2 (.inr ⟨age, rfl, hheld, hother, hyoung⟩), ?_⟩
      omega
  kept name id age hheld := by
    rcases heldSince_concat.1 hheld with ⟨rfl, rfl⟩ | ⟨before, rfl, hheld, hother, hyoung⟩
    · exact ⟨⟨id, s'.now⟩, (hentry name _).2 (.inl ⟨rfl, rfl⟩)⟩
    · obtain ⟨x, hx, -, hage⟩ := h.exists_of_heldSince hheld
      have hfresh (hop : op = .purge) : s.cache.isFresh s.now x = true :=
        (h.isFresh_iff hage).2 (hyoung hop)
      exact ⟨x, (hentry name x).2 (.inr ⟨hx, hother, hfresh⟩)⟩

/-- An operation that only reads extends the record as it is. -/
theorem read (h : Records s ttl ops) (hinsert : ∀ name other, op ≠ .insert name other)
    (hpurge : op ≠ .purge) (hnanos : op.nanos = 0) : Records s ttl (ops ++ [op]) := by
  refine h.concat rfl (by rw [hnanos, Int.natCast_zero, Int.add_zero]) fun name x => ?_
  exact ⟨fun hx => .inr ⟨hx, hinsert name, fun hop => absurd hop hpurge⟩,
    fun hx => (hx.resolve_left fun hop => hinsert name _ hop.1).1⟩

/-- **One operation extends the record.** -/
theorem perform (h : Records s ttl ops) (op : Operation) :
    Records (op.perform s).2 ttl (ops ++ [op]) := by
  cases op with
  | get | size | isEmpty => exact h.read nofun nofun rfl
  | advance nanos =>
    refine h.concat rfl (Instant.nanos_later _ _) fun name x => ?_
    exact ⟨fun hx => .inr ⟨hx, nofun, nofun⟩, fun hx => (hx.resolve_left nofun).1⟩
  | insert n i =>
    refine h.concat rfl (Int.add_zero _).symm fun name x => ?_
    show (s.cache.entries.insert n ⟨i, s.now⟩).get? name = some x ↔ _
    rw [Table.get?_insert]
    by_cases hn : n = name
    · -- the id of now replaces what was held
      subst hn
      rw [if_pos rfl]
      constructor
      · rintro ⟨⟩
        exact .inl ⟨rfl, rfl⟩
      · rintro (⟨hop, hsince⟩ | ⟨-, hother, -⟩)
        · obtain ⟨rfl⟩ := (Operation.insert.inj hop).2
          have hnow : x.since = s.now := hsince
          rw [← hnow]
        · exact absurd rfl (hother i)
    · have hname (other : String) : Operation.insert n i ≠ .insert name other :=
        fun hop => hn (Operation.insert.inj hop).1
      rw [if_neg hn]
      exact ⟨fun hx => .inr ⟨hx, hname, nofun⟩,
        fun hx => (hx.resolve_left fun hop => hname _ hop.1).1⟩
  | purge =>
    refine h.concat rfl (Int.add_zero _).symm fun name x => ?_
    show (s.cache.entries.filter fun _ x => s.cache.isFresh s.now x).get? name = some x ↔ _
    rw [Table.get?_filter_eq_some_iff]
    exact ⟨fun ⟨hx, hfresh⟩ => .inr ⟨hx, nofun, fun _ => hfresh⟩,
      fun hx => (hx.resolve_left nofun).imp_right fun hfresh => hfresh.2 rfl⟩

/-- **A whole history makes the record.** -/
theorem after (ttl : Nat) (start : Instant) (ops : List Operation) :
    Records ((⟨.empty ttl, start⟩ : Clocked).after ops) ttl ops := by
  -- each operation is performed on what those before it left
  induction ops using List.reverseRecOn with
  | nil => exact empty ttl start
  | append_singleton ops op ih =>
    rw [Clocked.after_concat]
    exact ih.perform op

/-- The names held are those that the history leaves. -/
theorem mem_keys_iff (h : Records s ttl ops) :
    name ∈ s.cache.entries.keys ↔ Held ttl name ops := by
  rw [Table.mem_keys_iff]
  constructor
  · rintro ⟨x, hx⟩
    obtain ⟨age, hheld, -⟩ := h.held name x hx
    exact ⟨x.id, age, hheld⟩
  · rintro ⟨id, age, hheld⟩
    exact h.kept name id age hheld

/-- The fresh names are those whose last insert is younger than the time to live. -/
theorem exists_fresh_iff (h : Records s ttl ops) :
    (∃ x, s.cache.entries.get? name = some x ∧ x.id = id ∧ s.cache.isFresh s.now x = true) ↔
      ∃ age, InsertedAgo name id age ops ∧ age < ttl := by
  constructor
  · rintro ⟨x, hx, rfl, hfresh⟩
    obtain ⟨age, hheld, hage⟩ := h.held name x hx
    exact ⟨age, hheld.insertedAgo, (h.isFresh_iff hage).1 hfresh⟩
  · rintro ⟨age, hlast, hyoung⟩
    obtain ⟨x, hx, hid, hage⟩ := h.exists_of_heldSince (hlast.heldSince hyoung)
    exact ⟨x, hx, hid, (h.isFresh_iff hage).2 hyoung⟩

/-- **A purge leaves the names whose last insert is younger than the time to live.** -/
theorem mem_keys_purge (h : Records s ttl ops) :
    name ∈ (s.cache.purge s.now).2.entries.keys ↔
      ∃ id age, InsertedAgo name id age ops ∧ age < ttl := by
  rw [Table.mem_keys_iff]
  simp only [← h.exists_fresh_iff, purge, Table.get?_filter_eq_some_iff]
  exact ⟨fun ⟨x, hx, hfresh⟩ => ⟨x.id, x, hx, rfl, hfresh⟩,
    fun ⟨_, x, hx, _, hfresh⟩ => ⟨x, hx, hfresh⟩⟩

/-- **A get finds the last id inserted, if that was less than the time to live ago.** -/
theorem get?_eq_some_iff (h : Records s ttl ops) : s.cache.get? s.now name = some id ↔
    ∃ age, InsertedAgo name id age ops ∧ age < ttl := by
  rw [← h.exists_fresh_iff, Cache.get?]
  cases s.cache.entries.get? name with
  | none => exact ⟨nofun, nofun⟩
  | some x => simp [and_comm]

/-- The stale names are those held whose last insert is no younger than the time to live. -/
theorem exists_stale_iff (h : Records s ttl ops) :
    (∃ x, s.cache.entries.get? name = some x ∧ ¬ s.cache.isFresh s.now x = true) ↔
      ∃ id age, HeldSince ttl name id age ops ∧ ttl ≤ age := by
  constructor
  · rintro ⟨x, hx, hstale⟩
    obtain ⟨age, hheld, hage⟩ := h.held name x hx
    exact ⟨x.id, age, hheld, not_lt.1 fun hyoung => hstale ((h.isFresh_iff hage).2 hyoung)⟩
  · rintro ⟨id, age, hheld, hold⟩
    obtain ⟨x, hx, -, hage⟩ := h.exists_of_heldSince hheld
    exact ⟨x, hx, fun hfresh => not_lt.2 hold ((h.isFresh_iff hage).1 hfresh)⟩

end Records

/-! ## What the operations answer -/

/-- The size of a table is the number of names that it holds. -/
theorem exists_names (t : Table Cached) : ∃ names : Finset String,
    (∀ name, name ∈ names ↔ ∃ x, t.get? name = some x) ∧ names.card = t.size := by
  refine ⟨t.keys.toFinset, fun name => ?_, ?_⟩
  · rw [List.mem_toFinset, Table.mem_keys_iff]
  · rw [List.toFinset_card_of_nodup t.nodup_keys]
    exact List.length_map _

/-- A purge tells how many stale ids it drops. -/
theorem purge_fst (c : Cache) (now : Instant) :
    (c.purge now).1 = (c.entries.filter fun _ x => !c.isFresh now x).size := by
  -- the stale ids are counted as what is missing of all when the fresh ones are kept
  have hsplit := List.length_eq_length_filter_add (l := c.entries.toList)
    (fun x => c.isFresh now x.2)
  exact (Nat.sub_eq_iff_eq_add' (Nat.le.intro hsplit.symm)).2 hsplit

/-- What an operation is told after a history. -/
def Told (ttl : Nat) (before : List Operation) : Operation → Reply → Prop
  | .insert _ _, reply | .advance _, reply => reply = .done
  | .get name, reply => ∃ found : Option String, reply = .id found ∧
      ∀ id, found = some id ↔ ∃ age, InsertedAgo name id age before ∧ age < ttl
  | .purge, reply => ∃ names : Finset String, reply = .count names.card ∧
      ∀ name, name ∈ names ↔ ∃ id age, HeldSince ttl name id age before ∧ ttl ≤ age
  | .size, reply => ∃ names : Finset String, reply = .count names.card ∧
      ∀ name, name ∈ names ↔ Held ttl name before
  | .isEmpty, reply => ∃ b : Bool, reply = .flag b ∧ (b = true ↔ ∀ name, ¬ Held ttl name before)

/-- **Each operation tells what the history before it says.** -/
theorem Records.told {s : Clocked} {ttl : Nat} {ops : List Operation} (h : Records s ttl ops)
    (op : Operation) : Told ttl ops op (op.perform s).1 := by
  cases op with
  | insert | advance => exact rfl
  | get name => exact ⟨_, rfl, fun id => h.get?_eq_some_iff⟩
  | purge =>
    obtain ⟨names, hnames, hcard⟩ := exists_names
      (s.cache.entries.filter fun _ x => !s.cache.isFresh s.now x)
    refine ⟨names, congrArg Reply.count ((purge_fst _ _).trans hcard.symm), fun name => ?_⟩
    rw [hnames, ← h.exists_stale_iff]
    simp only [Table.get?_filter_eq_some_iff, Bool.not_eq_true', Bool.not_eq_true]
  | size =>
    obtain ⟨names, hnames, hcard⟩ := exists_names s.cache.entries
    refine ⟨names, congrArg Reply.count hcard.symm, fun name => ?_⟩
    rw [hnames, ← Table.mem_keys_iff, h.mem_keys_iff]
  | isEmpty =>
    refine ⟨_, rfl, ?_⟩
    obtain ⟨names, hnames, hcard⟩ := exists_names s.cache.entries
    have hheld (name : String) : name ∈ names ↔ Held ttl name ops := by
      rw [hnames, ← Table.mem_keys_iff, h.mem_keys_iff]
    rw [isEmpty, size, ← hcard, beq_iff_eq, Finset.card_eq_zero, Finset.eq_empty_iff_forall_notMem]
    simp only [hheld]

/-- The answer of an operation is the one that it has after the operations before it. -/
theorem Clocked.transcript_getElem? (s : Clocked) (before rest : List Operation) (op : Operation) :
    (s.transcript (before ++ op :: rest))[before.length]? =
      some (op, (op.perform (s.after before)).1) := by
  rw [transcript_append, ← s.length_transcript before, List.getElem?_append_right le_rfl,
    Nat.sub_self]
  rfl

/-- A get finds the same id if no purge came before it. -/
theorem Records.gets_eq {s s' : Clocked} {ttl : Nat} {ops : List Operation} (h : Records s ttl ops)
    (h' : Records s' ttl (ops.filter (· ≠ .purge))) (op : Operation) :
    s'.gets [op] = s.gets [op] := by
  cases op with
  | get name =>
    -- the two caches may hold different names, but each finds just what is fresh
    have hfound : s'.cache.get? s'.now name = s.cache.get? s.now name := Option.ext fun id => by
      rw [h'.get?_eq_some_iff, h.get?_eq_some_iff]
      simp only [insertedAgo_unpurged]
    exact congrArg (fun found => [(Operation.get name, Reply.id found)]) hfound
  | insert | purge | size | isEmpty | advance => rfl

/-- **Who gets does not see the purges of a history.** -/
theorem gets_unpurged (ttl : Nat) (start : Instant) (ops : List Operation) :
    (⟨.empty ttl, start⟩ : Clocked).gets (ops.filter (· ≠ .purge)) =
      (⟨.empty ttl, start⟩ : Clocked).gets ops := by
  induction ops using List.reverseRecOn with
  | nil => rfl
  | append_singleton ops op ih =>
    have hnext := (Records.after ttl start ops).gets_eq (Records.after ttl start _) op
    rw [Clocked.gets_concat]
    by_cases hop : op = .purge
    · -- a purge is no get either
      subst hop
      rw [filter_concat_purge, ih]
      exact (List.append_nil _).symm
    · rw [filter_concat_of_ne hop, Clocked.gets_concat, ih, hnext]

/-- **A history tells how long ids are kept.** Of a cache that starts empty: each operation tells
what the history before it says, a get the id of the last insert while that is younger than the time
to live, a purge how many held names it finds stale, and a size how many names were inserted and not
purged since. Just these are held, a purge leaves those whose last insert is younger than the time
to live, a get leaves all as it was, and without its purges a history has the same gets. -/
theorem history_tells_ids (ttl : Nat) (start : Instant) :
    let s : Clocked := ⟨.empty ttl, start⟩
    (∀ before op rest, ∃ reply,
      (s.transcript (before ++ op :: rest))[before.length]? = some (op, reply) ∧
        Told ttl before op reply) ∧
    (∀ ops name, name ∈ (s.after ops).cache.entries.keys ↔ Held ttl name ops) ∧
    (∀ ops name, name ∈ (s.after (ops ++ [.purge])).cache.entries.keys ↔
      ∃ id age, InsertedAgo name id age ops ∧ age < ttl) ∧
    (∀ ops name, s.after (ops ++ [.get name]) = s.after ops) ∧
    ∀ ops, s.gets (ops.filter (· ≠ .purge)) = s.gets ops := by
  intro s
  refine ⟨fun before op rest => ?_, fun ops name => ?_, fun ops name => ?_, fun ops name => ?_,
    gets_unpurged ttl start⟩
  · exact ⟨_, s.transcript_getElem? before rest op, (Records.after ttl start before).told op⟩
  · exact (Records.after ttl start ops).mem_keys_iff
  · rw [s.after_concat]
    exact (Records.after ttl start ops).mem_keys_purge
  · exact s.after_concat ops (.get name)

/-- An id whose age is the time to live is stale, and counted until it is purged. -/
example :
    let s : Clocked := ⟨.empty 5, ⟨0, 0⟩⟩
    let ops : List Operation :=
      [.insert "a" "1", .advance 4, .get "a", .advance 1, .get "a", .size, .purge, .isEmpty]
    (s.transcript ops).map (·.2) =
      [.done, .done, .id (some "1"), .done, .id none, .count 1, .count 1, .flag true] := by
  decide +kernel

end GatewayDirectory.Resolution.Cache
