import GatewayDirectory.Proofs.Resolution.Interleaving
import GatewayDirectory.Proofs.Timed.Moves

/-!
# Where ids come from

The state that any moves of a client and its surroundings leave: the primary is what outside calls
make of it; an id in the cache was held for that name by a store after the task began that put it
there; an id in the fallback was there at first, was written from outside, or was held by the
primary before; and tokens of the fallback are bound from outside only. The invariant that carries
this through every interleaving is `tasks_follow`: what is left of a task keeps the discipline of
its name with the ids that the stores have held since the task began. What one more move may do
follows from it once and for all (`Effect`), and each part of the result is an induction over moves
by these effects.
-/

namespace GatewayDirectory.Resolution

open Directory

namespace Config

variable (callTimeout : Nat) (c : Config) (moves : List Move)

/-- A client with an empty cache on the given stores, of which nothing has been asked. -/
def opened (s : Shared) (ttl : Nat) : Config := ⟨{ s with cache := .empty ttl, astray := [] }, []⟩

/-- What the first `n` moves leave. -/
def upTo (n : Nat) : Config := c.run callTimeout (moves.take n)

/-- The outside call to the store of a tier that a move makes, and when it is made. -/
def outsideCall (tier : Tier) : Move → History
  | .outside t call => if t = tier then [(c.shared.now, call)] else []
  | _ => []

/-- The outside calls to the store of a tier among moves. -/
def outsideCalls (tier : Tier) : Config → List Move → History
  | _, [] => []
  | c, m :: rest => c.outsideCall tier m ++ outsideCalls tier (c.move callTimeout m) rest

/-- The ids that a store held for a name after `start` moves or later. -/
def seenSince (start : Nat) (name : String) : Known := fun tier id =>
  ∃ n, start ≤ n ∧ n ≤ moves.length ∧ (c.upTo callTimeout moves n).shared.Holds tier name id

/-- Where an id in the cache for a name comes from. The move `i` begins a task for the name. After
`n` moves, and hence after the task began, a store holds the id for the name. The move `j` is a step
of that very task, and puts the id into the cache. -/
structure Provenance (name : String) (x : Cached) (i n j : Nat) (task : Task) (tier : Tier) :
    Prop where
  start : moves[i]? = some (.start task)
  about : task.name = name
  after_start : i < n
  held : (c.upTo callTimeout moves n).shared.Holds tier name x.id
  before_turn : n ≤ j
  turn : ∃ time, moves[j]? = some (.turn (c.upTo callTimeout moves i).tasks.length time)
  since : x.since = (c.upTo callTimeout moves j).shared.now
  puts : (c.upTo callTimeout moves (j + 1)).shared.cache =
    (c.upTo callTimeout moves j).shared.cache.insert x.since name x.id

/-- Where an id that the fallback holds for a name comes from. -/
inductive Origin (name id : String) : Prop where
  /-- It was there before the first move. -/
  | first (h : c.shared.Holds .fallback name id)
  /-- Someone else wrote it, with success. -/
  | outside {n : Nat} {call : Call} (h : moves[n]? = some (.outside .fallback call))
    (hputs : call.Puts name id)
    (hok : ∃ a, ((c.upTo callTimeout moves n).shared.fallback.answer
      (c.upTo callTimeout moves n).shared.now call).1 = .ok a)
  /-- The primary held it after some moves. -/
  | primary {n : Nat} (hn : n ≤ moves.length)
    (h : (c.upTo callTimeout moves n).shared.Holds .primary name id)

/-! ## One more move -/

section More

variable {callTimeout c moves} {m : Move} {n : Nat}

/-- After all moves the client is where the run leaves it. -/
theorem upTo_length : c.upTo callTimeout moves moves.length = c.run callTimeout moves :=
  stateAfter_length

/-- One more move leaves the states before it as they were. -/
theorem upTo_append (h : n ≤ moves.length) :
    c.upTo callTimeout (moves ++ [m]) n = c.upTo callTimeout moves n :=
  stateAfter_append h

/-- One more move acts on what the run leaves. -/
theorem run_concat :
    c.run callTimeout (moves ++ [m]) = (c.run callTimeout moves).move callTimeout m := by
  rw [run_append]
  rfl

/-- One more move adds its outside call, made at the time that the clock then shows. -/
theorem outsideCalls_concat (tier : Tier) :
    c.outsideCalls callTimeout tier (moves ++ [m]) =
      c.outsideCalls callTimeout tier moves ++ (c.run callTimeout moves).outsideCall tier m := by
  induction moves generalizing c with
  | nil => exact List.append_nil _
  | cons first rest ih =>
    rw [List.cons_append, outsideCalls, outsideCalls, ih, List.append_assoc]
    rfl

/-- What was seen stays seen. -/
theorem seenSince_concat (start : Nat) (name : String) :
    c.seenSince callTimeout moves start name ≤ c.seenSince callTimeout (moves ++ [m]) start name := by
  rintro tier id ⟨n, hstart, hn, hid⟩
  refine ⟨n, hstart, ?_, ?_⟩
  · rw [List.length_append]
    omega
  · rw [upTo_append hn]
    exact hid

/-- What was seen since some move was seen since any move before it. -/
theorem seenSince_le {start start' : Nat} (h : start ≤ start') (name : String) :
    c.seenSince callTimeout moves start' name ≤ c.seenSince callTimeout moves start name := by
  rintro tier id ⟨n, hstart, hn, hid⟩
  exact ⟨n, Nat.le_trans h hstart, hn, hid⟩

variable (callTimeout c) in
/-- What the stores hold now is seen. -/
theorem learn_seenSince {start : Nat} (hstart : start ≤ moves.length) (name : String) :
    (honest name).learn (c.seenSince callTimeout moves start name)
        (c.run callTimeout moves).shared ≤ c.seenSince callTimeout moves start name := by
  rintro tier id (hid | hid)
  · exact hid
  · exact ⟨moves.length, hstart, Nat.le_refl _, by rwa [upTo_length]⟩

/-- Where an id comes from does not change with a further move. -/
theorem Provenance.concat {name : String} {x : Cached} {i n j : Nat} {task : Task} {tier : Tier}
    (h : Provenance callTimeout c moves name x i n j task tier) :
    Provenance callTimeout c (moves ++ [m]) name x i n j task tier := by
  obtain ⟨time, hturn⟩ := h.turn
  have hj := lt_length_of_getElem? hturn
  have hi := lt_length_of_getElem? h.start
  have hn := h.before_turn
  refine ⟨getElem?_append_singleton h.start, h.about, h.after_start, ?_, hn, ⟨time, ?_⟩, ?_, ?_⟩
  · rw [upTo_append (by omega)]
    exact h.held
  · rw [upTo_append (by omega)]
    exact getElem?_append_singleton hturn
  · rw [upTo_append (by omega)]
    exact h.since
  · rw [upTo_append (by omega), upTo_append (by omega)]
    exact h.puts

/-- Where an id of the fallback comes from does not change with a further move. -/
theorem Origin.concat {name id : String} (h : Origin callTimeout c moves name id) :
    Origin callTimeout c (moves ++ [m]) name id := by
  cases h with
  | first h => exact .first h
  | outside h hputs hok =>
    refine .outside (getElem?_append_singleton h) hputs ?_
    rwa [upTo_append (Nat.le_of_lt (lt_length_of_getElem? h))]
  | primary hn h =>
    refine .primary (Nat.le_trans hn ?_) (by rwa [upTo_append hn])
    rw [List.length_append]
    exact Nat.le_add_right _ _

end More

/-! ## Tasks on their way -/

/-- What is left of the task of some number keeps the discipline of its name with what the stores
have held since the move that began it. -/
def Follows (number : Nat) (task : Task) (rest : Timed Shared (Option String)) : Prop :=
  ∃ i, moves[i]? = some (.start task) ∧ (c.upTo callTimeout moves i).tasks.length = number ∧
    (honest task.name).Keeps (fun _ _ => True) rest
      (c.seenSince callTimeout moves (i + 1) task.name)

section Follows

variable {callTimeout c moves} {m : Move} {number : Nat} {task : Task}
  {rest : Timed Shared (Option String)}

/-- A task that follows its discipline does so after a further move, when more may have been seen.
-/
theorem Follows.concat (h : Follows callTimeout c moves number task rest) :
    Follows callTimeout c (moves ++ [m]) number task rest := by
  obtain ⟨i, hstart, hnumber, hkeeps⟩ := h
  have hi := lt_length_of_getElem? hstart
  refine ⟨i, getElem?_append_singleton hstart, ?_, ?_⟩
  · rwa [upTo_append (by omega)]
  · exact hkeeps.mono (fun _ _ _ => trivial) (seenSince_concat _ _)

/-- A task that begins follows what happens from then on. -/
theorem Follows.begin :
    Follows callTimeout c (moves ++ [.start task]) (c.run callTimeout moves).tasks.length task
      (task.body callTimeout) := by
  refine ⟨moves.length, List.getElem?_concat_length, ?_, honest.keeps_body _ _ _⟩
  rw [upTo_append (Nat.le_refl _), upTo_length]

/-- **A step of a task is allowed** by what was seen since it began, and what is left goes on so. -/
theorem Follows.turn (h : Follows callTimeout c moves number task rest) (time : Nat) :
    (∃ i, moves[i]? = some (.start task) ∧ (c.upTo callTimeout moves i).tasks.length = number ∧
      Allowed task.name (c.seenSince callTimeout moves (i + 1) task.name)
        (c.run callTimeout moves).shared
        (Timed.turn time rest (c.run callTimeout moves).shared).2) ∧
      Follows callTimeout c moves number task
        (Timed.turn time rest (c.run callTimeout moves).shared).1 := by
  obtain ⟨i, hstart, hnumber, hkeeps⟩ := h
  obtain ⟨hallowed, hrest⟩ :=
    hkeeps.turn (fun _ _ _ => trivial) time (c.run callTimeout moves).shared
  have hlearn := learn_seenSince callTimeout c (lt_length_of_getElem? hstart) task.name
  exact ⟨⟨i, hstart, hnumber, (honest task.name).allows_mono hlearn hallowed⟩,
    i, hstart, hnumber, hrest.mono (fun _ _ _ => trivial) hlearn⟩

/-- **Every task keeps the discipline of its name**, in any interleaving. -/
theorem tasks_follow (hc : c.tasks = [])
    (h : (c.run callTimeout moves).tasks[number]? = some (task, rest)) :
    Follows callTimeout c moves number task rest := by
  induction moves using List.reverseRecOn generalizing number task rest with
  | nil =>
    rw [show c.run callTimeout [] = c from rfl, hc] at h
    cases h
  | append_singleton moves m ih =>
    rw [run_concat] at h
    cases m with
    | start begun =>
      -- a task of a smaller number was there before; the one of this number is the task that begins
      rcases Nat.lt_trichotomy number (c.run callTimeout moves).tasks.length with hlt | heq | hgt
      · exact (ih (by rwa [move, List.getElem?_append_left hlt] at h)).concat
      · subst heq
        rw [move, List.getElem?_concat_length] at h
        cases h
        exact Follows.begin
      · rw [move, List.getElem?_eq_none (by simpa using Nat.succ_le_of_lt hgt)] at h
        cases h
    | turn other time =>
      rw [move] at h
      split at h
      · rename_i task' rest' hother
        rw [List.getElem?_set] at h
        split at h
        · rename_i heq
          subst heq
          split at h
          · cases h
            exact ((ih hother).turn time).2.concat
          · cases h
        · exact (ih h).concat
      · exact (ih h).concat
    | arrive =>
      rw [move] at h
      split at h <;> exact (ih h).concat
    | lookup | purge | clock | outside | conduct => exact (ih h).concat

variable (callTimeout moves) in
/-- A turn does what its task may do, if anything. -/
theorem turn_cases (hc : c.tasks = []) (number time : Nat) :
    ((c.run callTimeout moves).move callTimeout (.turn number time)).shared =
        (c.run callTimeout moves).shared ∨
      ∃ i task, moves[i]? = some (.start task) ∧
        (c.upTo callTimeout moves i).tasks.length = number ∧
        Allowed task.name (c.seenSince callTimeout moves (i + 1) task.name)
          (c.run callTimeout moves).shared
          ((c.run callTimeout moves).move callTimeout (.turn number time)).shared := by
  rw [move]
  split
  · rename_i task rest htask
    obtain ⟨⟨i, hstart, hnumber, hallowed⟩, -⟩ := (tasks_follow hc htask).turn time
    exact .inr ⟨i, task, hstart, hnumber, hallowed⟩
  · exact .inl rfl

/-- **A call that went astray is one that a task may make**, with what was seen up to now. -/
theorem astray_may_call (hc : c.tasks = []) (hastray : c.shared.astray = []) {tier : Tier}
    {call : Call} (h : (tier, call) ∈ (c.run callTimeout moves).shared.astray) :
    ∃ name, MayCall name (c.seenSince callTimeout moves 0 name) tier call := by
  induction moves using List.reverseRecOn with
  | nil =>
    rw [show c.run callTimeout [] = c from rfl, hastray] at h
    cases h
  | append_singleton moves m ih =>
    have hold (h : (tier, call) ∈ (c.run callTimeout moves).shared.astray) :
        ∃ name, MayCall name (c.seenSince callTimeout (moves ++ [m]) 0 name) tier call := by
      obtain ⟨name, hmay⟩ := ih h
      exact ⟨name, hmay.mono (seenSince_concat 0 name)⟩
    rw [run_concat] at h
    cases m with
    | start | lookup | purge | clock | conduct => exact hold h
    | outside t call' => cases t <;> exact hold h
    | arrive number =>
      -- a call that arrives is one fewer on its way
      rw [move] at h
      split at h
      · exact hold (List.mem_of_mem_eraseIdx h)
      · exact hold h
    | turn number time =>
      rcases turn_cases callTimeout moves hc number time with hsame | ⟨i, task, -, -, hallowed⟩
      · exact hold (by rwa [hsame] at h)
      · generalize ((c.run callTimeout moves).move callTimeout (.turn number time)).shared = s'
          at h hallowed
        cases hallowed with
        | nothing | cached => exact hold h
        | @called t call' hmay => cases t <;> exact hold h
        | strays hmay =>
          -- the call that goes astray in this turn is the last one, made with what was seen since
          -- its task began
          rcases List.mem_append.1 h with h | h
          · exact hold h
          · cases List.mem_singleton.1 h
            exact ⟨task.name, hmay.mono (le_trans (seenSince_le (Nat.zero_le _) _)
              (seenSince_concat 0 _))⟩

end Follows

/-! ## What a move does -/

/-- The cache and the stores of two states are the same. -/
structure Agrees (s s' : Shared) : Prop where
  cache : s.cache = s'.cache
  primary : s.primary = s'.primary
  fallback : s.fallback = s'.fallback

/-- What a move may do to the cache and the stores. -/
inductive Effect (m : Move) : Shared → Prop where
  | quiet (hm : ∀ tier call, m ≠ .outside tier call) : Effect m (c.run callTimeout moves).shared
  | purged (hm : m = .purge) :
    Effect m
      { (c.run callTimeout moves).shared with
        cache := ((c.run callTimeout moves).shared.cache.purge
          (c.run callTimeout moves).shared.now).2 }
  /-- A task puts an id into the cache that was seen since it began. -/
  | cached {i number time : Nat} {task : Task} {tier : Tier} {id : String}
    (hm : m = .turn number time) (hstart : moves[i]? = some (.start task))
    (hnumber : (c.upTo callTimeout moves i).tasks.length = number)
    (hseen : c.seenSince callTimeout moves (i + 1) task.name tier id) :
    Effect m
      { (c.run callTimeout moves).shared with
        cache := (c.run callTimeout moves).shared.cache.insert
          (c.run callTimeout moves).shared.now task.name id }
  /-- A call that a task made gets to its store. -/
  | called {name : String} {tier : Tier} {call : Call}
    (hm : ∀ tier call, m ≠ .outside tier call)
    (hmay : MayCall name (c.seenSince callTimeout moves 0 name) tier call) :
    Effect m ((c.run callTimeout moves).shared.called tier call)
  | outside {tier : Tier} {call : Call} (hm : m = .outside tier call) :
    Effect m ((c.run callTimeout moves).shared.called tier call)

section Effect

variable {c}

/-- A state agrees with itself. -/
theorem Agrees.refl (s : Shared) : Agrees s s := ⟨rfl, rfl, rfl⟩

/-- **Every move has one of these effects.** -/
theorem exists_effect (hc : c.tasks = []) (hastray : c.shared.astray = []) (m : Move) :
    ∃ s, Effect callTimeout c moves m s ∧
      Agrees ((c.run callTimeout moves).move callTimeout m).shared s := by
  cases m with
  | start | lookup | clock | conduct => exact ⟨_, .quiet nofun, rfl, rfl, rfl⟩
  | purge => exact ⟨_, .purged rfl, .refl _⟩
  | outside tier call => exact ⟨_, .outside rfl, .refl _⟩
  | arrive number =>
    rw [move]
    split
    · rename_i tier call hcall
      obtain ⟨name, hmay⟩ := astray_may_call hc hastray (List.mem_of_getElem? hcall)
      exact ⟨_, .called nofun hmay, rfl, rfl, rfl⟩
    · exact ⟨_, .quiet nofun, .refl _⟩
  | turn number time =>
    rcases turn_cases callTimeout moves hc number time with
      hsame | ⟨i, task, hstart, hnumber, hallowed⟩
    · rw [hsame]
      exact ⟨_, .quiet nofun, .refl _⟩
    · -- of the state after the turn only what is allowed of it matters
      generalize ((c.run callTimeout moves).move callTimeout (.turn number time)).shared = s'
        at hallowed
      cases hallowed with
      | nothing => exact ⟨_, .quiet nofun, .refl _⟩
      | cached hseen => exact ⟨_, .cached rfl hstart hnumber hseen, .refl _⟩
      | called hmay =>
        exact ⟨_, .called nofun (hmay.mono (seenSince_le (Nat.zero_le _) _)), .refl _⟩
      | strays hmay => exact ⟨_, .quiet nofun, rfl, rfl, rfl⟩

end Effect

/-! ## What a whole run leaves -/

section Run

variable {callTimeout c moves}

/-- To look a name up changes nothing. -/
theorem move_lookup (name : String) : c.move callTimeout (.lookup name) = c := rfl

/-- To purge drops the stale ids of the cache and changes nothing else. -/
theorem move_purge :
    c.move callTimeout .purge =
      { c with shared := { c.shared with cache := (c.shared.cache.purge c.shared.now).2 } } := rfl

/-- A move that is no outside call adds none. -/
theorem outsideCall_of_ne {tier : Tier} {m : Move} (hm : ∀ tier call, m ≠ .outside tier call) :
    c.outsideCall tier m = [] := by
  cases m with
  | outside t call => exact absurd rfl (hm t call)
  | start | turn | lookup | purge | clock | arrive | conduct => rfl

/-- **The primary is what outside calls make of it.** -/
theorem primary_run (hc : c.tasks = []) (hastray : c.shared.astray = []) :
    (c.run callTimeout moves).shared.primary =
      c.shared.primary.run (c.outsideCalls callTimeout .primary moves) := by
  induction moves using List.reverseRecOn with
  | nil => rfl
  | append_singleton moves m ih =>
    rw [run_concat, outsideCalls_concat, Store.run_append, ← ih]
    obtain ⟨s, heffect, hagrees⟩ := exists_effect callTimeout moves hc hastray m
    rw [hagrees.primary]
    cases heffect with
    | quiet hm => rw [outsideCall_of_ne hm, Store.run]
    | purged hm | cached hm =>
      rw [hm]
      rfl
    | called hm hmay => rw [outsideCall_of_ne hm, hmay.primary_called, Store.run]
    | @outside tier call hm =>
      rw [hm]
      cases tier <;> rfl

/-- An id that was seen since a task began, and that a step of this task puts into the cache. -/
theorem Provenance.of_turn {i number time : Nat} {task : Task} {tier : Tier} {id : String}
    (hstart : moves[i]? = some (.start task))
    (hnumber : (c.upTo callTimeout moves i).tasks.length = number)
    (hseen : c.seenSince callTimeout moves (i + 1) task.name tier id)
    (hcache : ((c.run callTimeout moves).move callTimeout (.turn number time)).shared.cache =
      (c.run callTimeout moves).shared.cache.insert (c.run callTimeout moves).shared.now task.name
        id) :
    ∃ n, Provenance callTimeout c (moves ++ [.turn number time]) task.name
      ⟨id, (c.run callTimeout moves).shared.now⟩ i n moves.length task tier := by
  obtain ⟨n, hin, hn, hheld⟩ := hseen
  have hi := lt_length_of_getElem? hstart
  have hbefore : c.upTo callTimeout (moves ++ [.turn number time]) moves.length =
      c.run callTimeout moves := by
    rw [upTo_append (Nat.le_refl _), upTo_length]
  have hafter : c.upTo callTimeout (moves ++ [.turn number time]) (moves.length + 1) =
      (c.run callTimeout moves).move callTimeout (.turn number time) := by
    rw [← run_concat, ← upTo_length, List.length_append, List.length_singleton]
  refine ⟨n, getElem?_append_singleton hstart, rfl, hin, ?_, hn, ⟨time, ?_⟩, ?_, ?_⟩
  · rwa [upTo_append hn]
  · rw [upTo_append (by omega), hnumber]
    exact List.getElem?_concat_length
  · rw [hbefore]
  · rw [hbefore, hafter]
    exact hcache

/-- **Every id in the cache has its provenance.** -/
theorem cached_provenance (hc : c.tasks = []) (hastray : c.shared.astray = [])
    (hempty : c.shared.cache.entries = .empty) {name : String} {x : Cached}
    (h : (c.run callTimeout moves).shared.cache.entries.get? name = some x) :
    ∃ i n j task tier, Provenance callTimeout c moves name x i n j task tier := by
  induction moves using List.reverseRecOn with
  | nil =>
    rw [show c.run callTimeout [] = c from rfl, hempty, Table.get?_empty] at h
    cases h
  | append_singleton moves m ih =>
    -- what was there before keeps its provenance
    have hold (h : (c.run callTimeout moves).shared.cache.entries.get? name = some x) :
        ∃ i n j task tier, Provenance callTimeout c (moves ++ [m]) name x i n j task tier := by
      obtain ⟨i, n, j, task, tier, hx⟩ := ih h
      exact ⟨i, n, j, task, tier, hx.concat⟩
    obtain ⟨s, heffect, hagrees⟩ := exists_effect callTimeout moves hc hastray m
    have hcache := hagrees.cache
    rw [run_concat, hcache] at h
    cases heffect with
    | quiet => exact hold h
    | purged => exact hold (Table.get?_filter_eq_some_iff.1 h).1
    | called | outside => exact hold (by rwa [Shared.cache_called] at h)
    | cached hm hstart hnumber hseen =>
      subst hm
      obtain ⟨n, hx⟩ := Provenance.of_turn hstart hnumber hseen hcache
      rw [Cache.insert, Table.get?_insert] at h
      split at h
      · rename_i hname
        cases h
        exact ⟨_, n, _, _, _, hname ▸ hx⟩
      · exact hold h

/-- **Every id in the fallback has its origin.** -/
theorem fallback_origin (hc : c.tasks = []) (hastray : c.shared.astray = []) {name id : String}
    (h : (c.run callTimeout moves).shared.Holds .fallback name id) :
    Origin callTimeout c moves name id := by
  induction moves using List.reverseRecOn with
  | nil => exact .first h
  | append_singleton moves m ih =>
    have hold (h : (c.run callTimeout moves).shared.Holds .fallback name id) :
        Origin callTimeout c (moves ++ [m]) name id := (ih h).concat
    obtain ⟨s, heffect, hagrees⟩ := exists_effect callTimeout moves hc hastray m
    rw [run_concat, Shared.Holds, Shared.store, hagrees.fallback] at h
    cases heffect with
    | quiet | purged | cached => exact hold h
    | called hm hmay =>
      rcases hmay.holds_called h with h | ⟨rfl, n, -, hn, hheld⟩
      · exact hold h
      · -- what is copied was seen in the primary
        exact (Origin.primary hn hheld).concat
    | @outside tier call hm =>
      subst hm
      cases tier with
      | primary => exact hold h
      | fallback =>
        rcases Store.id_answer h with h | ⟨hputs, hok⟩
        · exact hold h
        · refine .outside List.getElem?_concat_length hputs ?_
          rwa [upTo_append (Nat.le_refl _), upTo_length]

/-- **A token of the fallback is bound from outside.** -/
theorem token_move (hc : c.tasks = []) (hastray : c.shared.astray = []) {m : Move} {name : String}
    (h : ∀ call token, m = .outside .fallback call → ¬ call.Binds name token) :
    ((((c.run callTimeout moves).move callTimeout m).shared.fallback.get? name).bind (·.token)) =
      ((c.run callTimeout moves).shared.fallback.get? name).bind (·.token) := by
  obtain ⟨s, heffect, hagrees⟩ := exists_effect callTimeout moves hc hastray m
  rw [hagrees.fallback]
  cases heffect with
  | quiet | purged | cached => rfl
  | called hm hmay => exact hmay.token_called name
  | @outside tier call hm =>
    cases tier with
    | primary => rfl
    | fallback => exact Store.token_answer fun token => h call token hm

end Run

/-- **Where ids come from, in any interleaving.** Begin with any two stores and an empty cache, and
let tasks, their steps, and everything around them follow each other in any order. The primary is
what outside calls make of it. Every id in the cache was held for the name by one of the stores
after the task began that put it there. Every id in the fallback was there at first, was written
from outside, or was held for the name by the primary before. A move changes a token of the fallback
only if it is an outside call that binds it. And neither a look-up nor a purge touches a store. -/
theorem provenance_of_run (callTimeout ttl : Nat) (s : Shared) (moves : List Move) :
    let first := opened s ttl
    let last := first.run callTimeout moves
    last.shared.primary = s.primary.run (first.outsideCalls callTimeout .primary moves) ∧
    (∀ name x, last.shared.cache.entries.get? name = some x →
      ∃ i n j task tier, Provenance callTimeout first moves name x i n j task tier) ∧
    (∀ name id, last.shared.Holds .fallback name id → Origin callTimeout first moves name id) ∧
    (∀ n m name, moves[n]? = some m →
      (∀ call token, m = .outside .fallback call → ¬ call.Binds name token) →
      ((first.upTo callTimeout moves (n + 1)).shared.fallback.get? name).bind (·.token) =
        ((first.upTo callTimeout moves n).shared.fallback.get? name).bind (·.token)) ∧
    (∀ (c : Config) (name : String), c.move callTimeout (.lookup name) = c ∧
      c.move callTimeout .purge =
        { c with shared := { c.shared with cache := (c.shared.cache.purge c.shared.now).2 } }) := by
  intro first last
  refine ⟨primary_run rfl rfl, fun name x => cached_provenance rfl rfl rfl,
    fun name id => fallback_origin rfl rfl, fun n m name hm hbinds => ?_,
    fun c name => ⟨move_lookup name, move_purge⟩⟩
  have hnext : first.upTo callTimeout moves (n + 1) =
      (first.upTo callTimeout moves n).move callTimeout m := by
    rw [upTo, List.take_add_one, hm]
    exact run_concat
  rw [hnext]
  exact token_move rfl rfl hbinds

/-- A copy may be overtaken: the fallback ends with an id that the primary held when the refresh
read it, and not with the one that it holds by now. -/
example :
    let s : Shared :=
      ⟨default, .empty 1, .empty, .empty, [], fun _ => .reaches (.lasts 1) (.lasts 1)⟩
    let turns := List.replicate 6 (Move.turn 0 0)
    let moves := .outside .primary (.put "edge" "1") :: .start (.refresh "edge" none) :: turns ++
      .outside .primary (.put "edge" "2") :: turns
    let last := ((opened s 1).run 10 moves).shared
    (last.primary.get? "edge").map (·.id) = some "2" ∧
      (last.fallback.get? "edge").map (·.id) = some "1" := by
  decide +kernel

end Config

end GatewayDirectory.Resolution
