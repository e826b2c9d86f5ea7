import GatewayDirectory.Directory.Store
import GatewayDirectory.Proofs.Timed.Limits
import GatewayDirectory.Resolution.Client

/-!
# Reads through the tiers

What a client finds for a name, and what it does on the way. The directories are arbitrary: they
work on an outside of which the cache is no part, and each call answers after any time or hangs. To
refresh a name and to resolve one that is not fresh in the cache come to the same `finding`, and
leave the same cache; they differ only in what they then ask of the fallback.
-/

namespace GatewayDirectory.Resolution

open Directory

/-- The directories of a client. -/
inductive Tier where
  | primary
  | fallback
deriving DecidableEq, Inhabited

/-! ## A client whose calls are noted -/

/-- A cache, the calls that were made to the directories, in order, and all that lies outside. -/
structure Desk (ω : Type) where
  cache : Cache
  calls : List (Tier × Call)
  outside : ω

namespace Desk

variable {ω α : Type}

/-- The cache as a part of a desk. -/
def cachePart : Part (Desk ω) Cache := ⟨Desk.cache, fun cache s => { s with cache }⟩

/-- A computation on the outside. -/
def reach : Timed ω α → Timed (Desk ω) α
  | .done a => .done a
  | .step change next =>
    .step (fun s => { s with outside := change s.outside }) fun s => reach (next s.outside)
  | .clock next => .clock fun t => reach (next t)
  | .emit e next => .emit e (reach next)
  | .wait ms next => .wait ms (reach next)
  | .hang => .hang
  | .endless => .endless

/-- A directory on the outside whose calls are noted as they are made. -/
def noting (tier : Tier) (d : Directory ω) : Directory (Desk ω) := fun c => do
  Timed.modify fun s => { s with calls := s.calls ++ [(tier, c)] }
  reach (d c)

/-- The client of two directories on the outside. -/
def client (primary fallback : Directory ω) (clock : ω → Instant) (callTimeout : Nat) :
    Client (Desk ω) where
  primary := noting .primary primary
  fallback := noting .fallback fallback
  cache := cachePart
  clock := fun s => clock s.outside
  callTimeout := callTimeout

/-- A computation on the outside runs as it does by itself. -/
theorem run_reach (x : Timed ω α) (t : Nat) (s : Desk ω) :
    (reach x).run t s =
      ⟨(x.run t s.outside).ending, { s with outside := (x.run t s.outside).state },
        (x.run t s.outside).time, (x.run t s.outside).events⟩ := by
  induction x generalizing t s with
  | done a => rfl
  | step change next ih => exact ih s.outside t { s with outside := change s.outside }
  | clock next ih => exact ih t t s
  | emit e next ih => simp only [reach, Timed.run, ih]
  | wait ms next ih => exact ih (t + ms) s
  | hang => rfl
  | endless => rfl

/-- To cut off a computation on the outside is to do so there. -/
theorem bounded_reach (limit : Nat) (x : Timed ω α) :
    Timed.bounded limit (reach x) = reach (Timed.bounded limit x) := by
  induction x generalizing limit with
  | done a => rfl
  | step change next ih => simp only [reach, Timed.bounded, ih]
  | clock next ih => simp only [reach, Timed.bounded, ih]
  | emit e next ih => simp only [reach, Timed.bounded, ih]
  | wait ms next ih =>
    simp only [reach, Timed.bounded]
    split
    · simp only [reach, ih]
    · rfl
  | hang => rfl
  | endless => rfl

end Desk

/-! ## One call -/

section Call

variable {ω : Type} {d : Directory ω}

/-- Every call answers some time or hangs. -/
def AnswersOrHangs (d : Directory ω) : Prop :=
  ∀ c t w, ((d c).run t w).ending ≠ .endless

/-- What a call answers within a limit, if it succeeds. -/
def success (limit : Nat) (d : Directory ω) (c : Call) (t : Nat) (w : ω) : Option c.Answer :=
  match ((d c).run t w).ending with
  | .value (.ok a) => if ((d c).run t w).time ≤ t + limit then some a else none
  | _ => none

/-- When a call is over that is cut off at a limit, and what it leaves of the outside. -/
def after (limit : Nat) (d : Directory ω) (c : Call) (t : Nat) (w : ω) : Nat × ω :=
  let r := (Timed.bounded limit (d c)).run t w
  (r.time, r.state)

/-- A call that is cut off is over within the limit, and succeeds with what it answers by then. -/
theorem ending_bounded (hd : AnswersOrHangs d) (limit : Nat) (c : Call) (t : Nat) (w : ω) :
    ∃ o : Option (Result c.Answer), ((Timed.bounded limit (d c)).run t w).ending = .value o ∧
      (after limit d c t w).1 ≤ t + limit ∧
      ∀ a, o = some (.ok a) ↔ success limit d c t w = some a := by
  unfold after success
  cases hending : ((d c).run t w).ending with
  | value r =>
    rcases Nat.lt_or_ge (t + limit) ((d c).run t w).time with hlt | hle
    · -- the answer comes too late
      obtain ⟨hnone, htime⟩ := Timed.run_bounded_of_late limit (.inr hlt)
      refine ⟨none, hnone, Nat.le_of_eq htime, fun a => ?_⟩
      cases r with
      | ok b => simp [Nat.not_le.2 hlt]
      | error e => simp
    · have hrun := Timed.run_bounded_of_le hending hle
      refine ⟨some r, by rw [hrun], by rw [hrun]; exact hle, fun a => ?_⟩
      cases r with
      | ok b => simp [hle]
      | error e => simp
  | hung =>
    obtain ⟨hnone, htime⟩ := Timed.run_bounded_of_late limit (.inl hending)
    exact ⟨none, hnone, Nat.le_of_eq htime, by simp⟩
  | endless => exact absurd hending (hd c t w)

/-- **One call of a client**: it is noted, it is over within the limit, it succeeds with what the
directory answers within the limit, and it leaves the cache alone. -/
theorem ends_bounded (primary fallback : Directory ω) (clock : ω → Instant) (limit : Nat)
    (hd : AnswersOrHangs d) (tier : Tier) (c : Call) (t : Nat) (s : Desk ω) :
    ∃ r : Result c.Answer,
      ((Desk.client primary fallback clock limit).bounded (Desk.noting tier d c)).Ends t s r
        (after limit d c t s.outside).1
        { s with calls := s.calls ++ [(tier, c)], outside := (after limit d c t s.outside).2 } ∧
      (after limit d c t s.outside).1 ≤ t + limit ∧
      (∀ a, r = .ok a ↔ success limit d c t s.outside = some a) := by
  obtain ⟨o, hending, htime, hsuccess⟩ := ending_bounded hd limit c t s.outside
  have hcall : (Timed.bounded limit (Desk.noting tier d c)).Ends t s o
      (after limit d c t s.outside).1
      { s with calls := s.calls ++ [(tier, c)], outside := (after limit d c t s.outside).2 } := by
    refine ⟨((Timed.bounded limit (d c)).run t s.outside).events, ?_⟩
    show (Timed.bounded limit (Desk.reach (d c))).run t _ = _
    rw [Desk.bounded_reach, Desk.run_reach, hending]
    rfl
  cases o with
  | none =>
    refine ⟨_, hcall.bind ((Timed.Answers.pure _ _).ends _), htime, fun a => ?_⟩
    rw [← hsuccess]
    simp
  | some r =>
    refine ⟨r, hcall.bind ((Timed.Answers.pure _ _).ends _), htime, fun a => ?_⟩
    rw [← hsuccess]
    simp

end Call

/-! ## Findings -/

section Finding

variable {ω : Type}

/-- What a directory holds for a name: the id that it answers within the limit, and what the clock
shows when the answer is there. -/
def held (limit : Nat) (d : Directory ω) (clock : ω → Instant) (name : String) (t : Nat) (w : ω) :
    Option (String × Instant) :=
  (success limit d (.get name) t w).map fun e => (e.id, clock (after limit d (.get name) t w).2)

/-- What the tiers hold for a name: what the primary holds or else, when that call is over, the
fallback. -/
def finding (limit : Nat) (primary fallback : Directory ω) (clock : ω → Instant) (name : String)
    (t : Nat) (w : ω) : Option (String × Instant) :=
  (held limit primary clock name t w).or
    (held limit fallback clock name (after limit primary (.get name) t w).1
      (after limit primary (.get name) t w).2)

/-- The call that a refresh makes after it has read the primary: a write of what was read into the
fallback, or else a read there. -/
def secondCall (name : String) (token : Option String) : Option Entry → Call
  | some e => .putAuthorized name e.id token
  | none => .get name

/-- The cache with what was found for a name; as it was if nothing was. -/
def keeping (cache : Cache) (name : String) : Option (String × Instant) → Cache
  | some (id, now) => cache.insert now name id
  | none => cache

/-- Begun at the time `t` on the desk `s`, the computation ends within `limit` with the id that was
found for a name, which the cache then holds, and makes just the given calls. -/
def Finds (x : Timed (Desk ω) (Option String)) (t : Nat) (s : Desk ω) (name : String)
    (found : Option (String × Instant)) (limit : Nat) (calls : List (Tier × Call)) : Prop :=
  ∃ t' s', x.Ends t s (found.map (·.1)) t' s' ∧ t' ≤ t + limit ∧
    s'.cache = keeping s.cache name found ∧ s'.calls = s.calls ++ calls

namespace Finds

variable {α : Type} {x : Timed (Desk ω) (Option String)} {t t₁ limit more : Nat} {s s₁ : Desk ω}
  {name : String} {found : Option (String × Instant)} {calls : List (Tier × Call)}

/-- What is at hand is found at once and without a call. -/
theorem of_answers (h : x.Answers s (found.map (·.1)) { s with cache := keeping s.cache name found })
    (limit : Nat) : Finds x t s name found limit [] :=
  ⟨t, _, h.ends t, Nat.le_add_right t limit, rfl, (List.append_nil _).symm⟩

/-- What answers at once and changes nothing may come before. -/
theorem after_answer {y : Timed (Desk ω) α} {f : α → Timed (Desk ω) (Option String)} {r : α}
    (hy : y.Answers s r s) (hf : Finds (f r) t s name found limit calls) :
    Finds (y >>= f) t s name found limit calls := by
  obtain ⟨t', s', hends, hrest⟩ := hf
  exact ⟨t', s', (hy.ends t).bind hends, hrest⟩

/-- A call that leaves the cache alone comes before what is found after it. -/
theorem after_call {y : Timed (Desk ω) α} {f : α → Timed (Desk ω) (Option String)} {r : α}
    {call : Tier × Call} (hy : y.Ends t s r t₁ s₁) (htime : t₁ ≤ t + limit)
    (hcache : s₁.cache = s.cache) (hcalls : s₁.calls = s.calls ++ [call])
    (hf : Finds (f r) t₁ s₁ name found more calls) :
    Finds (y >>= f) t s name found (limit + more) (call :: calls) := by
  obtain ⟨t', s', hends, htime', hcache', hcalls'⟩ := hf
  refine ⟨t', s', hy.bind hends, by omega, by rw [hcache', hcache], ?_⟩
  rw [hcalls', hcalls, List.append_assoc, List.singleton_append]

end Finds

end Finding

/-! ## The two ways to read -/

section Client

variable {ω : Type} {primary fallback : Directory ω}

section Held

variable {d : Directory ω} {limit t : Nat} {name : String} {w : ω}

/-- A call that succeeds in time answers what the directory holds. -/
theorem held_of_ok {e : Entry} (h : success limit d (.get name) t w = some e)
    (clock : ω → Instant) :
    held limit d clock name t w = some (e.id, clock (after limit d (.get name) t w).2) := by
  rw [held, h, Option.map_some]

/-- Where no call succeeds in time, nothing is held. -/
theorem held_of_none (h : success limit d (.get name) t w = none) (clock : ω → Instant) :
    held limit d clock name t w = none := by
  rw [held, h, Option.map_none]

/-- What the primary holds is what the tiers hold. -/
theorem finding_of_ok {e : Entry} (h : success limit primary (.get name) t w = some e)
    (clock : ω → Instant) :
    finding limit primary fallback clock name t w =
      some (e.id, clock (after limit primary (.get name) t w).2) := by
  rw [finding, held_of_ok h, Option.some_or]

/-- Where the primary holds nothing, what the fallback holds is what the tiers hold. -/
theorem finding_of_none (h : success limit primary (.get name) t w = none) (clock : ω → Instant) :
    finding limit primary fallback clock name t w =
      held limit fallback clock name (after limit primary (.get name) t w).1
        (after limit primary (.get name) t w).2 := by
  rw [finding, held_of_none h, Option.none_or]

/-- The id that is found for a name is the one that the primary answers in time or, where it does
not, the one that the fallback answers in time. -/
theorem finding_eq_some_iff (clock : ω → Instant) (id : String) :
    (finding limit primary fallback clock name t w).map (·.1) = some id ↔
      (∃ e, success limit primary (.get name) t w = some e ∧ e.id = id) ∨
      (success limit primary (.get name) t w = none ∧
        ∃ e, success limit fallback (.get name) (after limit primary (.get name) t w).1
          (after limit primary (.get name) t w).2 = some e ∧ e.id = id) := by
  cases hhit : success limit primary (.get name) t w with
  | some e => simp [finding_of_ok hhit]
  | none => simp [finding_of_none hhit, held]

/-- A call that fails is no success. -/
theorem success_of_error {c : Call} {err : Error}
    (h : ∀ a, (.error err : Result c.Answer) = .ok a ↔ success limit d c t w = some a) :
    success limit d c t w = none := by
  rw [Option.eq_none_iff_forall_ne_some]
  intro a ha
  cases (h a).2 ha

end Held

variable (hprimary : AnswersOrHangs primary) (hfallback : AnswersOrHangs fallback)
  (clock : ω → Instant) (limit : Nat) (name : String) (t : Nat) (s : Desk ω)

/-- What is found is put into the cache as seen now. -/
theorem remember_answers (id : String) :
    ((Desk.client primary fallback clock limit).remember name id).Answers s ()
      { s with cache := s.cache.insert (clock s.outside) name id } :=
  .modify _ _

/-- To look up a name reads the cache alone. -/
theorem lookup_answers :
    ((Desk.client primary fallback clock limit).lookup name).Answers s
      (s.cache.get? (clock s.outside) name) s :=
  (Timed.Answers.read _ _).bind ((Timed.Answers.report _ _).bind (.pure _ _))

/-- A name that is fresh in the cache is resolved at once, and nothing changes. -/
theorem resolve_answers {id : String} (hfresh : s.cache.get? (clock s.outside) name = some id) :
    ((Desk.client primary fallback clock limit).resolve name).Answers s (some id) s := by
  refine (lookup_answers clock limit name s).bind ?_
  rw [hfresh]
  exact .pure _ _

include hfallback in
/-- The fallback is read once. -/
theorem fillFromFallback_finds :
    Finds ((Desk.client primary fallback clock limit).fillFromFallback name) t s name
      (held limit fallback clock name t s.outside) limit [(.fallback, .get name)] := by
  obtain ⟨r, hends, htime, hsuccess⟩ :=
    ends_bounded primary fallback clock limit hfallback .fallback (.get name) t s
  cases r with
  | ok e =>
    rw [held_of_ok ((hsuccess e).1 rfl)]
    refine .after_call hends htime rfl rfl (.of_answers ?_ 0)
    exact (remember_answers clock limit name _ e.id).bind (.pure (some e.id) _)
  | error err =>
    rw [held_of_none (success_of_error hsuccess)]
    refine .after_call hends htime rfl rfl (.of_answers ?_ 0)
    exact (Timed.Answers.report _ _).bind (.pure none _)

include hprimary hfallback

/-- **To refresh a name finds what the tiers hold.** What the primary holds is copied into the
fallback, by one call; the fallback is read only where the primary holds nothing. -/
theorem refreshNow_finds (token : Option String) :
    Finds ((Desk.client primary fallback clock limit).refreshNow name token) t s name
      (finding limit primary fallback clock name t s.outside) (limit + limit)
      [(.primary, .get name),
        (.fallback, secondCall name token (success limit primary (.get name) t s.outside))] := by
  obtain ⟨r, hends, htime, hsuccess⟩ :=
    ends_bounded primary fallback clock limit hprimary .primary (.get name) t s
  cases r with
  | ok e =>
    rw [finding_of_ok ((hsuccess e).1 rfl), (hsuccess e).1 rfl]
    generalize after limit primary (.get name) t s.outside = left at hends htime ⊢
    obtain ⟨t₁, w₁⟩ := left
    -- the copy is over in time whatever comes of it, and leaves the cache as it is by then
    let cached : Desk ω :=
      ⟨s.cache.insert (clock w₁) name e.id, s.calls ++ [(.primary, .get name)], w₁⟩
    obtain ⟨copied, hcopy, htime', -⟩ := ends_bounded primary fallback clock limit hfallback
      .fallback (.putAuthorized name e.id token) t₁ cached
    generalize after limit fallback (.putAuthorized name e.id token) t₁ _ = left at hcopy htime'
    obtain ⟨t₂, w₂⟩ := left
    refine ⟨t₂, ⟨cached.cache, cached.calls ++ [(.fallback, .putAuthorized name e.id token)], w₂⟩,
      hends.bind (Timed.Ends.bind ((remember_answers clock limit name _ e.id).ends _)
        (hcopy.bind ?_)), ?_, rfl, ?_⟩
    · cases copied with
      | ok e' => exact ((Timed.Answers.report _ _).bind (.pure (some e.id) _)).ends _
      | error err => exact ((Timed.Answers.report _ _).bind (.pure (some e.id) _)).ends _
    · omega
    · exact List.append_assoc _ _ _
  | error err =>
    have hmiss := success_of_error hsuccess
    rw [finding_of_none hmiss, hmiss]
    refine .after_call hends htime rfl rfl (.after_answer (.report _ _) ?_)
    exact fillFromFallback_finds hfallback clock limit name _ _

/-- **To resolve a name that is not fresh in the cache finds the same**, by reads alone. -/
theorem resolve_finds (hstale : s.cache.get? (clock s.outside) name = none) :
    Finds ((Desk.client primary fallback clock limit).resolve name) t s name
      (finding limit primary fallback clock name t s.outside) (limit + limit)
      ((.primary, .get name) ::
        match success limit primary (.get name) t s.outside with
        | some _ => []
        | none => [(.fallback, .get name)]) := by
  refine .after_answer (lookup_answers clock limit name s) ?_
  rw [hstale]
  obtain ⟨r, hends, htime, hsuccess⟩ :=
    ends_bounded primary fallback clock limit hprimary .primary (.get name) t s
  cases r with
  | ok e =>
    rw [finding_of_ok ((hsuccess e).1 rfl), (hsuccess e).1 rfl]
    refine .after_call hends htime rfl rfl (.of_answers ?_ limit)
    exact (remember_answers clock limit name _ e.id).bind (.pure (some e.id) _)
  | error err =>
    have hmiss := success_of_error hsuccess
    rw [finding_of_none hmiss, hmiss]
    refine .after_call hends htime rfl rfl ?_
    -- a plain miss is not worth a report here
    show Finds (if _ then _ else _) _ _ _ _ _ _
    split
    · exact .after_answer (.report _ _) (fillFromFallback_finds hfallback clock limit name _ _)
    · exact fillFromFallback_finds hfallback clock limit name _ _

/-- **A refresh and a resolution decide alike.** Let the directories answer their calls in any way,
or hang. A refresh finds the id that the primary answers in time or else the fallback, holds it in
the cache as seen now, or leaves the cache as it is if there is none; it makes one further call to
the fallback, which is a write just when the primary was read, and in that case nothing that it
finds depends on the fallback. A name that is fresh in the cache is resolved without a call; any
other is resolved to what a refresh finds, and the cache is then the one that a refresh leaves, but
directories are only read. Neither takes longer than two calls may take. -/
theorem tiered_reads (token : Option String) :
    let client := Desk.client primary fallback clock limit
    let hit := success limit primary (.get name) t s.outside
    let left := after limit primary (.get name) t s.outside
    let found := finding limit primary fallback clock name t s.outside
    let fresh := s.cache.get? (clock s.outside) name
    (∀ id, found.map (·.1) = some id ↔
      (∃ e, hit = some e ∧ e.id = id) ∨
      (hit = none ∧ ∃ e, success limit fallback (.get name) left.1 left.2 = some e ∧ e.id = id)) ∧
    Finds (client.refreshNow name token) t s name found (limit + limit)
      [(.primary, .get name), (.fallback, secondCall name token hit)] ∧
    (∀ (other : Directory ω) (w : ω), AnswersOrHangs other → hit ≠ none →
      success limit primary (.get name) t w = hit →
      clock (after limit primary (.get name) t w).2 = clock left.2 →
      Finds ((Desk.client primary other clock limit).refreshNow name token) t
        { s with outside := w } name found (limit + limit)
        [(.primary, .get name), (.fallback, secondCall name token hit)]) ∧
    (client.lookup name).Answers s fresh s ∧
    (∀ id, fresh = some id → (client.resolve name).Answers s (some id) s) ∧
    (fresh = none → Finds (client.resolve name) t s name found (limit + limit)
      ((.primary, .get name) ::
        match hit with
        | some _ => []
        | none => [(.fallback, .get name)])) := by
  intro client hit left found fresh
  refine ⟨finding_eq_some_iff clock,
    refreshNow_finds hprimary hfallback clock limit name t s token, ?_,
    lookup_answers clock limit name s, fun id => resolve_answers clock limit name s,
    resolve_finds hprimary hfallback clock limit name t s⟩
  intro other w hother hhit hsame hclock
  obtain ⟨e, he⟩ := Option.ne_none_iff_exists'.1 hhit
  have hfinds :=
    refreshNow_finds hprimary hother clock limit name t { s with outside := w } token
  rw [finding_of_ok (hsame.trans he), hclock, hsame] at hfinds
  rw [show found = some (e.id, clock left.2) from finding_of_ok he clock]
  exact hfinds

end Client

/-- A store in memory answers its calls. -/
theorem answersOrHangs_directory {σ : Type} (clock : σ → Instant) (store : Part σ Store) :
    AnswersOrHangs (Store.directory clock store) := by
  intro c t w h
  cases h

/-- The primary hangs, and a refresh finds what the fallback holds; to resolve the name after that
needs no call. -/
theorem tiered_reads_of_hang :
    let silent : Directory Store := fun _ => .hang
    let memory : Directory Store := Store.directory (fun _ => default) .whole
    let desk : Desk Store := ⟨.empty 1, [], Table.empty.insert "edge" (.create "edge" "7" default)⟩
    let client := Desk.client silent memory (fun _ => default) 5
    AnswersOrHangs silent ∧ AnswersOrHangs memory ∧
      ∃ t' desk', (client.refreshNow "edge" none).Ends 0 desk (some "7") t' desk' ∧ t' ≤ 10 ∧
        (client.resolve "edge").Answers desk' (some "7") desk' := by
  intro silent memory desk client
  have hsilent : AnswersOrHangs silent := fun _ _ _ h => nomatch h
  have hmemory : AnswersOrHangs memory := answersOrHangs_directory _ _
  have hfound : finding 5 silent memory (fun _ => default) "edge" 0 desk.outside =
      some ("7", default) := by decide +kernel
  obtain ⟨-, ⟨t', desk', hends, htime, hcache, -⟩, -⟩ :=
    tiered_reads hsilent hmemory (fun _ => default) 5 "edge" 0 desk none
  rw [hfound] at hends hcache
  obtain ⟨-, -, -, -, hfresh, -⟩ :=
    tiered_reads hsilent hmemory (fun _ => default) 5 "edge" t' desk' none
  refine ⟨hsilent, hmemory, t', desk', hends, by omega, hfresh "7" ?_⟩
  rw [hcache]
  decide +kernel

end GatewayDirectory.Resolution
