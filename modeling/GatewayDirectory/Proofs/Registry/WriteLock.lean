import GatewayDirectory.Proofs.Registry.Handling

/-!
# The write lock

A registry whose requests come one after the other keeps its entries locked. A request changes an
entry only if nothing is locked, or if it supplies the registry's token or the one bound to the
entry just before (`change_unlocks`). A bound token is never unbound (`isBound_serve`), so an entry
with a token stays as it is as long as no request supplies one of the two.
-/

namespace GatewayDirectory.Registry

open Http

/-- The token that the body of a request supplies for the write that its path asks for. -/
def suppliedToken (r : Request) : Option String :=
  match routeOf r with
  | some (.gateway _) =>
    match decodeBody Payload.decode Payload.decode r with
    | .ok p => p.token
    | .error _ => none
  | some (.gatewayToken _) =>
    match decodeBody TokenUpdate.decode TokenUpdate.decode r with
    | .ok u => u.writeToken
    | .error _ => none
  | _ => none

/-- The store after a registry in memory handled a request at a point of time. -/
def serve (token : Option String) (now : Instant) (r : Request) (s : Store) : Store :=
  (((Host.registry token).handle r).run 0 ⟨now, s⟩).state.store

/-- The store after requests that are handled one after the other, each at its time. -/
def serveAll (token : Option String) (s : Store) (requests : List (Instant × Request)) : Store :=
  requests.foldl (fun s x => serve token x.1 x.2 s) s

/-- No token locks the entry of a name: the registry has none, and none is bound to the entry. -/
def IsOpen (token : Option String) (s : Store) (name : String) : Prop :=
  effective token = none ∧ effective (boundToken s name) = none

/-- The request supplies a token that is not empty, and it is the registry's or the one bound to the
entry. -/
def Unlocks (token : Option String) (s : Store) (name : String) (r : Request) : Prop :=
  ∃ t, suppliedToken r = some t ∧ t ≠ "" ∧ (token = some t ∨ boundToken s name = some t)

/-! ## Tokens -/

/-- A token that is missing or empty counts as none. -/
theorem effective_eq_none_iff {token : Option String} :
    effective token = none ↔ ∀ t, token = some t → t = "" := by
  cases token with
  | none => simp [effective]
  | some t => simp [effective, Option.filter]

/-- A token that is not empty counts as itself. -/
theorem effective_eq_some_iff {token : Option String} {t : String} :
    effective token = some t ↔ token = some t ∧ t ≠ "" := by
  simp [effective, Option.filter_eq_some_iff]

/-- **Authorization in words.** -/
theorem isAuthorized_iff {token bound supplied : Option String} :
    isAuthorized (effective token) bound supplied = true ↔
      (effective token = none ∧ effective bound = none) ∨
        ∃ t, supplied = some t ∧ t ≠ "" ∧ (token = some t ∨ bound = some t) := by
  by_cases hopen : effective token = none ∧ effective bound = none
  · simp [isAuthorized, hopen.1, hopen.2]
  · -- a token is asked for, so what is supplied decides
    have hlocked : ((effective token).isNone && (effective bound).isNone) = false := by
      rw [← Bool.not_eq_true]
      simpa using hopen
    simp only [isAuthorized, hlocked, Bool.false_eq_true, if_false, hopen, false_or]
    cases hs : effective supplied with
    | none =>
      -- what is supplied is no token or the empty one
      have hempty := effective_eq_none_iff.1 hs
      simp only [Bool.false_eq_true, false_iff]
      rintro ⟨t, ht, hne, -⟩
      exact hne (hempty t ht)
    | some t =>
      obtain ⟨rfl, ht⟩ := effective_eq_some_iff.1 hs
      simp [effective_eq_some_iff, ht]

/-! ## One request -/

section Step

variable {token : Option String} {now : Instant} {r : Request} {s : Store} {name : String}

/-- A request that is served is answered in one of the three ways, and the store is the one that is
left. -/
theorem serve_handled (token : Option String) (now : Instant) (r : Request) (s : Store) :
    ∃ response, (((Host.registry token).handle r).run 0 ⟨now, s⟩).ending = .value response ∧
      Service.Handled token ⟨now, s⟩ r response (serve token now r s) := by
  obtain ⟨response, s', hanswer, hhandled⟩ := Service.handle_handles token ⟨now, s⟩ r
  have hstore : serve token now r s = s' := by
    simp only [serve, hanswer.state_run 0]
  exact ⟨response, hanswer.ending_run 0, hstore ▸ hhandled⟩

/-- A sound write of an id supplies the token of its payload. -/
theorem suppliedToken_of_isWrite {segment n : String} {p : Payload}
    (hroute : routeOf r = some (.gateway segment)) (hw : IsWrite segment r n p) :
    suppliedToken r = p.token := by
  simp only [suppliedToken, hroute, hw.body_eq]

/-- A sound write of a token supplies the authorization of its update. -/
theorem suppliedToken_of_isBinding {segment n : String} {u : TokenUpdate}
    (hroute : routeOf r = some (.gatewayToken segment)) (hb : IsBinding segment r n u) :
    suppliedToken r = u.writeToken := by
  simp only [suppliedToken, hroute, hb.body_eq]

/-- **A request changes an entry only if nothing locks it or the request unlocks it.** -/
theorem change_unlocks (hchange : (serve token now r s).get? name ≠ s.get? name) :
    IsOpen token s name ∨ Unlocks token s name r := by
  obtain ⟨response, -, hhandled⟩ := serve_handled token now r s
  -- of the store that is left only the three ways tell
  generalize serve token now r s = s' at *
  cases hhandled with
  | kept => exact absurd rfl hchange
  | @written segment n p hroute hput hw hauth =>
    -- a write changes the entry of its own name only
    have heq : n = name := by
      by_contra hne
      simp [Store.put_of_valid hw.valid hw.id_ne, Table.get?_insert, hne] at hchange
    subst heq
    rw [isAuthorized_iff] at hauth
    simpa only [IsOpen, Unlocks, suppliedToken_of_isWrite hroute hw] using hauth
  | @bound segment n u e hroute hput hb hauth he =>
    have heq : n = name := by
      by_contra hne
      simp [Table.get?_insert, hne] at hchange
    subst heq
    rw [isAuthorized_iff] at hauth
    simpa only [IsOpen, Unlocks, suppliedToken_of_isBinding hroute hb] using hauth

/-- **A bound token is replaced at most by another one.** -/
theorem isBound_serve (hbound : effective (boundToken s name) ≠ none) :
    effective (boundToken (serve token now r s) name) ≠ none := by
  obtain ⟨response, -, hhandled⟩ := serve_handled token now r s
  generalize serve token now r s = s' at *
  cases hhandled with
  | kept => exact hbound
  | @written segment n p hroute hput hw hauth =>
    rw [boundToken, Store.token_put]
    exact hbound
  | @bound segment n u e hroute hput hb hauth he =>
    rw [boundToken, Table.get?_insert]
    split
    · -- the token that is bound instead is not empty
      simp [Entry.bind, effective_eq_none_iff, hb.token_ne]
    · exact hbound

end Step

/-! ## Runs -/

section Run

variable {token : Option String} {s : Store} {name : String}

/-- An entry that has a token has one after any further requests. -/
theorem isBound_serveAll (requests : List (Instant × Request))
    (hbound : effective (boundToken s name) ≠ none) :
    effective (boundToken (serveAll token s requests) name) ≠ none := by
  induction requests generalizing s with
  | nil => exact hbound
  | cons x requests ih => exact ih (isBound_serve hbound)

/-- The request supplies neither the registry's token nor `t`. -/
def Lacks (token : Option String) (t : String) (r : Request) : Prop :=
  suppliedToken r ≠ some t ∧ ∀ w, effective token = some w → suppliedToken r ≠ some w

/-- An entry with a token stays as it is while requests lack a token for it. -/
theorem locked_serveAll {e : Entry} {t : String} (requests : List (Instant × Request))
    (he : s.get? name = some e) (ht : e.token = some t) (hne : t ≠ "")
    (hlacks : ∀ x ∈ requests, Lacks token t x.2) :
    (serveAll token s requests).get? name = some e := by
  induction requests generalizing s with
  | nil => exact he
  | cons x requests ih =>
    -- the first request leaves the entry as it is, and so the others find it as before
    refine ih ?_ fun y hy => hlacks y (List.mem_cons_of_mem _ hy)
    have hx := hlacks x List.mem_cons_self
    have hbound : boundToken s name = some t := by simp [boundToken, he, ht]
    by_contra hchange
    rw [← he] at hchange
    -- a change would need an entry without a token, or one of the two tokens
    rcases change_unlocks hchange with ⟨-, hopen⟩ | ⟨t', hsupplied, hne', hkey | hkey⟩
    · exact hne (effective_eq_none_iff.1 hopen t hbound)
    · exact hx.2 t' (effective_eq_some_iff.2 ⟨hkey, hne'⟩) hsupplied
    · rw [hbound] at hkey
      exact hx.1 (hkey ▸ hsupplied)

end Run

/-- **The write lock holds over every run.** In the state that any requests leave, every request is
answered; it changes the entry of a name only if nothing locks that entry or the request unlocks
it; an entry with a token has one in every later state; and it stays exactly as it is through any
further requests that lack both the registry's token and its own. -/
theorem write_lock_of_runs (token : Option String) (s₀ : Store)
    (before : List (Instant × Request)) :
    let s := serveAll token s₀ before
    (∀ now r, ∃ response,
      (((Host.registry token).handle r).run 0 ⟨now, s⟩).ending = .value response) ∧
    (∀ now r name, (serve token now r s).get? name ≠ s.get? name →
      IsOpen token s name ∨ Unlocks token s name r) ∧
    (∀ after name, effective (boundToken s name) ≠ none →
      effective (boundToken (serveAll token s after) name) ≠ none) ∧
    (∀ after name e t, s.get? name = some e → e.token = some t → t ≠ "" →
      (∀ x ∈ after, Lacks token t x.2) → (serveAll token s after).get? name = some e) := by
  intro s
  refine ⟨fun now r => ?_, fun now r name => change_unlocks,
    fun after name => isBound_serveAll after, fun after name e t => locked_serveAll after⟩
  obtain ⟨response, hending, -⟩ := serve_handled token now r s
  exact ⟨response, hending⟩

end GatewayDirectory.Registry
