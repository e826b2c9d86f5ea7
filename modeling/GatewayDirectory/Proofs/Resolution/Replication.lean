import GatewayDirectory.Proofs.Registry.Remote
import GatewayDirectory.Proofs.Resolution.Tiers
import GatewayDirectory.Proofs.Timed.Parts

/-!
# Copies into a fallback

A refresh that reads an id from the primary copies it into the fallback by one write. Let the
fallback be a directory of a registry, whose host is a part of the outside. Then the refresh leaves
there what that write leaves, whether it succeeds or not (`refreshNow_copies`). The token that a
refresh brings serves for nothing else: where the primary has no answer, it makes no difference
(`refreshNow_of_miss`).
-/

namespace GatewayDirectory.Resolution

open Directory Registry Remote

section Part

variable {ω σ α : Type} {part : Part ω σ}

/-- A directory that works on a part of a state. -/
def onPart (part : Part ω σ) (d : Directory σ) : Directory ω := fun c => Timed.within part (d c)

/-- On a part of the outside, a computation ends as it does by itself. -/
theorem reach_within_ends (hpart : part.Lawful) {x : Timed σ α} {t t' : Nat} {s : Desk ω} {r : α}
    {a : σ} (h : x.Ends t (part.get s.outside) r t' a) :
    (Desk.reach (Timed.within part x)).Ends t s r t'
      { s with outside := part.set a s.outside } := by
  obtain ⟨events, hrun⟩ := h
  refine ⟨events, ?_⟩
  rw [Desk.run_reach, Timed.run_within hpart, hrun]

/-- A call of a client to a directory on a part of the outside comes out as it does there, if that
is within the limit. -/
theorem call_onPart_ends (hpart : part.Lawful) {primary fallback : Directory ω}
    {clock : ω → Instant} {d : Directory σ} {c : Call} {limit t t' : Nat} {s : Desk ω}
    {r : Result c.Answer} {a : σ} (h : (d c).Ends t (part.get s.outside) r t' a)
    (hle : t' ≤ t + limit) (tier : Tier) :
    ((Desk.client primary fallback clock limit).bounded
        (Desk.noting tier (onPart part d) c)).Ends t s r t'
      { s with calls := s.calls ++ [(tier, c)], outside := part.set a s.outside } := by
  have hnoted : (Desk.noting tier (onPart part d) c).Ends t s r t'
      { s with calls := s.calls ++ [(tier, c)], outside := part.set a s.outside } :=
    ((Timed.Answers.modify _ s).ends t).bind (reach_within_ends hpart h)
  exact (hnoted.bounded hle).bind ((Timed.Answers.pure _ _).ends t')

end Part

section Refresh

variable {ω : Type} {primary fallback : Directory ω} (hprimary : AnswersOrHangs primary)
  (clock : ω → Instant) {limit : Nat} {name : String} {t : Nat} {s : Desk ω}

include hprimary

/-- **Where the primary has no answer, a refresh makes no use of its token.** -/
theorem refreshNow_of_miss (hmiss : success limit primary (.get name) t s.outside = none)
    (token token' : Option String) :
    ((Desk.client primary fallback clock limit).refreshNow name token).run t s =
      ((Desk.client primary fallback clock limit).refreshNow name token').run t s := by
  obtain ⟨r, ⟨events, hrun⟩, -, hsuccess⟩ :=
    ends_bounded primary fallback clock limit hprimary .primary (.get name) t s
  cases r with
  | ok e =>
    rw [(hsuccess e).1 rfl] at hmiss
    cases hmiss
  | error err =>
    -- both go on from the failed call alike
    simp only [Client.refreshNow, Timed.bind_eq, Timed.run_bind]
    rw [show (Desk.client primary fallback clock limit).primary = Desk.noting .primary primary
      from rfl, hrun]
    rfl

/-- **A refresh leaves at the fallback what its write leaves there**, and comes out with what the
primary answered. -/
theorem refreshNow_copies {host : Part ω Host} (hhost : host.Lawful) {d : Directory Host}
    (token : Option String) {e : Entry}
    (hhit : success limit primary (.get name) t s.outside = some e) {latency : Nat}
    (hle : latency ≤ limit) {law : Instant → Result Entry → Store → Prop}
    (hcopy : Served latency (after limit primary (.get name) t s.outside).1
      (host.get (after limit primary (.get name) t s.outside).2)
      (d (.putAuthorized name e.id token)) law) :
    ∃ now a t' s', ((Desk.client primary (onPart host d) clock limit).refreshNow name token).Ends
        t s (some e.id) t' s' ∧
      s'.cache = s.cache.insert (clock (after limit primary (.get name) t s.outside).2) name e.id ∧
      law now a (host.get s'.outside).store := by
  obtain ⟨r, hread, -, hsuccess⟩ :=
    ends_bounded primary (onPart host d) clock limit hprimary .primary (.get name) t s
  obtain rfl : r = .ok e := (hsuccess e).2 hhit
  obtain ⟨now, a, s', later, t', hwrite, htime, hlaw⟩ := hcopy
  generalize after limit primary (.get name) t s.outside = left at *
  -- the desk when the id is remembered, and when it is copied
  let cached : Desk ω :=
    ⟨s.cache.insert (clock left.2) name e.id, s.calls ++ [(.primary, .get name)], left.2⟩
  have hremember : ((Desk.client primary (onPart host d) clock limit).remember name e.id).Answers
      { s with calls := s.calls ++ [(.primary, .get name)], outside := left.2 } () cached :=
    remember_answers clock limit name _ e.id
  let copied : Desk ω :=
    ⟨cached.cache, cached.calls ++ [(.fallback, .putAuthorized name e.id token)],
      host.set ⟨later, s'⟩ left.2⟩
  have hcall : ((Desk.client primary (onPart host d) clock limit).bounded
      (Desk.noting .fallback (onPart host d) (.putAuthorized name e.id token))).Ends left.1 cached a
        t' copied :=
    call_onPart_ends hhost hwrite (Nat.le_trans htime (Nat.add_le_add_left hle left.1)) .fallback
  refine ⟨now, a, t', copied, hread.bind ((hremember.ends left.1).bind (hcall.bind ?_)), rfl, ?_⟩
  · cases a with
    | ok _ => exact ((Timed.Answers.report _ _).bind (.pure (some e.id) _)).ends t'
    | error _ => exact ((Timed.Answers.report _ _).bind (.pure (some e.id) _)).ends t'
  · rw [hhost.get_set]
    exact hlaw

end Refresh

end GatewayDirectory.Resolution
