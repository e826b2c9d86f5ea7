import GatewayDirectory.Proofs.Timed.Limits

/-!
# What a computation reports

The events of a run, as far as they are of interest: a function picks some of them and what is in
them. A computation of two parts reports what the first part does and then what the second one does
(`Ends.reports_bind`). A silent part reports nothing that is picked, whether or not it is cut off
(`Silent.bounded`).
-/

namespace GatewayDirectory.Timed

variable {σ α β γ : Type} {pick : Event → Option γ} {x : Timed σ α} {t t' : Nat} {s s' : σ}

/-- What is picked from the events of a run, in order. -/
def reports (pick : Event → Option γ) (x : Timed σ α) (t : Nat) (s : σ) : List γ :=
  (x.run t s).events.filterMap pick

/-- **A computation of two parts** reports what they do, one after the other. -/
theorem Ends.reports_bind {a : α} (h : x.Ends t s a t' s') (f : α → Timed σ β) :
    (x >>= f).reports pick t s = x.reports pick t s ++ (f a).reports pick t' s' := by
  obtain ⟨events, hevents⟩ := h
  rw [reports, bind_eq, run_bind, Trace.carriedOn, hevents, reports, hevents]
  exact List.filterMap_append

/-- What is done with the value of a computation reports nothing more. -/
theorem Ends.reports_bind_pure {a : α} (h : x.Ends t s a t' s') (g : α → β) :
    (x >>= fun a => Pure.pure (g a)).reports pick t s = x.reports pick t s := by
  rw [h.reports_bind]
  exact List.append_nil _

/-- An event that is reported first. -/
theorem reports_report_bind (pick : Event → Option γ) (e : Event) (f : Unit → Timed σ β) (t : Nat)
    (s : σ) :
    (Timed.report e >>= f).reports pick t s = (pick e).toList ++ (f ()).reports pick t s := by
  rw [((Answers.report e s).ends t).reports_bind f]
  rfl

/-! ## Silence -/

/-- Nothing that a run of the computation reports is picked. -/
def Silent (pick : Event → Option γ) (x : Timed σ α) : Prop := ∀ t s, x.reports pick t s = []

namespace Silent

/-- A value reports nothing. -/
theorem pure (a : α) : (Pure.pure a : Timed σ α).Silent pick := fun _ _ => rfl

/-- What is given up as endless has reported nothing since. -/
theorem endless : (Timed.endless : Timed σ α).Silent pick := fun _ _ => rfl

/-- Events that are not picked are silent in a row. -/
theorem reportAll {es : List Event} (h : ∀ e ∈ es, pick e = none) :
    (Timed.reportAll es : Timed σ Unit).Silent pick := by
  induction es with
  | nil => exact pure ()
  | cons e es ih =>
    obtain ⟨hfirst, hrest⟩ := List.forall_mem_cons.1 h
    intro t s
    -- the events in a row are the first one carried on by the others
    show (Timed.report e >>= fun _ => Timed.reportAll es).reports pick t s = []
    rw [reports_report_bind, hfirst]
    exact ih hrest t s

/-- **Silence composes**, whether or not the first part ends. -/
theorem bind {f : α → Timed σ β} (hx : x.Silent pick) (hf : ∀ a, (f a).Silent pick) :
    (x >>= f).Silent pick := by
  intro t s
  -- a part that does not end carries nothing on, so its own silence is enough
  cases hending : (x.run t s).ending with
  | value a =>
    rw [(Ends.of_ending hending).reports_bind, hx t s]
    exact hf a _ _
  | hung =>
    rw [reports, bind_eq, run_bind, Trace.carriedOn, hending]
    exact hx t s
  | endless =>
    rw [reports, bind_eq, run_bind, Trace.carriedOn, hending]
    exact hx t s

end Silent

/-- What comes after a silent part that ends is all that is reported. -/
theorem Silent.reports_bind {a : α} (hx : x.Silent pick) (h : x.Ends t s a t' s')
    (f : α → Timed σ β) : (x >>= f).reports pick t s = (f a).reports pick t' s' := by
  rw [h.reports_bind, hx t s, List.nil_append]

/-- A computation that is cut off reports the first events of its run. -/
theorem firstEvents_bounded (limit : Nat) (x : Timed σ α) (t : Nat) (s : σ) :
    ((bounded limit x).run t s).events <+: (x.run t s).events := by
  induction x generalizing limit t s with
  | done a => exact List.nil_prefix
  | step change next ih => exact ih s limit t (change s)
  | clock next ih => exact ih t limit t s
  | emit e next ih => exact List.prefix_cons_inj e |>.2 (ih limit t s)
  | wait ms next ih =>
    rw [bounded]
    split
    · exact ih (limit - ms) (t + ms) s
    · exact List.nil_prefix
  | hang => exact List.nil_prefix
  | endless => exact List.nil_prefix

/-- A silent computation is silent under a limit too: what is reported by then is a prefix of
nothing. -/
theorem Silent.bounded (h : x.Silent pick) (limit : Nat) : (bounded limit x).Silent pick := by
  intro t s
  have hprefix := (firstEvents_bounded limit x t s).filterMap pick
  exact List.prefix_nil.1 (h t s ▸ hprefix)

end GatewayDirectory.Timed
