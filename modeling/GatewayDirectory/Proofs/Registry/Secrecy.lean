import GatewayDirectory.Proofs.Registry.Plans
import GatewayDirectory.Proofs.Registry.Requests

/-!
# Tokens stay secret

Whoever reads from a registry in memory learns nothing about tokens. Two stores that differ in the
tokens of their entries only answer any requests in the same way, and stay alike, as long as each
write is authorized in both of them or in neither (`tokens_stay_secret`). What is shown of a store
is its redaction, so the law for one request follows from what each of the four things that a
request may come to (`Service.handle_plan`) takes from the redaction of the store.
-/

namespace GatewayDirectory

open Directory

/-! ## Redaction -/

namespace Store

variable {s s₁ s₂ : Store}

/-- A store with the tokens taken out. -/
def redacted (s : Store) : Store where
  toList := s.toList.map fun x => (x.1, x.2.redacted)
  sorted := by
    rw [Increasing, List.pairwise_map]
    exact s.sorted

/-- A redacted store holds for every name the redacted entry. -/
theorem get?_redacted (s : Store) (name : String) :
    s.redacted.get? name = (s.get? name).map Entry.redacted := by
  simp only [redacted, Table.get?]
  induction s.toList with
  | nil => rfl
  | cons x entries ih =>
    rw [List.map_cons, Increasing.get?, Increasing.get?]
    by_cases hname : x.1 = name
    · rw [if_pos hname, if_pos hname, Option.map_some]
    · rw [if_neg hname, if_neg hname, ih]

/-- What is redacted after a write is what the write of the redacted entry leaves. -/
theorem redacted_insert (s : Store) (name : String) (e : Entry) :
    redacted (s.insert name e) = s.redacted.insert name e.redacted := by
  refine Table.ext_get? fun other => ?_
  rw [get?_redacted, Table.get?_insert, Table.get?_insert, get?_redacted]
  by_cases hname : name = other
  · rw [if_pos hname, if_pos hname, Option.map_some]
  · rw [if_neg hname, if_neg hname]

/-- The list of a redacted store is the redacted list. -/
theorem dump_redacted (s : Store) : s.redacted.dump = s.dump.map Entry.redacted := by
  simp [dump, Table.values, redacted]

/-- The stores are equal up to the tokens of their entries. -/
def SameButTokens (s₁ s₂ : Store) : Prop := s₁.redacted = s₂.redacted

namespace SameButTokens

variable (h : SameButTokens s₁ s₂)
include h

/-- A look-up in the one store is, redacted, one in the other. -/
theorem map_get? (name : String) :
    (s₁.get? name).map Entry.redacted = (s₂.get? name).map Entry.redacted := by
  rw [← get?_redacted, ← get?_redacted, h]

/-- A name has an entry in both stores or in neither, and the entries are equal up to tokens. -/
theorem get?_cases (name : String) :
    (s₁.get? name = none ∧ s₂.get? name = none) ∨
      ∃ e₁ e₂, s₁.get? name = some e₁ ∧ s₂.get? name = some e₂ ∧ e₁.redacted = e₂.redacted := by
  have hmap := h.map_get? name
  cases he₁ : s₁.get? name with
  | none =>
    rw [he₁, Option.map_none, eq_comm, Option.map_eq_none_iff] at hmap
    exact .inl ⟨rfl, hmap⟩
  | some e₁ =>
    rw [he₁, Option.map_some, eq_comm, Option.map_eq_some_iff] at hmap
    obtain ⟨e₂, he₂, heq⟩ := hmap
    exact .inr ⟨e₁, e₂, rfl, he₂, heq.symm⟩

/-- Entries that are equal up to tokens may be written to both stores. -/
theorem insert (name : String) {e₁ e₂ : Entry} (he : e₁.redacted = e₂.redacted) :
    SameButTokens (s₁.insert name e₁) (s₂.insert name e₂) := by
  rw [SameButTokens, redacted_insert, redacted_insert, h, he]

/-- The stores list the same entries, redacted. -/
theorem dump : s₁.dump.map Entry.redacted = s₂.dump.map Entry.redacted := by
  rw [← dump_redacted, ← dump_redacted, h]

/-- What a write of an id stores differs in the token only. -/
theorem written (now : Instant) (name id : String) :
    (s₁.written now name id).redacted = (s₂.written now name id).redacted := by
  rcases h.get?_cases name with ⟨he₁, he₂⟩ | ⟨e₁, e₂, he₁, he₂, heq⟩
  · rw [Store.written, Store.written, he₁, he₂]
  · rw [Store.written, Store.written, he₁, he₂]
    -- an update commutes with redaction
    show e₁.redacted.update id now = e₂.redacted.update id now
    rw [heq]

end SameButTokens

end Store

namespace Registry

open Http

/-! ## One request -/

section Step

variable {token : Option String} {now : Instant} {s₁ s₂ : Store} {r : Request}

/-- A write that the request asks for is authorized in both stores or in neither. -/
def DecidedAlike (token : Option String) (s₁ s₂ : Store) (r : Request) : Prop :=
  ∀ c name supplied, Asks r c name supplied →
    isAuthorized (effective token) (boundToken s₁ name) supplied =
      isAuthorized (effective token) (boundToken s₂ name) supplied

/-- The computation has the same answer over both stores, and leaves them equal up to tokens. -/
def AnswersAlike (now : Instant) (s₁ s₂ : Store) (x : Timed Host Response) : Prop :=
  ∃ response s₁' s₂', x.Answers ⟨now, s₁⟩ response ⟨now, s₁'⟩ ∧
    x.Answers ⟨now, s₂⟩ response ⟨now, s₂'⟩ ∧ s₁'.SameButTokens s₂'

/-- A fixed answer is the same over both stores. -/
theorem AnswersAlike.pure (h : s₁.SameButTokens s₂) (response : Response) :
    AnswersAlike now s₁ s₂ (return response) :=
  ⟨response, s₁, s₂, Timed.Answers.pure _ _, Timed.Answers.pure _ _, h⟩

/-- A response may be cut. -/
theorem AnswersAlike.cut {x : Timed Host Response} (hx : AnswersAlike now s₁ s₂ x)
    (cut : Response → Response) : AnswersAlike now s₁ s₂ (do return cut (← x)) := by
  obtain ⟨response, s₁', s₂', hanswer₁, hanswer₂, h⟩ := hx
  exact ⟨cut response, s₁', s₂', hanswer₁.bind (Timed.Answers.pure _ _),
    hanswer₂.bind (Timed.Answers.pure _ _), h⟩

/-- A question about a gateway is answered alike, since no token is told. -/
theorem getGateway_alike (token : Option String) (h : s₁.SameButTokens s₂) (name : String) :
    AnswersAlike now s₁ s₂ ((Host.registry token).getGateway name) := by
  cases hname : isValidName name with
  | false =>
    exact ⟨_, s₁, s₂, Service.getGateway_invalid hname, Service.getGateway_invalid hname, h⟩
  | true =>
    rcases h.get?_cases name with ⟨he₁, he₂⟩ | ⟨e₁, e₂, he₁, he₂, heq⟩
    · exact ⟨_, s₁, s₂, Service.getGateway_absent hname he₁, Service.getGateway_absent hname he₂, h⟩
    · -- the name and the id are no part of what is redacted
      have hfound : found e₁.name e₁.id = found e₂.name e₂.id := by
        show found e₁.redacted.name e₁.redacted.id = found e₂.redacted.name e₂.redacted.id
        rw [heq]
      have hanswer₁ : ((Host.registry token).getGateway name).Answers ⟨now, s₁⟩
          (found e₁.name e₁.id) ⟨now, s₁⟩ := Service.getGateway_present hname he₁
      rw [hfound] at hanswer₁
      exact ⟨_, s₁, s₂, hanswer₁, Service.getGateway_present hname he₂, h⟩

/-- The list of all is answered alike, since its entries are redacted. -/
theorem dump_alike (token : Option String) (h : s₁.SameButTokens s₂) :
    AnswersAlike now s₁ s₂ (Host.registry token).dump := by
  have hanswer₁ := Service.dump_answers token ⟨now, s₁⟩
  have hlist (s : Store) :
      s.dump.map (fun e => e.redacted.toJson) = (s.dump.map Entry.redacted).map Entry.toJson := by
    rw [List.map_map]
    rfl
  rw [hlist, h.dump, ← hlist] at hanswer₁
  exact ⟨_, s₁, s₂, hanswer₁, Service.dump_answers token ⟨now, s₂⟩, h⟩

/-- A write of an id that is decided alike is answered alike, and keeps the stores equal up to
tokens. -/
theorem putGateway_alike {segment name : String} {p : Payload} (h : s₁.SameButTokens s₂)
    (hw : IsWrite segment r name p)
    (hauth : isAuthorized (effective token) (boundToken s₁ name) p.token =
      isAuthorized (effective token) (boundToken s₂ name) p.token) :
    AnswersAlike now s₁ s₂ ((Host.registry token).putGateway name r) := by
  cases hauth₂ : isAuthorized (effective token) (boundToken s₂ name) p.token with
  | false =>
    exact ⟨_, s₁, s₂, Service.putGateway_refused hw (hauth.trans hauth₂),
      Service.putGateway_refused hw hauth₂, h⟩
  | true =>
    have heq := h.written now name p.id
    have hfound : found (s₁.written now name p.id).name (s₁.written now name p.id).id =
        found (s₂.written now name p.id).name (s₂.written now name p.id).id := by
      show found (s₁.written now name p.id).redacted.name (s₁.written now name p.id).redacted.id = _
      rw [heq]
      rfl
    have hanswer₁ := Service.putGateway_written (h := ⟨now, s₁⟩) hw (hauth.trans hauth₂)
    rw [hfound] at hanswer₁
    refine ⟨_, _, _, hanswer₁, Service.putGateway_written hw hauth₂, ?_⟩
    rw [Store.put_of_valid hw.valid hw.id_ne, Store.put_of_valid hw.valid hw.id_ne]
    exact h.insert name heq

/-- A write of a token that is decided alike is answered alike, and binds the same token in both
stores. -/
theorem putToken_alike {segment name : String} {u : TokenUpdate} (h : s₁.SameButTokens s₂)
    (hb : IsBinding segment r name u)
    (hauth : isAuthorized (effective token) (boundToken s₁ name) u.writeToken =
      isAuthorized (effective token) (boundToken s₂ name) u.writeToken) :
    AnswersAlike now s₁ s₂ ((Host.registry token).putToken name r) := by
  cases hauth₂ : isAuthorized (effective token) (boundToken s₂ name) u.writeToken with
  | false =>
    exact ⟨_, s₁, s₂, Service.putToken_refused hb (hauth.trans hauth₂),
      Service.putToken_refused hb hauth₂, h⟩
  | true =>
    rcases h.get?_cases name with ⟨he₁, he₂⟩ | ⟨e₁, e₂, he₁, he₂, heq⟩
    · exact ⟨_, s₁, s₂, Service.putToken_absent hb (hauth.trans hauth₂) he₁,
        Service.putToken_absent hb hauth₂ he₂, h⟩
    · exact ⟨_, _, _, Service.putToken_bound hb (hauth.trans hauth₂) he₁,
        Service.putToken_bound hb hauth₂ he₂, h.insert name heq⟩

/-- **A request is answered alike** if the write that it may ask for is decided alike. -/
theorem handle_alike (now : Instant) (h : s₁.SameButTokens s₂)
    (hdecided : DecidedAlike token s₁ s₂ r) :
    AnswersAlike now s₁ s₂ ((Host.registry token).handle r) := by
  cases Service.handle_plan token r with
  | fixed response hfixed =>
    rw [hfixed]
    exact .pure h response
  | tells name cut htells =>
    rw [htells]
    exact (getGateway_alike token h name).cut cut
  | lists cut hlists =>
    rw [hlists]
    exact (dump_alike token h).cut cut
  | asks c name supplied hasks =>
    -- the only place where tokens are looked at
    have hauth := hdecided c name supplied hasks
    cases hasks with
    | write hroute hput hsize hw =>
      rw [Service.handle_putGateway hroute hput hw.segment_eq hsize]
      exact putGateway_alike h hw hauth
    | binding hroute hput hsize hb =>
      rw [Service.handle_putToken hroute hput hb.segment_eq hsize]
      exact putToken_alike h hb hauth

end Step

/-! ## Runs -/

/-- How the handling of a request ends: with its response. -/
def answer (token : Option String) (now : Instant) (r : Request) (s : Store) :
    Timed.Ending Response :=
  (((Host.registry token).handle r).run 0 ⟨now, s⟩).ending

/-- The responses to requests that are handled one after the other, each at its time. -/
def answers (token : Option String) (s : Store) :
    List (Instant × Request) → List (Timed.Ending Response)
  | [] => []
  | (now, r) :: requests => answer token now r s :: answers token (serve token now r s) requests

/-- Every write that requests ask for is authorized in both runs or in neither. -/
def AllDecidedAlike (token : Option String) (s₁ s₂ : Store) : List (Instant × Request) → Prop
  | [] => True
  | (now, r) :: requests => DecidedAlike token s₁ s₂ r ∧
    AllDecidedAlike token (serve token now r s₁) (serve token now r s₂) requests

section Run

variable {token : Option String} {s₁ s₂ : Store} {requests : List (Instant × Request)}

/-- One request of two runs. -/
theorem serve_alike (now : Instant) {r : Request} (h : s₁.SameButTokens s₂)
    (hdecided : DecidedAlike token s₁ s₂ r) :
    answer token now r s₁ = answer token now r s₂ ∧
      (serve token now r s₁).SameButTokens (serve token now r s₂) := by
  obtain ⟨response, s₁', s₂', hanswer₁, hanswer₂, hsame⟩ := handle_alike now h hdecided
  constructor
  · rw [answer, answer, hanswer₁.ending_run, hanswer₂.ending_run]
  · rw [serve, serve, hanswer₁.state_run, hanswer₂.state_run]
    exact hsame

/-- **Two runs are alike.** -/
theorem runs_alike (token : Option String) (h : s₁.SameButTokens s₂)
    (hdecided : AllDecidedAlike token s₁ s₂ requests) :
    answers token s₁ requests = answers token s₂ requests ∧
      (serveAll token s₁ requests).SameButTokens (serveAll token s₂ requests) := by
  -- the induction is on the requests, from any two stores that are equal up to tokens
  induction requests generalizing s₁ s₂ with
  | nil => exact ⟨rfl, h⟩
  | cons x requests ih =>
    obtain ⟨hfirst, hrest⟩ := hdecided
    obtain ⟨hanswer, hsame⟩ := serve_alike x.1 h hfirst
    obtain ⟨hanswers, hstores⟩ := ih hsame hrest
    exact ⟨congrArg₂ List.cons hanswer hanswers, hstores⟩

/-- Requests other than PUT ask for no write, so that nothing is decided. -/
theorem allDecidedAlike_of_reads (hreads : ∀ x ∈ requests, x.2.method ≠ "PUT") :
    AllDecidedAlike token s₁ s₂ requests := by
  induction requests generalizing s₁ s₂ with
  | nil => trivial
  | cons x requests ih =>
    obtain ⟨hfirst, hrest⟩ := List.forall_mem_cons.1 hreads
    exact ⟨fun c name supplied hasks => absurd hasks.method_eq hfirst, ih hrest⟩

/-- Requests other than PUT leave the store as it is. -/
theorem serveAll_of_reads (token : Option String) {s : Store}
    (hreads : ∀ x ∈ requests, x.2.method ≠ "PUT") : serveAll token s requests = s := by
  induction requests with
  | nil => rfl
  | cons x requests ih =>
    obtain ⟨hfirst, hrest⟩ := List.forall_mem_cons.1 hreads
    have hkept : serve token x.1 x.2 s = s := by
      have hkeeps : Service.Keeps ((Host.registry token).handle x.2) ⟨x.1, s⟩ :=
        Service.handle_keeps fun hwrite => hfirst hwrite.1
      obtain ⟨response, hanswer, -⟩ := hkeeps
      rw [serve, hanswer.state_run]
    rw [serveAll, List.foldl_cons, hkept]
    exact ih hrest

end Run

/-- **Tokens stay secret.** Two runs of the same requests begin with stores that are equal up to
tokens. If every write is authorized in both runs or in neither, then both runs give the same
responses and leave stores that are equal up to tokens. Requests other than PUT need no such
condition, and they leave both stores as they are. -/
theorem tokens_stay_secret (token : Option String) {s₁ s₂ : Store} (h : s₁.SameButTokens s₂) :
    (∀ requests, AllDecidedAlike token s₁ s₂ requests →
      answers token s₁ requests = answers token s₂ requests ∧
        (serveAll token s₁ requests).SameButTokens (serveAll token s₂ requests)) ∧
    (∀ requests : List (Instant × Request), (∀ x ∈ requests, x.2.method ≠ "PUT") →
      answers token s₁ requests = answers token s₂ requests ∧
        serveAll token s₁ requests = s₁ ∧ serveAll token s₂ requests = s₂) := by
  refine ⟨fun requests => runs_alike token h, fun requests hreads => ?_⟩
  obtain ⟨hanswers, -⟩ := runs_alike token h (allDecidedAlike_of_reads hreads)
  exact ⟨hanswers, serveAll_of_reads token hreads, serveAll_of_reads token hreads⟩

/-- An id is written with the registry's token, and two readers follow. One store has a token for
the entry, the other has none. -/
theorem tokens_stay_secret_of_write :
    let now : Instant := ⟨1704164645, 0⟩
    let s₁ := Store.run .empty [(now, .put "gw1" "id1")]
    let s₂ := Store.run .empty [(now, .put "gw1" "id1"), (now, .putToken "gw1" "t1")]
    let p : Payload := ⟨"gw1", "id2", some "shared"⟩
    let requests := [(now, sent "PUT" (gatewayPath "gw1") (some p.toJson)),
      (now, sent "GET" (gatewayPath "gw1") none), (now, sent "GET" listPath none)]
    s₁.SameButTokens s₂ ∧ boundToken s₁ "gw1" ≠ boundToken s₂ "gw1" ∧
      AllDecidedAlike (some "shared") s₁ s₂ requests ∧
      answers (some "shared") s₁ requests = answers (some "shared") s₂ requests := by
  intro now s₁ s₂ p requests
  have hsame : s₁.SameButTokens s₂ := by
    show s₁.redacted = s₂.redacted
    decide +kernel
  have hdecided : AllDecidedAlike (some "shared") s₁ s₂ requests := by
    refine ⟨fun c name supplied hasks => ?_, allDecidedAlike_of_reads (by decide +kernel)⟩
    -- the registry's token authorizes the write whatever is bound
    have hsupplied : supplied = some "shared" := by
      rw [← hasks.suppliedToken_eq]
      decide +kernel
    have hauth (bound : Option String) :
        isAuthorized (effective (some "shared")) bound supplied = true :=
      isAuthorized_iff.2 (.inr ⟨"shared", hsupplied, by decide, .inl rfl⟩)
    rw [hauth, hauth]
  exact ⟨hsame, by decide +kernel, hdecided,
    ((tokens_stay_secret (some "shared") hsame).1 requests hdecided).1⟩

end Registry

end GatewayDirectory
