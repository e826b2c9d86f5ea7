import GatewayDirectory.Proofs.Directory.History
import GatewayDirectory.Proofs.Resolution.Tiers
import GatewayDirectory.Proofs.Timed.Turns

/-!
# Tasks of a client that take turns

Any number of refreshes and resolutions of one client work on its cache and on two stores in memory.
They take turns step by step and in any order, between look-ups, purges, moves of the clock, and
calls that others make to the stores. A call may take any time on the way to the store and on the
way back, or fail on either way, and so it may time out before or after it took effect; or it may go
astray and get to the store at any time, when nobody waits for it any more. Every step of a task
abides by a `Discipline`: what it puts into the cache or copies into the fallback is an id that it
has met in a store since it began.
-/

namespace GatewayDirectory.Resolution

open Directory

/-! ## Stores that are reached on a way -/

/-- One way of a call. -/
inductive Passage where
  | lasts (ms : Nat)
  | fails (ms : Nat) (error : Error)

/-- Goes on at the end of a way. -/
def Passage.to {σ α : Type} (p : Passage) (next : Timed σ (Result α)) : Timed σ (Result α) :=
  match p with
  | lasts ms => .wait ms next
  | fails ms error => .wait ms (.done (.error error))

/-- How a call to a store fares. -/
inductive Conduct where
  /-- It has a way to the store and a way back. If it fails on the way back, it has taken effect. -/
  | reaches (there back : Passage)
  /-- It goes astray: it is not answered, and gets to the store at some time or not at all. -/
  | strays

/-- What the tasks of a client share with each other and with everyone else. -/
structure Shared where
  now : Instant
  cache : Cache
  primary : Store
  fallback : Store
  /-- The calls that went astray and have not got to their store yet. -/
  astray : List (Tier × Call)
  /-- How the next calls to a store fare. -/
  conduct : Tier → Conduct

namespace Shared

/-- The store of a tier. -/
def store (s : Shared) : Tier → Store
  | .primary => s.primary
  | .fallback => s.fallback

/-- The store of a tier as a part. -/
def storePart (tier : Tier) : Part Shared Store where
  get s := s.store tier
  set store s :=
    match tier with
    | .primary => { s with primary := store }
    | .fallback => { s with fallback := store }

/-- The cache as a part. -/
def cachePart : Part Shared Cache := ⟨Shared.cache, fun cache s => { s with cache }⟩

/-- What a call that gets to the store of a tier leaves. -/
def called (s : Shared) (tier : Tier) (c : Call) : Shared :=
  (storePart tier).set ((s.store tier).answer s.now c).2 s

/-- The directory that reaches the store of a tier. -/
def directory (tier : Tier) : Directory Shared := fun c => do
  match ← Timed.read fun s => s.conduct tier with
  | .reaches there back =>
    there.to do
      let r ← Store.directory Shared.now (storePart tier) c
      back.to (return r)
  | .strays =>
    Timed.modify fun s => { s with astray := s.astray ++ [(tier, c)] }
    .hang

/-- The client of the two stores. -/
def client (callTimeout : Nat) : Client Shared where
  primary := directory .primary
  fallback := directory .fallback
  cache := cachePart
  clock := Shared.now
  callTimeout := callTimeout

/-- The store of a tier holds an id for a name. -/
def Holds (s : Shared) (tier : Tier) (name id : String) : Prop :=
  ((s.store tier).get? name).map (·.id) = some id

end Shared

/-! ## Tasks -/

/-- What a client is asked for beside its look-ups: to refresh a name, whether or not someone waits
for it, or to resolve one. -/
inductive Task where
  | refresh (name : String) (token : Option String)
  | resolve (name : String)

namespace Task

/-- The name that a task is about. -/
def name : Task → String
  | refresh name _ | resolve name => name

/-- What a task does. -/
def body (callTimeout : Nat) : Task → Timed Shared (Option String)
  | refresh name token => (Shared.client callTimeout).refreshNow name token
  | resolve name => (Shared.client callTimeout).resolve name

end Task

/-- The shared state, and of each task what is left of it. -/
structure Config where
  shared : Shared
  tasks : List (Task × Timed Shared (Option String))

/-- What may happen next. -/
inductive Move where
  /-- A further task begins. -/
  | start (task : Task)
  /-- The task of some number takes its next step, at some time. -/
  | turn (number time : Nat)
  | lookup (name : String)
  | purge
  /-- The clock shows another time. -/
  | clock (now : Instant)
  /-- Someone else calls a store. -/
  | outside (tier : Tier) (call : Call)
  /-- A call that went astray gets to its store. -/
  | arrive (number : Nat)
  /-- The next calls of the client to a store fare in another way. -/
  | conduct (tier : Tier) (conduct : Conduct)

namespace Config

variable (callTimeout : Nat)

/-- What a move leaves. -/
def move (c : Config) : Move → Config
  | .start task => { c with tasks := c.tasks ++ [(task, task.body callTimeout)] }
  | .turn number time =>
    match c.tasks[number]? with
    | some (task, x) =>
      let (x, shared) := Timed.turn time x c.shared
      ⟨shared, c.tasks.set number (task, x)⟩
    | none => c
  | .lookup name =>
    { c with shared := (((Shared.client callTimeout).lookup name).run 0 c.shared).state }
  | .purge => { c with shared := ((Shared.client callTimeout).purge.run 0 c.shared).state }
  | .clock now => { c with shared := { c.shared with now } }
  | .outside tier call => { c with shared := c.shared.called tier call }
  | .arrive number =>
    match c.shared.astray[number]? with
    | some (tier, call) =>
      let astray := c.shared.astray.eraseIdx number
      { c with shared := { c.shared.called tier call with astray } }
    | none => c
  | .conduct tier conduct =>
    let others := c.shared.conduct
    { c with shared := { c.shared with conduct := fun t => if t = tier then conduct else others t } }

/-- What a list of moves leaves. -/
def run (c : Config) (moves : List Move) : Config := moves.foldl (move callTimeout) c

/-- Moves and later moves are made one after the other. -/
theorem run_append (c : Config) (moves more : List Move) :
    c.run callTimeout (moves ++ more) = (c.run callTimeout moves).run callTimeout more :=
  List.foldl_append

end Config

/-! ## What a task may do -/

/-- Ids that the store of a tier was seen to hold for a name. -/
abbrev Known := Tier → String → Prop

/-- The calls that a task for a name may make: to read the name, and to copy into the fallback an
id that the primary was seen to hold. -/
inductive MayCall (name : String) (known : Known) : Tier → Call → Prop where
  | read (tier : Tier) : MayCall name known tier (.get name)
  | copy {id : String} (token : Option String) (h : known .primary id) :
    MayCall name known .fallback (.putAuthorized name id token)

/-- Who knows more may make every call that one may make knowing less. -/
theorem MayCall.mono {name : String} {known known' : Known} {tier : Tier} {c : Call}
    (h : MayCall name known tier c) (hk : known ≤ known') : MayCall name known' tier c := by
  cases h with
  | read => exact .read tier
  | copy token h => exact .copy token (hk _ _ h)

section MayCall

variable {name : String} {known : Known} {tier : Tier} {c : Call} {s : Shared}

/-- A call to a store leaves the cache. -/
theorem Shared.cache_called : (s.called tier c).cache = s.cache := by cases tier <;> rfl

/-- The primary is only read. -/
theorem MayCall.primary_called (h : MayCall name known tier c) :
    (s.called tier c).primary = s.primary := by
  cases h with
  | read tier => cases tier <;> rfl
  | copy token h => rfl

/-- An id that the fallback holds after the call was there before, or was copied. -/
theorem MayCall.holds_called (h : MayCall name known tier c) {other id : String}
    (hid : (s.called tier c).Holds .fallback other id) :
    s.Holds .fallback other id ∨ (other = name ∧ known .primary id) := by
  cases h with
  | read tier =>
    cases tier <;> exact .inl hid
  | copy token h =>
    rcases Store.id_answer hid with hbefore | ⟨hputs, -⟩
    · exact .inl hbefore
    · rcases hputs with hputs | ⟨_, hputs⟩
      · cases hputs
      · cases hputs
        exact .inr ⟨rfl, h⟩

/-- No token of the fallback is bound. -/
theorem MayCall.token_called (h : MayCall name known tier c) (other : String) :
    ((s.called tier c).fallback.get? other).bind (·.token) =
      (s.fallback.get? other).bind (·.token) := by
  cases h with
  | read tier => cases tier <;> rfl
  | copy token h => exact Store.token_put _ _ _ _ _

end MayCall

/-- What a step of a task for a name may do to the shared state: nothing, to hold an id in the cache
that some store was seen to hold for the name, or to make a call, which gets to its store or goes
astray. -/
inductive Allowed (name : String) (known : Known) (s : Shared) : Shared → Prop where
  | nothing : Allowed name known s s
  | cached {tier : Tier} {id : String} (h : known tier id) :
    Allowed name known s { s with cache := s.cache.insert s.now name id }
  | called {tier : Tier} {c : Call} (h : MayCall name known tier c) :
    Allowed name known s (s.called tier c)
  | strays {tier : Tier} {c : Call} (h : MayCall name known tier c) :
    Allowed name known s { s with astray := s.astray ++ [(tier, c)] }

/-- The discipline of a task for a name: it learns what the stores hold for the name. -/
def honest (name : String) : Timed.Discipline Shared Known where
  learn known s := fun tier id => known tier id ∨ s.Holds tier name id
  Allows := Allowed name
  le_learn _ _ := fun _ _ h => .inl h
  learn_mono _ hk := fun tier id h => h.imp_left (hk tier id)
  allows_refl _ _ := .nothing
  allows_mono hk h := by
    cases h with
    | nothing => exact .nothing
    | cached h => exact .cached (hk _ _ h)
    | called h => exact .called (h.mono hk)
    | strays h => exact .strays (h.mono hk)

namespace honest

open Timed.Discipline

variable {name : String} {known : Known} (callTimeout : Nat)

/-- A way to a store and a way back touch nothing. -/
theorem keeps_to {α : Type} {post : Known → Result α → Prop} {next : Timed Shared (Result α)}
    (hnext : (honest name).Keeps post next known) (hfail : ∀ e, post known (.error e))
    (p : Passage) : (honest name).Keeps post (p.to next) known := by
  cases p with
  | lasts ms => exact hnext
  | fails ms error => exact hfail error

/-- **A call that a task may make keeps the discipline**, however it fares. -/
theorem keeps_directory {tier : Tier} {c : Call} {post : Known → Result c.Answer → Prop}
    (hcall : MayCall name known tier c) (hfail : ∀ known e, post known (.error e))
    (hanswer : ∀ known s,
      post ((honest name).learn known s) ((s.store tier).answer s.now c).1) :
    (honest name).Keeps post (Shared.directory tier c) known := by
  refine (Keeps.read _ known).bind fun conduct known' hknown _ => ?_
  -- what a call may do does not shrink while others move in between
  have hmay {s : Shared} : MayCall name ((honest name).learn known' s) tier c :=
    hcall.mono (le_trans hknown ((honest name).le_learn known' s))
  cases conduct with
  | reaches there back =>
    refine keeps_to ?_ (hfail known') there
    have hstep : (honest name).Keeps post (Store.directory Shared.now (Shared.storePart tier) c)
        known' := fun s => ⟨.called hmay, hanswer known' s⟩
    refine hstep.bind fun r known'' _ hr => ?_
    have hreturn : (honest name).Keeps post (Timed.done r) known'' := hr
    exact keeps_to hreturn (hfail known'') back
  | strays => exact fun s => ⟨.strays hmay, trivial⟩

/-- A read is answered with an id that the store is then known to hold. -/
theorem keeps_get (tier : Tier) :
    (honest name).Keeps (fun known r => ∀ e : Entry, r = .ok e → known tier e.id)
      (Shared.directory tier (.get name)) known := by
  refine keeps_directory (.read tier) (fun _ _ e he => nomatch he) fun known' s e he => ?_
  have hget : (s.store tier).get? name = some e := Store.get_eq_ok_iff.1 he
  refine .inr ?_
  rw [Shared.Holds, hget, Option.map_some]

/-- A copy of an id that the primary is known to have held is allowed. -/
theorem keeps_copy {id : String} (token : Option String) (hid : known .primary id) :
    (honest name).Keeps (fun _ _ => True)
      (Shared.directory .fallback (.putAuthorized name id token)) known :=
  keeps_directory (.copy token hid) (fun _ _ => trivial) fun _ _ => trivial

/-- A limit on a call is no step on the state. -/
theorem keeps_bounded {α : Type} {post : Known → Result α → Prop} {call : Timed Shared (Result α)}
    (hcall : (honest name).Keeps post call known) (hfail : ∀ known e, post known (.error e)) :
    (honest name).Keeps post ((Shared.client callTimeout).bounded call) known := by
  refine (hcall.bounded callTimeout).bind fun o known' _ ho => ?_
  cases o with
  | some r => exact ho r rfl
  | none => exact hfail known' _

/-- A read under the limit is answered with an id that the store is then known to hold, if it is
answered with one at all. -/
theorem keeps_read (tier : Tier) :
    (honest name).Keeps (fun known r => ∀ e : Entry, r = .ok e → known tier e.id)
      ((Shared.client callTimeout).bounded (Shared.directory tier (.get name))) known :=
  keeps_bounded callTimeout (keeps_get tier) fun _ _ _ he => nomatch he

/-- An id that some store is known to have held may be put into the cache. -/
theorem keeps_remember {tier : Tier} {id : String} (hid : known tier id) :
    (honest name).Keeps (fun _ _ => True) ((Shared.client callTimeout).remember name id) known :=
  fun _ => ⟨.cached (.inl hid), trivial⟩

/-- To fill the cache from the fallback is to read it and to remember what it holds. -/
theorem keeps_fillFromFallback :
    (honest name).Keeps (fun _ _ => True) ((Shared.client callTimeout).fillFromFallback name)
      known := by
  refine (keeps_read callTimeout .fallback).bind fun r known' _ hr => ?_
  cases r with
  | ok e => exact (keeps_remember callTimeout (hr e rfl)).bind fun _ _ _ _ => trivial
  | error e => exact trivial

/-- **A refresh keeps the discipline.** -/
theorem keeps_refreshNow (token : Option String) :
    (honest name).Keeps (fun _ _ => True) ((Shared.client callTimeout).refreshNow name token)
      known := by
  refine (keeps_read callTimeout .primary).bind fun r known' _ hr => ?_
  cases r with
  | ok e =>
    -- the id is still known to have come from the primary when the copy is made
    refine (keeps_remember callTimeout (hr e rfl)).bind fun _ known'' hknown _ => ?_
    have hid : known'' .primary e.id := hknown _ _ (hr e rfl)
    refine (keeps_bounded callTimeout (keeps_copy token hid) fun _ _ => trivial).bind ?_
    intro copied _ _ _
    cases copied <;> exact trivial
  | error e => exact keeps_fillFromFallback callTimeout

/-- **A resolution keeps the discipline.** -/
theorem keeps_resolve :
    (honest name).Keeps (fun _ _ => True) ((Shared.client callTimeout).resolve name) known := by
  have hlookup : (honest name).Keeps (fun _ _ => True) ((Shared.client callTimeout).lookup name)
      known := (Keeps.read _ known).bind fun _ _ _ _ => trivial
  refine hlookup.bind fun hit known' _ _ => ?_
  cases hit with
  | some id => exact trivial
  | none =>
    refine (keeps_read callTimeout .primary).bind fun r known'' _ hr => ?_
    cases r with
    | ok e => exact (keeps_remember callTimeout (hr e rfl)).bind fun _ _ _ _ => trivial
    | error e =>
      show (honest name).Keeps _ (if _ then _ else _) _
      split
      · exact keeps_fillFromFallback callTimeout
      · exact keeps_fillFromFallback callTimeout

/-- Every task keeps the discipline of its name. -/
theorem keeps_body (task : Task) (known : Known) :
    (honest task.name).Keeps (fun _ _ => True) (task.body callTimeout) known := by
  cases task with
  | refresh name token => exact keeps_refreshNow callTimeout token
  | resolve name => exact keeps_resolve callTimeout

end honest

end GatewayDirectory.Resolution
