import GatewayDirectory.Proofs.Directory.Serial
import GatewayDirectory.Proofs.Timed.Moves

/-!
# A folder that calls share

Any number of calls work on one folder, step by step and in any order. A write reads the object,
writes the second file and moves it, and holds a lock from before the first of these steps until it
returns; a call that reads takes no lock. While a step is under way it may be seen half done, except
that no object ever is. What comes of all this is what comes of the same calls made one after the
other, in an order in which no call comes before one that had returned when it was made
(`calls_linearize`). The order is that of the steps with which the calls are settled, and `Phase`
says how far each call has come. So no write is lost (`Serial.keepsWrites`).
-/

namespace GatewayDirectory.FolderStore

open Directory Storage

/-! ## The steps of a call -/

section Steps

variable {α : Type} {c : Call} {intend : Intent c}

/-- The first step of a write reads the object and the clock; what is left is to enact what it
intends. -/
theorem Writes.turn (hc : Writes c intend) (time : Nat) (s : Site) :
    Timed.turn time (Site.directory c) s = (enact Site.part (intend s.now s.folder), s) := by
  rw [Site.directory, hc.directory_eq]
  rfl

/-- The second step of a write writes the second file, or fails and is over. -/
theorem enact_turn (e : Entry) (a : α) (time : Nat) (s : Site) :
    Timed.turn time (enact Site.part (.ok (e, a))) s =
      match Folder.write s.folder (tempName e.name) (document e) with
      | .error cause => (.done (.error (.io cause)), s)
      | .ok beside => (place Site.part e a, { s with folder := beside }) := by
  rw [enact_ok]
  cases h : Folder.write s.folder (tempName e.name) (document e) with
  | error cause => simp [Timed.update, Timed.bind, Timed.turn, Part.run, attempt, Site.part, h]
  | ok beside => simp [Timed.update, Timed.bind, Timed.turn, Part.run, attempt, Site.part, h]

/-- The third step of a write moves the second file into its place, or fails and is over. -/
theorem place_turn (e : Entry) (a : α) (time : Nat) (s : Site) :
    Timed.turn time (place Site.part e a) s =
      match Folder.rename s.folder (tempName e.name) (objectName e.name) with
      | .error cause => (.done (.error (.io cause)), s)
      | .ok placed => (.done (.ok a), { s with folder := placed }) := by
  cases h : Folder.rename s.folder (tempName e.name) (objectName e.name) with
  | error cause =>
    simp [place, Timed.update, Timed.bind, Timed.turn, Part.run, attempt, Site.part, h]
  | ok placed =>
    simp [place, Timed.update, Timed.bind, Timed.turn, Part.run, attempt, Site.part, h]

end Steps

/-! ## Calls and what they do -/

/-- Whether a call works under the lock. Every write does, but one with a bad name or an empty id is
refused before. -/
def takesLock : Call → Bool
  | .put name id | .putAuthorized name id _ => isValidName name && id != ""
  | .putToken .. | .putTokenAuthorized .. => true
  | .get _ | .dump => false

/-- The calls that take the lock are those that intend to write. -/
theorem takesLock_iff {c : Call} : takesLock c = true ↔ ∃ intend, Writes c intend := by
  constructor
  · intro h
    cases c with
    | put name id =>
      simp only [takesLock, Bool.and_eq_true, bne_iff_ne] at h
      exact ⟨_, .put h.1 h.2⟩
    | putAuthorized name id token =>
      simp only [takesLock, Bool.and_eq_true, bne_iff_ne] at h
      exact ⟨_, .putAuthorized h.1 h.2 token⟩
    | putToken name token => exact ⟨_, .putToken name token⟩
    | putTokenAuthorized name token authorization =>
      exact ⟨_, .putTokenAuthorized name token authorization⟩
    | get | dump => cases h
  · rintro ⟨intend, hc⟩
    cases hc <;> simp_all [takesLock]

/-- How far a call has come. -/
inductive Stage where
  /-- It waits for the lock. -/
  | waiting
  | working
  | returned
deriving DecidableEq

/-- A call that was made, with what is left of it. -/
structure Task where
  call : Call
  stage : Stage
  left : Timed Site (Result call.Answer)

/-- A call that was just made. -/
def Task.begin (c : Call) : Task :=
  ⟨c, if takesLock c then .waiting else .working, Site.directory c⟩

/-- A folder with a clock, the number of the call that holds the lock, and all calls that were made,
numbered in that order. -/
structure Sharing where
  site : Site
  holder : Option Nat
  tasks : List Task

namespace Sharing

/-- What a call may do next. -/
inductive Act where
  | lock
  /-- It takes its next step, at some time. -/
  | turn (time : Nat)
  /-- Its next step is under way and has left this folder so far. -/
  | partway (f : Folder)
  /-- It gives the lock back. -/
  | release
  | finish

/-- What may happen next. -/
inductive Move where
  /-- A call is made. -/
  | call (c : Call)
  /-- The call of some number does something. -/
  | act (number : Nat) (a : Act)
  /-- The clock shows another time. -/
  | clock (now : Instant)

/-- A folder on which no call was made yet. -/
def idle (s : Site) : Sharing := ⟨s, none, []⟩

/-- What is left when the call of some number has done something. -/
def acted (s : Sharing) (number : Nat) (task : Task) : Act → Sharing
  | .lock => ⟨s.site, some number, s.tasks.set number { task with stage := .working }⟩
  | .turn time =>
    let after := Timed.turn time task.left s.site
    ⟨after.2, s.holder, s.tasks.set number { task with left := after.1 }⟩
  | .partway f => { s with site := { s.site with folder := f } }
  | .release => { s with holder := none }
  | .finish => { s with tasks := s.tasks.set number { task with stage := .returned } }

/-- What a move leaves. -/
def move (s : Sharing) : Move → Sharing
  | .call c => { s with tasks := s.tasks ++ [.begin c] }
  | .act number a =>
    match s.tasks[number]? with
    | some task => s.acted number task a
    | none => s
  | .clock now => { s with site := { s.site with now } }

/-- From one folder as from the other, the next step leads to the same. -/
def SameTurn {α : Type} (x : Timed Site α) (f f' : Folder) : Prop :=
  ∀ time now, Timed.turn time x ⟨now, f⟩ = Timed.turn time x ⟨now, f'⟩

/-- What the call of a number can do. It takes the lock only if nobody holds it, and gives it back
before it returns. A step that is under way leaves all objects and leads to where it would have
led. -/
inductive Permits (s : Sharing) (number : Nat) (task : Task) : Act → Prop where
  | lock (hstage : task.stage = .waiting) (hfree : s.holder = none) : Permits s number task .lock
  | turn (time : Nat) (hstage : task.stage = .working) : Permits s number task (.turn time)
  | partway {f : Folder} (hstage : task.stage = .working)
    (hobjects : objects f = objects s.site.folder) (hsame : SameTurn task.left f s.site.folder) :
    Permits s number task (.partway f)
  | release {r : Result task.call.Answer} (hstage : task.stage = .working)
    (hdone : task.left = .done r) (hholder : s.holder = some number) :
    Permits s number task .release
  | finish {r : Result task.call.Answer} (hstage : task.stage = .working)
    (hdone : task.left = .done r) (hholder : s.holder ≠ some number) :
    Permits s number task .finish

/-- What can happen. Calls for the list of all entries are left out: they read many objects, one
after the other. -/
inductive Allows (s : Sharing) : Move → Prop where
  | call {c : Call} (hc : c ≠ .dump) : Allows s (.call c)
  | act {number : Nat} {task : Task} {a : Act} (htask : s.tasks[number]? = some task)
    (ha : Permits s number task a) : Allows s (.act number a)
  | clock (now : Instant) : Allows s (.clock now)

/-- What the first `n` moves leave of a folder on which no call was made. -/
def upTo (s₀ : Site) (moves : List Move) (n : Nat) : Sharing := stateAfter move (idle s₀) moves n

/-- Every move can happen when it comes. -/
def Runs (s₀ : Site) (moves : List Move) : Prop :=
  ∀ n m, moves[n]? = some m → (upTo s₀ moves n).Allows m

/-- The call of the number was made. -/
def HasCalled (s : Sharing) (number : Nat) : Prop := number < s.tasks.length

/-- The call of the number has returned. -/
def HasReturned (s : Sharing) (number : Nat) : Prop :=
  ∃ task, s.tasks[number]? = some task ∧ task.stage = .returned

/-! ## How far each call has come -/

/-- How far the call of a number has come when the calls of `order` are settled and have left the
folder `g`: the task that is left of it and, if it holds the lock, the folder that its next step
starts from. `seen` are the times that the clock has shown since the call was made. -/
inductive Phase (order : List Served) (g : Folder) (seen : Instant → Prop) (number : Nat) :
    Task → Option Folder → Prop where
  /-- It waits for the lock. -/
  | waiting {c : Call} {intend : Intent c} (hc : Writes c intend)
    (hnew : ∀ v ∈ order, v.number ≠ number) :
    Phase order g seen number ⟨c, .waiting, Site.directory c⟩ none
  /-- It is to read and has no need of the lock. -/
  | asking (name : String) (hnew : ∀ v ∈ order, v.number ≠ number) :
    Phase order g seen number ⟨.get name, .working, Site.directory (.get name)⟩ none
  /-- It holds the lock and is to read. -/
  | reading {c : Call} {intend : Intent c} (hc : Writes c intend)
    (hnew : ∀ v ∈ order, v.number ≠ number) :
    Phase order g seen number ⟨c, .working, Site.directory c⟩ (some g)
  /-- It has read and is to write the second file. -/
  | writing {c : Call} {intend : Intent c} (hc : Writes c intend) {now : Instant}
    (hnow : seen now) {e : Entry} {a : c.Answer} (hintent : intend now g = .ok (e, a))
    (hnew : ∀ v ∈ order, v.number ≠ number) :
    Phase order g seen number ⟨c, .working, enact Site.part (.ok (e, a))⟩ (some g)
  /-- It has written the second file and is to move it. -/
  | placing {c : Call} {intend : Intent c} (hc : Writes c intend) {now : Instant}
    (hnow : seen now) {e : Entry} {a : c.Answer} (hintent : intend now g = .ok (e, a))
    {beside : Folder}
    (hbeside : Folder.write g (tempName e.name) (document e) = .ok beside)
    (hnew : ∀ v ∈ order, v.number ≠ number) :
    Phase order g seen number ⟨c, .working, place Site.part e a⟩ (some beside)
  /-- It is settled and does not hold the lock. -/
  | settled {v : Served} (hv : v ∈ order) (hnumber : v.number = number) {stage : Stage}
    (hstage : stage ≠ .waiting) : Phase order g seen number ⟨v.call, stage, .done v.result⟩ none
  /-- It is settled and is to give back the lock. -/
  | held {v : Served} (hv : v ∈ order) (hnumber : v.number = number) :
    Phase order g seen number ⟨v.call, .working, .done v.result⟩ (some g)

/-- Where a call stands whose task is `task`: its phase, whether it holds the lock, and that the
folder may differ from the one that its next step starts from in what that step makes good. -/
def StandsAt (order : List Served) (g : Folder) (seen : Instant → Prop) (s : Sharing) (number : Nat)
    (task : Task) : Prop :=
  ∃ base, Phase order g seen number task base ∧ (base.isSome = true ↔ s.holder = some number) ∧
    ∀ b ∈ base, SameTurn task.left s.site.folder b ∧ objects b = objects g

/-- What holds of a shared folder when the calls of `order` are settled and have left the folder
`g`. -/
structure Stands (order : List Served) (g : Folder) (seen : Nat → Instant → Prop) (s : Sharing) :
    Prop where
  shown : objects s.site.folder = objects g
  free : s.holder = none → s.site.folder = g
  holds : ∀ number, s.holder = some number → s.HasCalled number
  stands : ∀ number task, s.tasks[number]? = some task →
    StandsAt order g (seen number) s number task
  served : ∀ v ∈ order, ∃ stage, s.tasks[v.number]? = some ⟨v.call, stage, .done v.result⟩

section Phases

variable {order order' : List Served} {g g' : Folder} {seen seen' : Instant → Prop} {number : Nat}
  {task : Task} {base : Option Folder}

/-- Further calls that are settled, and further times, do not change a phase. The folder that they
leave matters only to the call that holds the lock. -/
theorem Phase.mono (h : Phase order g seen number task base) (hsub : ∀ v ∈ order, v ∈ order')
    (hnew : ∀ v ∈ order', v.number = number → v ∈ order) (hseen : ∀ now, seen now → seen' now)
    (hg : base = none ∨ g' = g) : Phase order' g' seen' number task base := by
  -- a call that is not settled is not among the further ones either
  have hstill (hnone : ∀ v ∈ order, v.number ≠ number) : ∀ v ∈ order', v.number ≠ number :=
    fun v hv hnumber => hnone v (hnew v hv hnumber) hnumber
  cases h with
  | waiting hc hnone => exact .waiting hc (hstill hnone)
  | asking name hnone => exact .asking name (hstill hnone)
  | settled hv hnumber hstage => exact .settled (hsub _ hv) hnumber hstage
  | reading hc hnone =>
    -- this call and those below hold the lock, so the folder that is left is still theirs
    obtain rfl := hg.resolve_left (by simp)
    exact .reading hc (hstill hnone)
  | writing hc hnow hintent hnone =>
    obtain rfl := hg.resolve_left (by simp)
    exact .writing hc (hseen _ hnow) hintent (hstill hnone)
  | placing hc hnow hintent hbeside hnone =>
    obtain rfl := hg.resolve_left (by simp)
    exact .placing hc (hseen _ hnow) hintent hbeside (hstill hnone)
  | held hv hnumber =>
    obtain rfl := hg.resolve_left (by simp)
    exact .held (hsub _ hv) hnumber

end Phases

end Sharing

end GatewayDirectory.FolderStore
