import GatewayDirectory.Proofs.Directory.Sharing

/-!
# Calls that share a folder, in order

A move settles at most one call (`Stands.move`): a write by its last step, or by the step with which
it fails, a call that reads by its reading, and one that is refused by being made. In the order in
which they are settled, the calls are ones made one after the other (`Orders`), since between the
first step of a write and the one that settles it nobody else changes the folder. By induction over
the moves this holds of every interleaving (`calls_linearize`).
-/

namespace GatewayDirectory.FolderStore

open Directory Storage

namespace Sharing

/-! ## One more move -/

section More

variable {order order' : List Served} {g g' : Folder} {seen seen' : Nat → Instant → Prop}
  {s s' : Sharing} {number : Nat} {task task' : Task}

/-- A task that is put in the place of another is found there, and all others are where they were.
-/
theorem getElem?_set_task {tasks : List Task} (h : tasks[number]? = some task) (task' : Task)
    (k : Nat) : (tasks.set number task')[k]? = if k = number then some task' else tasks[k]? := by
  split
  · rename_i heq
    rw [heq, List.getElem?_set_self (lt_length_of_getElem? h)]
  · rename_i hne
    rw [List.getElem?_set_ne (Ne.symm hne)]

/-- To put a task where it already is changes nothing. -/
theorem set_task_self {tasks : List Task} (h : tasks[number]? = some task) :
    tasks.set number task = tasks := by
  refine List.ext_getElem? fun k => ?_
  rw [getElem?_set_task h]
  split
  · rename_i heq
    rw [heq, h]
  · rfl

/-- The tasks as they are, told in the way in which a change of one of them is told. -/
theorem tasks_eq {tasks : List Task} (h : tasks[number]? = some task) (k : Nat) :
    tasks[k]? = if k = number then some task else tasks[k]? := by
  rw [← getElem?_set_task h, set_task_self h]

/-- A call that is at another stage has not returned. -/
theorem not_hasReturned (htask : s.tasks[number]? = some task) (hstage : task.stage ≠ .returned) :
    ¬ s.HasReturned number := by
  rintro ⟨other, hother, hreturned⟩
  rw [htask] at hother
  obtain rfl := Option.some.inj hother
  exact hstage hreturned

/-- When one call does something, all others stand where they stood: they do not hold the lock, or
the folder is not touched. -/
theorem Stands.update (hs : Stands order g seen s)
    (htasks : ∀ k, s'.tasks[k]? = if k = number then some task' else s.tasks[k]?)
    (hmine : StandsAt order' g' (seen' number) s' number task')
    (hshown : objects s'.site.folder = objects g')
    (hfree : s'.holder = none → s'.site.folder = g')
    (hholder : ∀ k, k ≠ number → (s'.holder = some k ↔ s.holder = some k))
    (hsettled : ∀ v ∈ order', v.number = number → ∃ stage, task' = ⟨v.call, stage, .done v.result⟩)
    (hsub : ∀ v ∈ order, v ∈ order') (hnew : ∀ v ∈ order', v.number ≠ number → v ∈ order)
    (hseen : ∀ k now, seen k now → seen' k now)
    (hfolder : (g' = g ∧ s'.site.folder = s.site.folder) ∨ ∀ k, k ≠ number → s.holder ≠ some k) :
    Stands order' g' seen' s' := by
  refine ⟨hshown, hfree, fun k hk => ?_, fun k other hother => ?_, fun v hv => ?_⟩
  · -- the call that holds the lock was made: the one that acts, or another one that held it before
    by_cases heq : k = number
    · have hhas : s'.tasks[k]? = some task' := by rw [htasks, if_pos heq]
      exact lt_length_of_getElem? hhas
    · have hcalled := List.getElem?_eq_getElem (hs.holds k ((hholder k heq).1 hk))
      have hsame := htasks k
      rw [if_neg heq, hcalled] at hsame
      exact lt_length_of_getElem? hsame
  · rw [htasks] at hother
    split at hother
    · rename_i heq
      subst heq
      obtain rfl := Option.some.inj hother
      exact hmine
    · rename_i hne
      obtain ⟨base, hphase, hbase, hsame⟩ := hs.stands k other hother
      have hnone : base = none ∨ g' = g ∧ s'.site.folder = s.site.folder := by
        -- another call either has no base, or the base is left as it was
        rcases hfolder with h | h
        · exact .inr h
        · refine .inl (Option.not_isSome_iff_eq_none.1 fun hsome => h k hne (hbase.1 hsome))
      refine ⟨base, hphase.mono hsub (fun v hv heq => hnew v hv (heq ▸ hne)) (hseen k)
        (hnone.imp_right And.left), hbase.trans (hholder k hne).symm, ?_⟩
      rcases hnone with rfl | ⟨rfl, hsite⟩
      · exact fun b hb => nomatch hb
      · rw [hsite]
        exact hsame
  · by_cases heq : v.number = number
    · obtain ⟨stage, hstage⟩ := hsettled v hv heq
      exact ⟨stage, by rw [htasks, if_pos heq, hstage]⟩
    · obtain ⟨stage, hstage⟩ := hs.served v (hnew v hv heq)
      exact ⟨stage, by rw [htasks, if_neg heq, hstage]⟩

/-- Where nothing happens to the calls and to the folder, all stand where they stood. -/
theorem Stands.still (hs : Stands order g seen s) (hfolder : s'.site.folder = s.site.folder)
    (hholder : s'.holder = s.holder) (htasks : s'.tasks = s.tasks)
    (hseen : ∀ k now, seen k now → seen' k now) : Stands order g seen' s' := by
  refine ⟨hfolder ▸ hs.shown, ?_, ?_, fun k other hother => ?_, fun v hv => ?_⟩
  · rw [hfolder, hholder]
    exact hs.free
  · rw [hholder]
    exact fun k hk => by rw [HasCalled, htasks]; exact hs.holds k hk
  · rw [htasks] at hother
    obtain ⟨base, hphase, hbase, hsame⟩ := hs.stands k other hother
    refine ⟨base, hphase.mono (fun _ hv => hv) (fun _ hv _ => hv) (hseen k) (.inr rfl), ?_, ?_⟩
    · rwa [hholder]
    · rwa [hfolder]
  · rw [htasks]
    exact hs.served v hv

/-- What becomes of the order of the calls that are settled: nothing, or one more call comes behind
all others. It was not settled and has not returned before. -/
def Serves (s : Sharing) (seen : Nat → Instant → Prop) (order : List Served) (g : Folder)
    (order' : List Served) (g' : Folder) : Prop :=
  (order' = order ∧ g' = g) ∨
    ∃ v, order' = order ++ [v] ∧
      (Site.directory v.call).Answers ⟨v.now, g⟩ v.result ⟨v.now, g'⟩ ∧
      (∀ w ∈ order, w.number ≠ v.number) ∧ seen v.number v.now ∧ ¬ s.HasReturned v.number

/-- A step of the call that holds the lock. `f` is the folder that it leaves, from which the next
one starts. -/
theorem Stands.turn_held (hs : Stands order g seen s) {c : Call}
    {x y : Timed Site (Result c.Answer)} {time : Nat} {f : Folder}
    (htask : s.tasks[number]? = some ⟨c, .working, x⟩) (hholder : s.holder = some number)
    (hturn : Timed.turn time x s.site = (y, { s.site with folder := f }))
    (hphase : Phase order' g' (seen' number) number ⟨c, .working, y⟩ (some f))
    (hobjects : objects f = objects g')
    (hsettled : ∀ v ∈ order', v.number = number →
      ∃ stage, (⟨c, .working, y⟩ : Task) = ⟨v.call, stage, .done v.result⟩)
    (hsub : ∀ v ∈ order, v ∈ order') (hnew : ∀ v ∈ order', v.number ≠ number → v ∈ order)
    (hseen : ∀ k now, seen k now → seen' k now) :
    Stands order' g' seen' (s.acted number ⟨c, .working, x⟩ (.turn time)) := by
  have hacted : s.acted number ⟨c, .working, x⟩ (.turn time) =
      ⟨{ s.site with folder := f }, s.holder, s.tasks.set number ⟨c, .working, y⟩⟩ := by
    simp only [acted, hturn]
  rw [hacted]
  refine hs.update (getElem?_set_task htask _) ⟨some f, hphase, ?_, ?_⟩ hobjects ?_
    (fun _ _ => Iff.rfl) hsettled hsub hnew hseen (.inr fun k hne hk => ?_)
  · simp [hholder]
  · rintro b hb
    obtain rfl := Option.some.inj hb
    exact ⟨fun _ _ => rfl, hobjects⟩
  · simp [hholder]
  · rw [hholder] at hk
    exact hne (Option.some.inj hk).symm

/-- With one more call at the end, a call of another number was there before. -/
theorem mem_of_concat {v w : Served} (h : w ∈ order ++ [v]) (hne : w.number ≠ v.number) :
    w ∈ order := by
  rcases List.mem_append.1 h with h | h
  · exact h
  · obtain rfl := List.mem_singleton.1 h
    exact absurd rfl hne

/-- A task of a number that no settled call had is that of the one that is settled now. -/
theorem served_concat {v : Served} (hnone : ∀ w ∈ order, w.number ≠ v.number) :
    ∀ w ∈ order ++ [v], w.number = v.number →
      ∃ stage, (⟨v.call, .working, .done v.result⟩ : Task) = ⟨w.call, stage, .done w.result⟩ := by
  intro w hw heq
  rcases List.mem_append.1 hw with hw | hw
  · exact absurd heq (hnone w hw)
  · obtain rfl := List.mem_singleton.1 hw
    exact ⟨.working, rfl⟩

/-- A call that needs no lock is settled, and the folder is left. -/
theorem Stands.settle_free (hs : Stands order g seen s) {v : Served}
    (hnone : ∀ w ∈ order, w.number ≠ v.number)
    (htasks : ∀ k, s'.tasks[k]? =
      if k = v.number then some ⟨v.call, .working, .done v.result⟩ else s.tasks[k]?)
    (hsite : s'.site.folder = s.site.folder) (hholder : s'.holder = s.holder)
    (hfree : s.holder ≠ some v.number) (hseen : ∀ k now, seen k now → seen' k now) :
    Stands (order ++ [v]) g seen' s' := by
  refine hs.update htasks ⟨none, .settled List.mem_concat_self rfl (by simp), ?_, nofun⟩ ?_ ?_ ?_
    (served_concat hnone) (fun w hw => List.mem_append_left _ hw) (fun w => mem_of_concat) hseen
    (.inl ⟨rfl, hsite⟩)
  · simp [hholder, hfree]
  · rw [hsite]
    exact hs.shown
  · rw [hholder, hsite]
    exact hs.free
  · rw [hholder]
    exact fun _ _ => Iff.rfl

/-- A call that holds the lock is settled by a step that leaves the folder `f`. -/
theorem Stands.settle_held (hs : Stands order g seen s) {c : Call} {now : Instant}
    {x : Timed Site (Result c.Answer)} {r : Result c.Answer} {time : Nat} {f : Folder}
    (htask : s.tasks[number]? = some ⟨c, .working, x⟩) (hholder : s.holder = some number)
    (hturn : Timed.turn time x s.site = (.done r, { s.site with folder := f }))
    (hanswer : (Site.directory c).Answers ⟨now, g⟩ r ⟨now, f⟩) (hnow : seen' number now)
    (hnone : ∀ v ∈ order, v.number ≠ number) (hseen : ∀ k now, seen k now → seen' k now) :
    ∃ order' g', Serves s seen' order g order' g' ∧
      Stands order' g' seen' (s.acted number ⟨c, .working, x⟩ (.turn time)) := by
  let v : Served := ⟨number, c, now, r⟩
  refine ⟨order ++ [v], f, .inr ⟨v, rfl, hanswer, hnone, hnow, ?_⟩, ?_⟩
  · exact not_hasReturned htask (by simp)
  · exact hs.turn_held htask hholder hturn (.held (v := v) List.mem_concat_self rfl) rfl
      (served_concat (v := v) hnone) (fun w hw => List.mem_append_left _ hw)
      (fun w => mem_of_concat) hseen

/-- **A step of a call** settles it, or leaves all that is settled as it is. -/
theorem Stands.turn (hs : Stands order g seen s) (htask : s.tasks[number]? = some task)
    (hstage : task.stage = .working) (time : Nat) (hseen : ∀ k now, seen k now → seen' k now)
    (hnow : seen' number s.site.now) :
    ∃ order' g', Serves s seen' order g order' g' ∧
      Stands order' g' seen' (s.acted number task (.turn time)) := by
  obtain ⟨base, hphase, hbase, hsame⟩ := hs.stands number task htask
  -- a step of the call that holds the lock is one from the folder that it stands on
  have hturn {b : Folder} (hb : base = some b) :
      Timed.turn time task.left s.site = Timed.turn time task.left { s.site with folder := b } :=
    (hsame b hb).1 time s.site.now
  -- one case for each step that a call may have left
  cases hphase with
  | waiting => cases hstage
  | asking name hnone =>
    -- the object that it reads is the one that the settled calls have left
    have hread := readObject_congr hs.shown name
    have hacted : s.acted number ⟨.get name, .working, Site.directory (.get name)⟩ (.turn time) =
        ⟨s.site, s.holder,
          s.tasks.set number ⟨.get name, .working, .done (readObject g name)⟩⟩ := by
      rw [← hread]
      rfl
    rw [hacted]
    let v : Served := ⟨number, .get name, s.site.now, readObject g name⟩
    refine ⟨order ++ [v], g, .inr ⟨v, rfl, .read _ _, hnone, hnow, ?_⟩, ?_⟩
    · exact not_hasReturned htask (by simp)
    · exact hs.settle_free (v := v) hnone (getElem?_set_task htask _) rfl rfl
        (fun hholder => nomatch hbase.2 hholder) hseen
  | @reading c intend hc hnone =>
    have hholder := hbase.1 rfl
    have hturn := (hturn rfl).trans (hc.turn time _)
    have hanswer := hc.answers ⟨s.site.now, g⟩
    dsimp only at hturn hanswer
    cases hintent : intend s.site.now g with
    | error e =>
      rw [hintent] at hturn hanswer
      exact hs.settle_held htask hholder hturn hanswer hnow hnone hseen
    | ok intent =>
      rw [hintent] at hturn
      exact ⟨order, g, .inl ⟨rfl, rfl⟩, hs.turn_held htask hholder hturn
        (.writing hc hnow hintent hnone) rfl (fun v hv heq => absurd heq (hnone v hv))
        (fun _ hv => hv) (fun _ hv _ => hv) hseen⟩
  | @writing c intend hc now hread e a hintent hnone =>
    have hholder := hbase.1 rfl
    have hturn := (hturn rfl).trans (enact_turn e a time _)
    have hanswer := hc.answers ⟨now, g⟩
    simp only [hintent, settled] at hturn hanswer
    cases hbeside : Folder.write g (tempName e.name) (document e) with
    | error cause =>
      simp only [hbeside] at hturn hanswer
      exact hs.settle_held htask hholder hturn hanswer (hseen _ _ hread) hnone hseen
    | ok beside =>
      simp only [hbeside] at hturn
      exact ⟨order, g, .inl ⟨rfl, rfl⟩, hs.turn_held htask hholder hturn
        (.placing hc (hseen _ _ hread) hintent hbeside hnone) (objects_write hbeside)
        (fun v hv heq => absurd heq (hnone v hv)) (fun _ hv => hv) (fun _ hv _ => hv) hseen⟩
  | @placing c intend hc now hread e a hintent beside hbeside hnone =>
    have hholder := hbase.1 rfl
    have hturn := (hturn rfl).trans (place_turn e a time _)
    have hanswer := hc.answers ⟨now, g⟩
    simp only [hintent, settled, hbeside] at hturn hanswer
    cases hplaced : Folder.rename beside (tempName e.name) (objectName e.name) with
    | error cause | ok placed =>
      simp only [hplaced] at hturn hanswer
      exact hs.settle_held htask hholder hturn hanswer (hseen _ _ hread) hnone hseen
  | settled hv hnumber _ | held hv hnumber =>
    -- nothing is left of the call
    exact ⟨order, g, .inl ⟨rfl, rfl⟩, hs.still rfl rfl (set_task_self htask) hseen⟩

/-- A task that is that of a settled call is so in the order, too. -/
theorem Stands.served_of_number (hs : Stands order g seen s) (htask : s.tasks[number]? = some task)
    {v : Served} (hv : v ∈ order) (hnumber : v.number = number) :
    ∃ stage, task = ⟨v.call, stage, .done v.result⟩ := by
  obtain ⟨stage, hstage⟩ := hs.served v hv
  rw [hnumber, htask] at hstage
  exact ⟨stage, Option.some.inj hstage⟩

/-- To take the lock settles nothing. -/
theorem Stands.lock (hs : Stands order g seen s) (htask : s.tasks[number]? = some task)
    (hstage : task.stage = .waiting) (hfree : s.holder = none)
    (hseen : ∀ k now, seen k now → seen' k now) :
    Stands order g seen' (s.acted number task .lock) := by
  obtain ⟨base, hphase, hbase, -⟩ := hs.stands number task htask
  cases hphase with
  | waiting hc hnone =>
    obtain rfl := hs.free hfree
    refine hs.update (getElem?_set_task htask _)
      ⟨some s.site.folder, .reading hc hnone, by simp [acted], ?_⟩ hs.shown (by simp [acted])
      (fun k hne => ?_) (fun v hv heq => absurd heq (hnone v hv)) (fun _ hv => hv)
      (fun _ hv _ => hv) hseen (.inl ⟨rfl, rfl⟩)
    · rintro b hb
      obtain rfl := Option.some.inj hb
      exact ⟨fun _ _ => rfl, rfl⟩
    · simp [acted, hfree, Ne.symm hne]
  | settled _ _ hne => exact absurd hstage hne
  | _ => cases hstage

/-- A step that is under way settles nothing. -/
theorem Stands.partway (hs : Stands order g seen s) (htask : s.tasks[number]? = some task)
    (hstage : task.stage = .working) {f : Folder} (hobjects : objects f = objects s.site.folder)
    (hsame : SameTurn task.left f s.site.folder) (hseen : ∀ k now, seen k now → seen' k now) :
    Stands order g seen' (s.acted number task (.partway f)) := by
  obtain ⟨base, hphase, hbase, hbefore⟩ := hs.stands number task htask
  -- whoever holds the lock may have its step under way; others have none that changes anything
  by_cases hholder : s.holder = some number
  · refine hs.update (tasks_eq htask)
      ⟨base, ?_, hbase, fun b hb => ⟨fun time now => ?_, (hbefore b hb).2⟩⟩
      (hobjects.trans hs.shown) ?_ (fun _ _ => Iff.rfl) (fun v => hs.served_of_number htask)
      (fun _ hv => hv) (fun _ hv _ => hv) hseen (.inr fun k hne hk => ?_)
    · exact hphase.mono (fun _ hv => hv) (fun _ hv _ => hv) (hseen number) (.inr rfl)
    · exact (hsame time now).trans ((hbefore b hb).1 time now)
    · simp [acted, hholder]
    · rw [hholder] at hk
      exact hne (Option.some.inj hk).symm
  · -- a step that needs no lock leaves the folder that it starts from
    have hfolder : f = s.site.folder := by
      have hturn := congrArg (·.2.folder) (hsame 0 s.site.now)
      cases hphase with
      | asking | settled => exact hturn
      | waiting => cases hstage
      | reading | writing | placing | held => exact absurd (hbase.1 rfl) hholder
    exact hs.still hfolder rfl rfl hseen

/-- A call of which nothing is left is settled. If it holds the lock, the folder is the one that the
settled calls have left. -/
theorem Stands.of_done (hs : Stands order g seen s) (htask : s.tasks[number]? = some task)
    {r : Result task.call.Answer} (hdone : task.left = .done r) :
    ∃ v ∈ order, v.number = number ∧ task.stage ≠ .waiting ∧
      (s.holder = some number → s.site.folder = g) := by
  obtain ⟨base, hphase, hbase, hbefore⟩ := hs.stands number task htask
  -- a call with nothing left is in one of the two settled phases; in all others there is a step to
  -- take
  cases hphase with
  | settled hv hnumber hstage =>
    exact ⟨_, hv, hnumber, hstage, fun hholder => nomatch hbase.2 hholder⟩
  | held hv hnumber =>
    have hturn := (hbefore g rfl).1 0 s.site.now
    exact ⟨_, hv, hnumber, by simp, fun _ => congrArg (·.2.folder) hturn⟩
  | waiting hc | reading hc =>
    rw [Site.directory, hc.directory_eq] at hdone
    cases hdone
  | writing =>
    rw [enact_ok] at hdone
    cases hdone
  | asking | placing => cases hdone

/-- To give back the lock settles nothing. -/
theorem Stands.release (hs : Stands order g seen s) (htask : s.tasks[number]? = some task)
    {r : Result task.call.Answer} (hdone : task.left = .done r) (hholder : s.holder = some number)
    (hseen : ∀ k now, seen k now → seen' k now) :
    Stands order g seen' (s.acted number task .release) := by
  obtain ⟨v, hv, hnumber, hstage, hfolder⟩ := hs.of_done htask hdone
  obtain ⟨stage, rfl⟩ := hs.served_of_number htask hv hnumber
  refine hs.update (tasks_eq htask) ⟨none, .settled hv hnumber hstage, by simp [acted], nofun⟩
    hs.shown (fun _ => hfolder hholder) (fun k hne => ?_) (fun w => hs.served_of_number htask)
    (fun _ hv => hv) (fun _ hv _ => hv) hseen (.inl ⟨rfl, rfl⟩)
  simp [acted, hholder, Ne.symm hne]

/-- To return settles nothing. -/
theorem Stands.finish (hs : Stands order g seen s) (htask : s.tasks[number]? = some task)
    {r : Result task.call.Answer} (hdone : task.left = .done r) (hholder : s.holder ≠ some number)
    (hseen : ∀ k now, seen k now → seen' k now) :
    Stands order g seen' (s.acted number task .finish) := by
  obtain ⟨v, hv, hnumber, -, -⟩ := hs.of_done htask hdone
  obtain ⟨stage, rfl⟩ := hs.served_of_number htask hv hnumber
  refine hs.update (getElem?_set_task htask _)
    ⟨none, .settled hv hnumber (by simp), by simp [acted, hholder], nofun⟩ hs.shown hs.free
    (fun _ _ => Iff.rfl) (fun w hw heq => ?_) (fun _ hv => hv) (fun _ hv _ => hv) hseen
    (.inl ⟨rfl, rfl⟩)
  obtain ⟨stage', hsame⟩ := hs.served_of_number htask hw heq
  exact ⟨.returned, congrArg (fun task : Task => { task with stage := .returned }) hsame⟩

/-- **What a call does** settles it, or leaves all that is settled as it is. -/
theorem Stands.act (hs : Stands order g seen s) (htask : s.tasks[number]? = some task) {a : Act}
    (ha : Permits s number task a) (hseen : ∀ k now, seen k now → seen' k now)
    (hnow : task.stage = .working → seen' number s.site.now) :
    ∃ order' g', Serves s seen' order g order' g' ∧
      Stands order' g' seen' (s.acted number task a) := by
  cases ha with
  | turn time hstage => exact hs.turn htask hstage time hseen (hnow hstage)
  | lock hstage hfree => exact ⟨order, g, .inl ⟨rfl, rfl⟩, hs.lock htask hstage hfree hseen⟩
  | partway hstage hobjects hsame =>
    exact ⟨order, g, .inl ⟨rfl, rfl⟩, hs.partway htask hstage hobjects hsame hseen⟩
  | release hstage hdone hholder =>
    exact ⟨order, g, .inl ⟨rfl, rfl⟩, hs.release htask hdone hholder hseen⟩
  | finish hstage hdone hholder =>
    exact ⟨order, g, .inl ⟨rfl, rfl⟩, hs.finish htask hdone hholder hseen⟩

/-- **A call that is made** is settled at once if it is refused before it asks for the lock. -/
theorem Stands.call (hs : Stands order g seen s) {c : Call} (hc : c ≠ .dump)
    (hseen : ∀ k now, seen k now → seen' k now) (hnow : seen' s.tasks.length s.site.now) :
    ∃ order' g', Serves s seen' order g order' g' ∧ Stands order' g' seen' (s.move (.call c)) := by
  have htasks (k : Nat) : (s.tasks ++ [Task.begin c])[k]? =
      if k = s.tasks.length then some (.begin c) else s.tasks[k]? := by
    split
    · rename_i heq
      rw [heq, List.getElem?_concat_length]
    · rename_i hne
      rcases Nat.lt_or_gt_of_ne hne with hlt | hgt
      · rw [List.getElem?_append_left hlt]
      · rw [List.getElem?_eq_none (by rw [List.length_append]; exact hgt),
          List.getElem?_eq_none (Nat.le_of_lt hgt)]
  have hnone (v : Served) (hv : v ∈ order) : v.number ≠ s.tasks.length := by
    obtain ⟨stage, hstage⟩ := hs.served v hv
    exact Nat.ne_of_lt (lt_length_of_getElem? hstage)
  have hholder : s.holder ≠ some s.tasks.length := fun hholder =>
    Nat.lt_irrefl _ (hs.holds _ hholder)
  -- the call is not settled yet
  have hfresh (hphase : Phase order g (seen' s.tasks.length) s.tasks.length (.begin c) none) :
      Stands order g seen' (s.move (.call c)) :=
    hs.update htasks ⟨none, hphase, by simp [move, hholder], nofun⟩ hs.shown hs.free
      (fun _ _ => Iff.rfl) (fun v hv heq => absurd heq (hnone v hv)) (fun _ hv => hv)
      (fun _ hv _ => hv) hseen (.inl ⟨rfl, rfl⟩)
  -- a write waits for the lock, a reading call goes ahead, and one that is refused has its result
  cases directory_plan Site.now Site.part c with
  | @writes _ intend hw =>
    have hbegin : Task.begin c = ⟨c, .waiting, Site.directory c⟩ := by
      rw [Task.begin, if_pos (takesLock_iff.2 ⟨intend, hw⟩)]
    exact ⟨order, g, .inl ⟨rfl, rfl⟩, hfresh (hbegin ▸ .waiting hw hnone)⟩
  | get name => exact ⟨order, g, .inl ⟨rfl, rfl⟩, hfresh (.asking name hnone)⟩
  | dump => exact absurd rfl hc
  | refused e he =>
    have hbegin : Task.begin c = ⟨c, .working, .done (.error e)⟩ := by
      have hlock : ¬ takesLock c = true := fun hlock => by
        obtain ⟨intend, hw⟩ := takesLock_iff.1 hlock
        rw [hw.directory_eq] at he
        cases he
      rw [Task.begin, if_neg hlock, Site.directory, he]
      rfl
    let v : Served := ⟨s.tasks.length, c, s.site.now, .error e⟩
    refine ⟨order ++ [v], g, .inr ⟨v, rfl, ?_, hnone, hnow, ?_⟩, ?_⟩
    · show (Site.directory c).Answers _ _ _
      rw [Site.directory, he]
      exact .pure _ _
    · rintro ⟨task, htask, -⟩
      exact Nat.lt_irrefl _ (lt_length_of_getElem? htask)
    · rw [hbegin] at htasks
      have hmoved : s.move (.call c) =
          { s with tasks := s.tasks ++ [⟨c, .working, .done (.error e)⟩] } := by rw [move, hbegin]
      rw [hmoved]
      exact hs.settle_free (v := v) hnone htasks rfl rfl hholder hseen

/-- **Every move** settles at most one call. -/
theorem Stands.move (hs : Stands order g seen s) {m : Move} (hm : s.Allows m)
    (hseen : ∀ k now, seen k now → seen' k now)
    (hworking : ∀ number task, s.tasks[number]? = some task → task.stage = .working →
      seen' number s.site.now)
    (hmade : ∀ c, m = .call c → seen' s.tasks.length s.site.now) :
    ∃ order' g', Serves s seen' order g order' g' ∧ Stands order' g' seen' (s.move m) := by
  cases hm with
  | clock now =>
    have hclock : (s.move (.clock now)).site.folder = s.site.folder := rfl
    exact ⟨order, g, .inl ⟨rfl, rfl⟩, hs.still hclock rfl rfl hseen⟩
  | call hc => exact hs.call hc hseen (hmade _ rfl)
  | act htask ha =>
    simp only [Sharing.move, htask]
    exact hs.act htask ha hseen (hworking _ _ htask)

/-- A call that has returned does nothing more. -/
theorem HasReturned.move {m : Move} (h : s.HasReturned number) (hm : s.Allows m) :
    (s.move m).HasReturned number := by
  obtain ⟨task, htask, hstage⟩ := h
  cases hm with
  | clock now => exact ⟨task, htask, hstage⟩
  | call hc =>
    refine ⟨task, ?_, hstage⟩
    rw [Sharing.move, List.getElem?_append_left (lt_length_of_getElem? htask), htask]
  | @act other acting a hacting ha =>
    -- no act is permitted to a call that has returned
    have hne : number ≠ other := by
      rintro rfl
      rw [htask] at hacting
      obtain rfl := Option.some.inj hacting
      cases ha <;> simp_all
    refine ⟨task, ?_, hstage⟩
    simp only [Sharing.move, hacting]
    cases a with
    | partway | release => exact htask
    | lock | turn time | finish =>
      simp only [acted]
      rw [List.getElem?_set_ne (Ne.symm hne), htask]

end More

/-! ## Every move -/

section Moves

variable {s₀ : Site} {moves : List Move} {m : Move} {order order' : List Served} {g g' : Folder}
  {number k k' : Nat}

/-- The clock has shown the time when the call of the number was made and had not returned. -/
def Seen (s₀ : Site) (moves : List Move) (number : Nat) (now : Instant) : Prop :=
  ∃ k, k ≤ moves.length ∧ (upTo s₀ moves k).HasCalled number ∧
    ¬ (upTo s₀ moves k).HasReturned number ∧ (upTo s₀ moves k).site.now = now

/-- The order is one of calls made one after the other on the first folder, with their own results,
each at a time that the clock has shown while it was under way. No call stands in it before one that
had returned when it was made. -/
structure Orders (s₀ : Site) (moves : List Move) (order : List Served) (g : Folder) : Prop where
  serial : Serial s₀.folder order g
  once : (order.map (·.number)).Nodup
  seen : ∀ v ∈ order, Seen s₀ moves v.number v.now
  inTime : order.Pairwise fun v w => ∀ k ≤ moves.length,
    (upTo s₀ moves k).HasReturned w.number → (upTo s₀ moves k).HasCalled v.number

/-- One more move leaves the states before it as they were. -/
theorem upTo_concat (h : k ≤ moves.length) : upTo s₀ (moves ++ [m]) k = upTo s₀ moves k :=
  stateAfter_append h

/-- The last state is what the last move makes of the one before it. -/
theorem upTo_concat_length :
    upTo s₀ (moves ++ [m]) (moves ++ [m]).length = (upTo s₀ moves moves.length).move m := by
  rw [List.length_append, List.length_singleton, ← upTo_concat (m := m) (Nat.le_refl _)]
  exact stateAfter_succ List.getElem?_concat_length

/-- A time that was seen by a call has been seen after a further move. -/
theorem Seen.concat {now : Instant} (h : Seen s₀ moves number now) :
    Seen s₀ (moves ++ [m]) number now := by
  obtain ⟨k, hk, hseen⟩ := h
  refine ⟨k, by rw [List.length_append]; exact Nat.le_add_right_of_le hk, ?_⟩
  rwa [upTo_concat hk]

/-- Of moves that can happen, all but the last can, and the last one can after them. -/
theorem Runs.of_concat (h : Runs s₀ (moves ++ [m])) :
    Runs s₀ moves ∧ (upTo s₀ moves moves.length).Allows m := by
  refine ⟨fun n m' hm' => ?_, ?_⟩
  · rw [← upTo_concat (m := m) (Nat.le_of_lt (lt_length_of_getElem? hm'))]
    exact h n m' (getElem?_append_singleton hm')
  · rw [← upTo_concat (m := m) (Nat.le_refl _)]
    exact h _ m List.getElem?_concat_length

/-- A call that has returned stays so. -/
theorem Runs.hasReturned_mono (h : Runs s₀ moves) (hk : k ≤ k') (hk' : k' ≤ moves.length)
    (hreturned : (upTo s₀ moves k).HasReturned number) :
    (upTo s₀ moves k').HasReturned number := by
  -- from one state to the next, by the move between them
  induction k', hk using Nat.le_induction with
  | base => exact hreturned
  | succ n hn ih =>
    have hm := List.getElem?_eq_getElem hk'
    rw [upTo, stateAfter_succ hm]
    exact (ih (Nat.le_of_succ_le hk')).move (h n _ hm)

/-- One more move adds at most one call to the order. -/
theorem Orders.concat (ho : Orders s₀ moves order g) (hruns : Runs s₀ moves)
    (hserves : Serves (upTo s₀ moves moves.length) (Seen s₀ (moves ++ [m])) order g order' g')
    (hs : Stands order' g' (Seen s₀ (moves ++ [m]))
      (upTo s₀ (moves ++ [m]) (moves ++ [m]).length)) :
    Orders s₀ (moves ++ [m]) order' g' := by
  -- all calls of the order were made by now, so only the states before the move matter
  have hcalled {v : Served} (hv : v ∈ order') {w : Served}
      (h : ∀ k ≤ moves.length, (upTo s₀ moves k).HasReturned w.number →
        (upTo s₀ moves k).HasCalled v.number) :
      ∀ k ≤ (moves ++ [m]).length, (upTo s₀ (moves ++ [m]) k).HasReturned w.number →
        (upTo s₀ (moves ++ [m]) k).HasCalled v.number := by
    intro k hk hreturned
    rcases Nat.lt_or_eq_of_le hk with hlt | rfl
    · rw [List.length_append, List.length_singleton] at hlt
      have hle := Nat.le_of_lt_succ hlt
      rw [upTo_concat hle] at hreturned ⊢
      exact h k hle hreturned
    · obtain ⟨stage, hstage⟩ := hs.served v hv
      exact lt_length_of_getElem? hstage
  rcases hserves with ⟨rfl, rfl⟩ | ⟨v, rfl, hanswer, hnone, hseen, hreturned⟩
  · exact ⟨ho.serial, ho.once, fun w hw => (ho.seen w hw).concat,
      ho.inTime.imp_of_mem fun hv _ h => hcalled hv h⟩
  · refine ⟨serial_append.2 ⟨g, ho.serial, g', hanswer, rfl⟩, ?_, fun w hw => ?_, ?_⟩
    · rw [List.map_append, List.map_singleton, List.nodup_append]
      refine ⟨ho.once, List.pairwise_singleton _ _, fun number hmem other hother => ?_⟩
      obtain ⟨w, hw, rfl⟩ := List.mem_map.1 hmem
      obtain rfl := List.mem_singleton.1 hother
      exact hnone w hw
    · rcases List.mem_append.1 hw with hw | hw
      · exact (ho.seen w hw).concat
      · obtain rfl := List.mem_singleton.1 hw
        exact hseen
    · refine List.pairwise_append.2 ⟨?_, List.pairwise_singleton _ _, fun a ha b hb => ?_⟩
      · exact ho.inTime.imp_of_mem fun ha _ h => hcalled (List.mem_append_left _ ha) h
      · obtain rfl := List.mem_singleton.1 hb
        refine hcalled (List.mem_append_left _ ha) fun k hk hback => ?_
        exact absurd (hruns.hasReturned_mono hk (Nat.le_refl _) hback) hreturned

/-- **All calls stand somewhere**, after any moves. -/
theorem orders_of_runs (h : Runs s₀ moves) : ∃ order g, Orders s₀ moves order g ∧
    Stands order g (Seen s₀ moves) (upTo s₀ moves moves.length) := by
  induction moves using List.reverseRecOn with
  | nil =>
    refine ⟨[], s₀.folder, ⟨rfl, List.nodup_nil, by simp, List.Pairwise.nil⟩, ?_⟩
    exact ⟨rfl, fun _ => rfl, nofun, nofun, by simp⟩
  | append_singleton moves m ih =>
    obtain ⟨hruns, hm⟩ := h.of_concat
    obtain ⟨order, g, ho, hs⟩ := ih hruns
    have hseen (k : Nat) (now : Instant) (h : Seen s₀ moves k now) :
        Seen s₀ (moves ++ [m]) k now := h.concat
    have hworking (number : Nat) (task : Task)
        (htask : (upTo s₀ moves moves.length).tasks[number]? = some task)
        (hstage : task.stage = .working) :
        Seen s₀ (moves ++ [m]) number (upTo s₀ moves moves.length).site.now := by
      refine Seen.concat ⟨moves.length, Nat.le_refl _, lt_length_of_getElem? htask, ?_, rfl⟩
      exact not_hasReturned htask (by simp [hstage])
    have hmade (c : Call) (hcall : m = .call c) :
        Seen s₀ (moves ++ [m]) (upTo s₀ moves moves.length).tasks.length
          (upTo s₀ moves moves.length).site.now := by
      -- the call is under way after the move
      subst hcall
      refine ⟨_, Nat.le_refl _, ?_, ?_, ?_⟩
      · rw [upTo_concat_length]
        simp [HasCalled, move]
      · rw [upTo_concat_length]
        refine not_hasReturned List.getElem?_concat_length ?_
        rw [Task.begin]
        split <;> simp
      · rw [upTo_concat_length]
        rfl
    obtain ⟨order', g', hserves, hs'⟩ := hs.move hm hseen hworking hmade
    rw [← upTo_concat_length] at hs'
    exact ⟨order', g', ho.concat hruns hserves hs', hs'⟩

/-- **Calls on one folder are calls made one after the other.** Whatever moves calls make on a
folder, at whatever times, there is an order of them in which, made one after the other on the same
folder, they have their own results. It respects which call had returned when another was made, and
holds every call that has returned. The objects are always those that the order leaves, and the
whole folder is when all calls have returned. If the first folder is orderly, no write is lost. -/
theorem calls_linearize (h : Runs s₀ moves) : ∃ order g,
    Orders s₀ moves order g ∧
    (∀ number task, (upTo s₀ moves moves.length).tasks[number]? = some task →
      task.stage = .returned →
        ∃ v ∈ order, v.number = number ∧ task = ⟨v.call, .returned, .done v.result⟩) ∧
    (∀ v ∈ order, ∃ stage,
      (upTo s₀ moves moves.length).tasks[v.number]? = some ⟨v.call, stage, .done v.result⟩) ∧
    objects (upTo s₀ moves moves.length).site.folder = objects g ∧
    ((∀ task ∈ (upTo s₀ moves moves.length).tasks, task.stage = .returned) →
      (upTo s₀ moves moves.length).site.folder = g) ∧
    (Orderly s₀.folder → (∀ k ≤ moves.length, (upTo s₀ moves k).site.now.Datable) →
      KeepsWrites s₀.folder order g) := by
  obtain ⟨order, g, ho, hs⟩ := orders_of_runs h
  have hreturned (number : Nat) (task : Task)
      (htask : (upTo s₀ moves moves.length).tasks[number]? = some task)
      (hstage : task.stage = .returned) :
      (upTo s₀ moves moves.length).holder ≠ some number ∧
        ∃ v ∈ order, v.number = number ∧ task = ⟨v.call, .returned, .done v.result⟩ := by
    obtain ⟨base, hphase, hbase, -⟩ := hs.stands number task htask
    cases hphase with
    | settled hv hnumber =>
      subst hstage
      exact ⟨fun hholder => (nomatch hbase.2 hholder), _, hv, hnumber, rfl⟩
    | _ => cases hstage
  refine ⟨order, g, ho, fun number task htask hstage => (hreturned number task htask hstage).2,
    hs.served, hs.shown, fun hall => hs.free ?_, fun hf hnow => ?_⟩
  · -- nobody holds the lock any more
    rw [Option.eq_none_iff_forall_ne_some]
    intro number hholder
    have htask := List.getElem?_eq_getElem (hs.holds number hholder)
    exact (hreturned number _ htask (hall _ (List.mem_of_getElem? htask))).1 hholder
  · refine ho.serial.keepsWrites hf fun v hv => ?_
    obtain ⟨k, hk, -, -, heq⟩ := ho.seen v hv
    exact heq ▸ hnow k hk

/-- Moves that can happen one after the other and lead from one state to another, while the clock
stands still. -/
inductive Leads : Sharing → List Move → Sharing → Prop
  | nil (s : Sharing) : Leads s [] s
  | cons {s s₁ s' : Sharing} {m : Move} {rest : List Move} (hm : s.Allows m) (hmove : s.move m = s₁)
    (hnow : s₁.site.now = s.site.now) (h : Leads s₁ rest s') : Leads s (m :: rest) s'

/-- Moves that lead from one state to the next make a run, in which the clock stands still. -/
theorem Leads.runs {s' : Sharing} (h : Leads (idle s₀) moves s') :
    Runs s₀ moves ∧ upTo s₀ moves moves.length = s' ∧
      ∀ k ≤ moves.length, (upTo s₀ moves k).site.now = s₀.now := by
  have hsite : s₀.now = (idle s₀).site.now := rfl
  simp only [Runs, upTo, stateAfter_length, hsite]
  -- the induction is on the moves from any state, not only from the first
  generalize idle s₀ = s at h
  induction h with
  | nil s => exact ⟨fun n m hm => (nomatch hm), rfl, fun k _ => by cases k <;> rfl⟩
  | cons hm hmove hnow h ih =>
    subst hmove
    obtain ⟨hruns, hlast, hstill⟩ := ih
    refine ⟨fun n m' hm' => ?_, hlast, fun k hk => ?_⟩
    · cases n with
      | zero =>
        obtain rfl := Option.some.inj hm'
        exact hm
      | succ n => exact hruns n m' hm'
    · cases k with
      | zero => rfl
      | succ k => exact (hstill k (Nat.le_of_succ_le_succ hk)).trans hnow

/-- A step of a call that is known, as a move. -/
theorem move_turn {s : Sharing} {task : Task} {time : Nat}
    {y : Timed Site (Result task.call.Answer)} {site : Site}
    (htask : s.tasks[number]? = some task) (hturn : Timed.turn time task.left s.site = (y, site)) :
    s.move (.act number (.turn time)) =
      ⟨site, s.holder, s.tasks.set number { task with left := y }⟩ := by
  simp only [move, htask, acted, hturn]

/-- An entry is written while another call reads and a third one waits for the lock, which it takes
in the end. The folder is empty at first, so that no write is lost. -/
theorem calls_linearize_of_three :
    let s₀ : Site := ⟨⟨1704164645, 0⟩, .empty⟩
    let moves : List Move := [.call (.put "gw" "id1"), .call (.get "gw"), .call (.put "gw" "id2"),
      .act 0 .lock, .act 0 (.turn 0), .act 0 (.turn 0), .act 1 (.turn 0), .act 0 (.turn 0),
      .act 0 .release, .act 2 .lock, .act 0 .finish, .act 1 .finish]
    let e : Entry := .create "gw" "id1" s₀.now
    Runs s₀ moves ∧ ∃ order g, Orders s₀ moves order g ∧
      (∃ v ∈ order, v.number = 0) ∧ (∃ v ∈ order, v.number = 1) ∧
      objects (placed .empty "gw" (document e)) = objects g ∧ KeepsWrites .empty order g := by
  intro s₀ moves e
  have hput {id : String} (hid : id ≠ "") : Writes (.put "gw" id) _ := .put (by decide) hid
  have hbegin {id : String} (hid : id ≠ "") :
      Task.begin (.put "gw" id) = ⟨.put "gw" id, .waiting, Site.directory (.put "gw" id)⟩ := by
    rw [Task.begin, if_pos (takesLock_iff.2 ⟨_, hput hid⟩)]
  -- the three steps of the write
  have hdot : "gw" ≠ "." := by decide
  have hshort : IsShort "gw" := by
    unfold IsShort
    decide +kernel
  have hread : Timed.turn 0 (Site.directory (.put "gw" "id1")) s₀ =
      (enact Site.part (.ok (e, e)), s₀) := by
    have hfound : readObject s₀.folder "gw" = .error (.notFound "gw") := by
      simp [readObject, Folder.read, isTooLong_objectName hshort, isDots_objectName, s₀]
    rw [(hput (by decide)).turn]
    simp only [hfound]
    rfl
  let beside : Folder := Table.insert .empty (tempName "gw") (.file (document e))
  have hwrite : Timed.turn 0 (enact Site.part (.ok (e, e))) s₀ =
      (place Site.part e e, ⟨s₀.now, beside⟩) := by
    have hbeside : Folder.write s₀.folder (tempName e.name) (document e) = .ok beside :=
      mirrors_empty.write_eq hdot hshort _
    rw [enact_turn, hbeside]
  have hplace : Timed.turn 0 (place Site.part e e) ⟨s₀.now, beside⟩ =
      (.done (.ok e), ⟨s₀.now, placed .empty "gw" (document e)⟩) := by
    have hplaced : Folder.rename beside (tempName e.name) (objectName e.name) =
        .ok (placed .empty "gw" (document e)) := mirrors_empty.rename_eq hdot hshort _
    rw [place_turn, hplaced]
  -- the call that writes, the one that reads, and the third one, on their way
  let state (folder : Folder) (holder : Option Nat) (first second third : Task) : Sharing :=
    ⟨⟨s₀.now, folder⟩, holder, [first, second, third]⟩
  let writer (stage : Stage) (x : Timed Site (Result Entry)) : Task := ⟨.put "gw" "id1", stage, x⟩
  let reader (stage : Stage) (x : Timed Site (Result Entry)) : Task := ⟨.get "gw", stage, x⟩
  let third (stage : Stage) : Task := ⟨.put "gw" "id2", stage, Site.directory (.put "gw" "id2")⟩
  let asks := Site.directory (.get "gw")
  let sees : Timed Site (Result Entry) := .done (readObject beside "gw")
  have hcalled : (((idle s₀).move (.call (.put "gw" "id1"))).move (.call (.get "gw"))).move
      (.call (.put "gw" "id2")) = state .empty none
        (writer .waiting (Site.directory (.put "gw" "id1"))) (reader .working asks)
        (third .waiting) := by
    simp only [move, idle, hbegin (by decide : "id1" ≠ ""), hbegin (by decide : "id2" ≠ "")]
    rfl
  have hleads : Leads (idle s₀) moves (state (placed .empty "gw" (document e)) (some 2)
      (writer .returned (.done (.ok e))) (reader .returned sees) (third .working)) := by
    refine .cons (.call (by simp)) rfl rfl (.cons (.call (by simp)) rfl rfl
      (.cons (.call (by simp)) hcalled rfl ?_))
    refine .cons (.act rfl (.lock rfl rfl)) (show _ = state .empty (some 0)
      (writer .working (Site.directory (.put "gw" "id1"))) (reader .working asks)
      (third .waiting) from rfl) rfl ?_
    refine .cons (.act rfl (.turn 0 rfl)) (show _ = state .empty (some 0)
      (writer .working (enact Site.part (.ok (e, e)))) (reader .working asks)
      (third .waiting) from (move_turn rfl hread).trans rfl) rfl ?_
    refine .cons (.act rfl (.turn 0 rfl)) (show _ = state beside (some 0)
      (writer .working (place Site.part e e)) (reader .working asks)
      (third .waiting) from (move_turn rfl hwrite).trans rfl) rfl ?_
    refine .cons (.act rfl (.turn 0 rfl)) (show _ = state beside (some 0)
      (writer .working (place Site.part e e)) (reader .working sees)
      (third .waiting) from (move_turn rfl rfl).trans rfl) rfl ?_
    refine .cons (.act rfl (.turn 0 rfl)) (show _ = state (placed .empty "gw" (document e)) (some 0)
      (writer .working (.done (.ok e))) (reader .working sees)
      (third .waiting) from (move_turn rfl hplace).trans rfl) rfl ?_
    refine .cons (.act rfl (.release rfl rfl rfl)) (show _ = state (placed .empty "gw" (document e))
      none (writer .working (.done (.ok e))) (reader .working sees) (third .waiting)
      from rfl) rfl ?_
    refine .cons (.act rfl (.lock rfl rfl)) (show _ = state (placed .empty "gw" (document e))
      (some 2) (writer .working (.done (.ok e))) (reader .working sees) (third .working)
      from rfl) rfl ?_
    refine .cons (.act rfl (.finish rfl rfl (by simp [state]))) (show _ = state
      (placed .empty "gw" (document e)) (some 2) (writer .returned (.done (.ok e)))
      (reader .working sees) (third .working) from rfl) rfl ?_
    exact .cons (.act rfl (.finish rfl rfl (by simp [state]))) rfl rfl (.nil _)
  obtain ⟨hruns, hlast, hstill⟩ := hleads.runs
  obtain ⟨order, g, ho, hreturned, -, hobjects, -, hkeeps⟩ := calls_linearize hruns
  rw [hlast] at hreturned hobjects
  obtain ⟨v, hv, hwriter, -⟩ := hreturned 0 _ rfl rfl
  obtain ⟨w, hw, hreader, -⟩ := hreturned 1 _ rfl rfl
  have hdatable (k : Nat) (hk : k ≤ moves.length) : (upTo s₀ moves k).site.now.Datable := by
    rw [hstill k hk]
    exact ⟨by decide, by decide, by decide⟩
  exact ⟨hruns, order, g, ho, ⟨v, hv, hwriter⟩, ⟨w, hw, hreader⟩, hobjects,
    hkeeps orderly_empty hdatable⟩

end Moves

end Sharing

end GatewayDirectory.FolderStore
