import GatewayDirectory.Main
import GatewayDirectory.Proofs.Directory.Documents
import GatewayDirectory.Proofs.Storage.Disk
import GatewayDirectory.Proofs.Timed.Answers

/-!
# A folder in place of a store

A directory in a folder answers every call as the store does that the folder mirrors, and leaves a
folder that mirrors the store after the call (`directory_answers`). The one exception is a write of
an id for the name `.`, which a store accepts: the second file for it would be the folder around, so
the write fails and changes nothing. Hence a whole session on a folder, with times that come as they
like and with the folder opened again at will, is that of a store in memory exactly when it makes no
such write.
-/

namespace GatewayDirectory

open Directory Storage Cli

/-! ## The store that a folder stands for -/

/-- The name that a call is about. -/
def Directory.Call.name? : Call → Option String
  | .get name | .put name _ | .putAuthorized name _ _ | .putToken name _
  | .putTokenAuthorized name _ _ => some name
  | .dump => none

/-- The call writes an id for a lone dot, a valid name. -/
def Directory.Call.writesDot : Call → Bool
  | .put name id | .putAuthorized name id _ => name = "." ∧ id ≠ ""
  | _ => false

namespace FolderStore

/-- What a call answers in a folder that mirrors a store: what it answers on the store, but for a
write of an id for a lone dot. -/
def answer (now : Instant) (c : Call) (s : Store) : Result c.Answer × Store :=
  if c.writesDot then (.error (.io .isDirectory), s) else s.answer now c

/-- A call that can be made on a folder: its time can be dated, and its name leaves room for the
names of files. -/
structure Admissible (now : Instant) (c : Call) : Prop where
  datable : now.Datable
  short : ∀ name, c.name? = some name → IsShort name

variable {now : Instant} {s : Store} {name id token : String}

namespace Fitting

/-- An empty store fits. -/
theorem empty : Fitting .empty where
  sound := Store.sound_empty
  short name e h := by simp at h
  datable name e h := by simp at h
  no_dot := rfl

/-- An entry with a short name, other than a lone dot, and a time that can be dated may be added. -/
theorem insert (hs : Fitting s) {e : Entry} (hfits : Store.Fits name e) (hshort : IsShort name)
    (hdatable : e.lastUpdate.Datable) (hdot : name ≠ ".") : Fitting (s.insert name e) where
  sound := hs.sound.insert hfits
  short other e' h := by
    rw [Table.get?_insert] at h
    split at h
    · rename_i heq
      exact heq ▸ hshort
    · exact hs.short other e' h
  datable other e' h := by
    rw [Table.get?_insert] at h
    split at h
    · cases h
      exact hdatable
    · exact hs.datable other e' h
  no_dot := by
    rw [Table.get?_insert, if_neg hdot]
    exact hs.no_dot

end Fitting

/-! ## One call -/

section Call

variable {path : List String} {w : World} {f : Folder}

/-- The folder at a path of the world's disk. -/
def part (path : List String) : Part World Folder := surroundings.disk.within (Disk.part path)

/-- The world has the folder at the path, and its clock shows the time. -/
structure Has (path : List String) (w : World) (f : Folder) (now : Instant) : Prop where
  folder : Disk.folder? w.disk path = some f
  clock : w.now = now

namespace Has

/-- The folder at the path is the part that is read and set. -/
theorem get_part (h : Has path w f now) : (part path).get w = f := by
  simp [part, Part.within, surroundings, Disk.part, h.folder]

/-- An operation on the folder answers and leaves the folder that it says. -/
theorem run_part {α : Type} (h : Has path w f now) (op : Folder → α × Folder) :
    ∃ w', (Timed.update ((part path).run op)).Answers w (op f).1 w' ∧
      Has path w' (op f).2 now := by
  refine ⟨(part path).set (op f).2 w, ?_, ⟨?_, h.clock⟩⟩
  · have hanswer := Timed.Answers.update ((part path).run op) w
    simpa only [Part.run, h.get_part] using hanswer
  · exact Disk.folder?_set h.folder _

/-- **A document is written beside its place and then moved there.** -/
theorem writeObject (h : Has path w f now) (hm : Mirrors f s) {e : Entry} (hdot : e.name ≠ ".")
    (hshort : IsShort e.name) :
    ∃ w', (FolderStore.writeObject (part path) e).Answers w (.ok ()) w' ∧
      Has path w' (placed f e.name (document e)) now := by
  obtain ⟨w₁, hwrite, h₁⟩ := h.run_part (attempt (·.write (tempName e.name) (document e)))
  rw [attempt, hm.write_eq hdot hshort] at hwrite h₁
  obtain ⟨w₂, hmove, h₂⟩ := h₁.run_part (attempt (·.rename (tempName e.name) (objectName e.name)))
  rw [attempt, hm.rename_eq hdot hshort] at hmove h₂
  exact ⟨w₂, hwrite.bind (hmove.bind (.pure _ _)), h₂⟩

/-- The document of a lone dot cannot be written. -/
theorem writeObject_dot (h : Has path w f now) {e : Entry} (hdot : e.name = ".") :
    ∃ w', (FolderStore.writeObject (part path) e).Answers w (.error (.io .isDirectory)) w' ∧
      Has path w' f now := by
  obtain ⟨w₁, hwrite, h₁⟩ := h.run_part (attempt (·.write (tempName e.name) (document e)))
  have hrefused : Folder.write f (tempName e.name) (document e) = .error .isDirectory := by
    rw [hdot]
    rfl
  rw [attempt, hrefused] at hwrite h₁
  exact ⟨w₁, hwrite.bind (.pure _ _), h₁⟩

end Has

/-- The world's folder at the path mirrors the store, and its clock shows the time. -/
def Keeps (path : List String) (w : World) (s : Store) (now : Instant) : Prop :=
  ∃ f, Has path w f now ∧ Mirrors f s

/-- What is read of the folder and the clock is read from the folder that the world has. -/
theorem read_answers {α : Type} (h : Has path w f now) (op : Folder → Instant → α) :
    (Timed.read fun w => op ((part path).get w) w.now).Answers w (op f now) w := by
  have hanswer := Timed.Answers.read (fun w => op ((part path).get w) w.now) w
  simpa only [h.get_part, h.clock] using hanswer

/-- A document takes its place, and the folder mirrors the store with its entry. -/
theorem writeObject_answers (hw : Keeps path w s now) {e : Entry} (hname : e.name = name)
    (hshort : IsShort name) (hdot : name ≠ ".") :
    ∃ w', (writeObject (part path) e).Answers w (.ok ()) w' ∧
      Keeps path w' (s.insert name e) now := by
  subst hname
  obtain ⟨f, h, hm⟩ := hw
  obtain ⟨w', hwritten, h'⟩ := h.writeObject hm hdot hshort
  exact ⟨w', hwritten, _, h', hm.placed hdot e⟩

/-- A valid write of an id writes the entry that the store would write. -/
theorem put_eq_written (hw : Keeps path w s now) (hs : Fitting s) (hshort : IsShort name)
    (hname : isValidName name = true) (hid : id ≠ "") {answered : Result Entry} {w' : World}
    (h : ((writeObject (part path) (s.written now name id)).bind fun
      | .error err => return .error err
      | .ok () => return .ok (s.written now name id)).Answers w answered w') :
    (put World.now (part path) name id).Answers w answered w' := by
  obtain ⟨f, hf, hm⟩ := hw
  have hread := read_answers hf fun f now => (readObject f name, now)
  rw [hm.readObject_eq hs hshort] at hread
  unfold put
  simp only [hname, Bool.not_true, Bool.false_eq_true, if_false, hid]
  refine hread.bind ?_
  unfold Store.get
  unfold Store.written at h
  -- the store has the entry that the folder was asked for, so both write the same one
  cases hget : s.get? name with
  | none =>
    rw [hget] at h
    exact h
  | some e =>
    rw [hget] at h
    exact h

/-- A write of an id answers as the store does, unless it is for a lone dot. -/
theorem put_answers (hw : Keeps path w s now) (hs : Fitting s) (hshort : IsShort name) :
    ∃ w', (put World.now (part path) name id).Answers w (answer now (.put name id) s).1 w' ∧
      Keeps path w' (answer now (.put name id) s).2 now := by
  by_cases hv : isValidName name = true ∧ id ≠ ""
  · obtain ⟨hname, hid⟩ := hv
    have hfits := hs.sound.fits_written now hname hid
    by_cases hdot : name = "."
    · -- the second file would be the folder around, and nothing is written
      obtain ⟨f, h, hm⟩ := hw
      obtain ⟨w', hrefused, h'⟩ := h.writeObject_dot (hfits.name_eq.trans hdot)
      have hanswer : answer now (.put name id) s = (.error (.io .isDirectory), s) := by
        simp [answer, Call.writesDot, hdot, hid]
      rw [hanswer]
      exact ⟨w', put_eq_written ⟨f, h, hm⟩ hs hshort hname hid (hrefused.bind (.pure _ _)),
        f, h', hm⟩
    · obtain ⟨w', hwritten, hw'⟩ := writeObject_answers hw hfits.name_eq hshort hdot
      have hanswer : answer now (.put name id) s =
          (.ok (s.written now name id), s.insert name (s.written now name id)) := by
        simp [answer, Call.writesDot, hdot, Store.answer, Store.put_of_valid hname hid]
      rw [hanswer]
      exact ⟨w', put_eq_written hw hs hshort hname hid (hwritten.bind (.pure _ _)), hw'⟩
  · -- what a store refuses is refused here before the folder is looked at
    have hvalid : (Call.put name id).writesDot = false := by
      simp only [Call.writesDot, decide_eq_false_iff_not]
      rintro ⟨rfl, hid⟩
      exact hv ⟨by decide, hid⟩
    refine ⟨w, ?_, ?_⟩
    · simp only [answer, hvalid, Bool.false_eq_true, if_false, Store.answer, Store.put, put]
      split
      · exact .pure _ w
      · split
        · exact .pure _ w
        · simp_all
    · obtain ⟨e, he⟩ := Store.put_of_not_valid s now hv
      simpa only [answer, hvalid, Bool.false_eq_true, if_false, Store.answer, he] using hw

/-- A write of a token answers as the store does: an entry to bind it to was written before. -/
theorem putToken_answers (hw : Keeps path w s now) (hs : Fitting s) (hshort : IsShort name) :
    ∃ w', (putToken (part path) name token).Answers w (s.putToken name token).1 w' ∧
      Keeps path w' (s.putToken name token).2 now := by
  obtain ⟨f, h, hm⟩ := hw
  have hread := read_answers h fun f _ => readObject f name
  rw [hm.readObject_eq hs hshort, Store.get] at hread
  -- the folder is asked for the entry that the store holds
  cases hget : s.get? name with
  | none =>
    rw [hget] at hread
    rw [Store.putToken_of_none hget]
    exact ⟨w, hread.bind (.pure _ _), f, h, hm⟩
  | some e =>
    rw [hget] at hread
    rw [Store.putToken_of_some hget]
    -- no entry is held for a lone dot, since none could be written
    have hdot : name ≠ "." := by
      rintro rfl
      rw [hs.no_dot] at hget
      cases hget
    obtain ⟨w', hwritten, hw'⟩ := writeObject_answers (e := e.bind token) ⟨f, h, hm⟩
      (hs.sound name e hget).name_eq hshort hdot
    exact ⟨w', hread.bind hwritten, hw'⟩

/-- **A call on a folder answers as on the store that the folder mirrors**, but for a write of an id
for a lone dot. -/
theorem directory_answers {c : Call} (hw : Keeps path w s now) (hs : Fitting s)
    (hc : Admissible now c) :
    ∃ w', (FolderStore.directory surroundings.clock (part path) c).Answers w (answer now c s).1 w' ∧
      Keeps path w' (answer now c s).2 now := by
  cases c with
  | get name =>
    obtain ⟨f, h, hm⟩ := hw
    have hread := read_answers h fun f _ => readObject f name
    rw [hm.readObject_eq hs (hc.short name rfl)] at hread
    exact ⟨w, hread, f, h, hm⟩
  | put name id | putAuthorized name id _ => exact put_answers hw hs (hc.short name rfl)
  | putToken name token | putTokenAuthorized name token _ =>
    exact putToken_answers hw hs (hc.short name rfl)
  | dump =>
    obtain ⟨f, h, hm⟩ := hw
    have hread := read_answers h fun f _ => dump f
    rw [hm.dump_eq hs] at hread
    exact ⟨w, hread, f, h, hm⟩

/-- A call leaves a store that a folder can hold. -/
theorem Fitting.answer {c : Call} (hs : Fitting s) (hc : Admissible now c) :
    Fitting (FolderStore.answer now c s).2 := by
  unfold FolderStore.answer
  split
  · exact hs
  · rename_i hdot
    -- both writes of an id do the same to the store, and so do both writes of a token
    have hput (name id : String) (hname : IsShort name) (hne : ¬ (name = "." ∧ id ≠ "")) :
        Fitting (s.put now name id).2 := by
      by_cases hv : isValidName name = true ∧ id ≠ ""
      · rw [Store.put_of_valid hv.1 hv.2]
        refine hs.insert (hs.sound.fits_written now hv.1 hv.2) hname ?_ fun h => hne ⟨h, hv.2⟩
        unfold Store.written
        split <;> exact hc.datable
      · obtain ⟨e, he⟩ := Store.put_of_not_valid s now hv
        rw [he]
        exact hs
    have hbind (name token : String) : Fitting (s.putToken name token).2 := by
      cases hget : s.get? name with
      | none =>
        rw [Store.putToken_of_none hget]
        exact hs
      | some e =>
        rw [Store.putToken_of_some hget]
        have hfits := hs.sound name e hget
        refine hs.insert ⟨hfits.name_eq, hfits.valid, hfits.id_ne⟩ (hs.short name e hget)
          (hs.datable name e hget) ?_
        rintro rfl
        rw [hs.no_dot] at hget
        cases hget
    cases c with
    | get | dump => exact hs
    | put name id | putAuthorized name id _ =>
      exact hput name id (hc.short name rfl) (by simpa [Call.writesDot] using hdot)
    | putToken name token | putTokenAuthorized name token _ => exact hbind name token

end Call

/-! ## Sessions -/

/-- What happens next in a session: a call at a time, or the directory is opened again. -/
inductive Visit where
  | call (now : Instant) (c : Call)
  | reopen

/-- A call with what it answered. -/
abbrev Outcome := (c : Call) × Result c.Answer

/-- Makes the calls of a session on a directory, which `opened` opens again. -/
def attend (opened : Timed World (Result (Directory World))) (d : Directory World) :
    List Visit → Timed World (Result (List Outcome))
  | [] => return .ok []
  | .call now c :: rest => do
    Timed.modify fun w => { w with now }
    let answered ← d c
    match ← attend opened d rest with
    | .error e => return .error e
    | .ok outcomes => return .ok (⟨c, answered⟩ :: outcomes)
  | .reopen :: rest => do
    match ← opened with
    | .error e => return .error e
    | .ok d => attend opened d rest

/-- A session on the directory at a location: what every call answers. -/
def session (location : Location) (visits : List Visit) : Timed World (Result (List Outcome)) := do
  let opened := location.directory surroundings 0 none
  match ← opened with
  | .error e => return .error e
  | .ok d => attend opened d visits

/-- What every call of a session answers on a store, which is never opened again. -/
def outcomes (s : Store) : List Visit → List Outcome
  | [] => []
  | .call now c :: rest => ⟨c, (s.answer now c).1⟩ :: outcomes (s.answer now c).2 rest
  | .reopen :: rest => outcomes s rest

/-- What every call of a session answers in a folder. -/
def folderOutcomes (s : Store) : List Visit → List Outcome
  | [] => []
  | .call now c :: rest => ⟨c, (answer now c s).1⟩ :: folderOutcomes (answer now c s).2 rest
  | .reopen :: rest => folderOutcomes s rest

/-- The visit writes an id for a lone dot. -/
def Visit.writesDot : Visit → Bool
  | .call _ c => c.writesDot
  | .reopen => false

/-- The visit can be made on a folder. -/
def Visit.IsAdmissible : Visit → Prop
  | .call now c => Admissible now c
  | .reopen => True

/-- A store accepts what a folder refuses. -/
theorem answer_ne_of_writesDot (now : Instant) (s : Store) {c : Call} (h : c.writesDot = true) :
    (answer now c s).1 ≠ (s.answer now c).1 := by
  have hvalid (id : String) (hid : id ≠ "") :
      (s.put now "." id).1 = .ok (s.written now "." id) := by
    rw [Store.put_of_valid (by decide) hid]
  rw [answer, if_pos h]
  cases c with
  | put name id | putAuthorized name id _ =>
    simp only [Call.writesDot, decide_eq_true_eq] at h
    obtain ⟨rfl, hid⟩ := h
    rw [Store.answer, hvalid id hid]
    simp
  | _ => cases h

/-- What a session answers in a folder is what it answers on a store, unless it writes an id for a
lone dot. -/
theorem folderOutcomes_eq_iff {visits : List Visit} :
    folderOutcomes s visits = outcomes s visits ↔ ∀ v ∈ visits, v.writesDot = false := by
  induction visits generalizing s with
  | nil => simp [folderOutcomes, outcomes]
  | cons v rest ih =>
    cases v with
    | reopen => simpa [folderOutcomes, outcomes, Visit.writesDot] using ih
    | call now c =>
      rw [folderOutcomes, outcomes, List.forall_mem_cons]
      cases hdot : c.writesDot with
      | true =>
        -- this answer differs already, whatever comes after it
        have hne := answer_ne_of_writesDot now s hdot
        simp [Visit.writesDot, hdot, hne]
      | false =>
        -- the answers and the stores agree, so the rest decides
        have hanswer : answer now c s = s.answer now c := by simp [answer, hdot]
        simp [Visit.writesDot, hdot, hanswer, ih]

section Session

variable {path : String} {w : World} {visits : List Visit}

/-- To open the folder again leaves it as it is. -/
theorem opened_answers (hw : Keeps (pathNames path) w s now) :
    ∃ w', ((Location.file path).directory surroundings 0 none).Answers w
        (.ok (FolderStore.directory surroundings.clock (part (pathNames path)))) w' ∧
      Keeps (pathNames path) w' s now := by
  obtain ⟨f, h, hm⟩ := hw
  obtain ⟨disk', hmade, hfolder⟩ := Disk.makeFolders_of_folder? h.folder
  have hmake := Timed.Answers.update
    (surroundings.disk.run (attempt fun disk => Disk.makeFolders disk (pathNames path))) w
  have hdisk : surroundings.disk.get w = w.disk := rfl
  rw [Part.run, hdisk, attempt, hmade] at hmake
  exact ⟨_, hmake.bind ((Timed.Answers.report _ _).bind (.pure _ _)), f, ⟨hfolder, h.clock⟩, hm⟩

/-- **A session in a folder**, from any store that the folder mirrors. -/
theorem attend_answers (hw : Keeps (pathNames path) w s now) (hs : Fitting s)
    (hvisits : ∀ v ∈ visits, v.IsAdmissible) :
    ∃ w', (attend ((Location.file path).directory surroundings 0 none)
      (FolderStore.directory surroundings.clock (part (pathNames path))) visits).Answers w
        (.ok (folderOutcomes s visits)) w' := by
  -- the induction is on the visits, from any world whose folder mirrors the store that is left
  induction visits generalizing w s now with
  | nil => exact ⟨w, .pure _ w⟩
  | cons v rest ih =>
    obtain ⟨hv, hrest⟩ := List.forall_mem_cons.1 hvisits
    cases v with
    | reopen =>
      -- the folder mirrors the store as before
      obtain ⟨w₁, hopened, hw₁⟩ := opened_answers hw
      obtain ⟨w₂, hattended⟩ := ih hw₁ hs hrest
      exact ⟨w₂, hopened.bind hattended⟩
    | call time c =>
      -- the clock moves, the folder does not
      obtain ⟨f, h, hm⟩ := hw
      have hclock : Keeps (pathNames path) { w with now := time } s time :=
        ⟨f, ⟨h.folder, rfl⟩, hm⟩
      obtain ⟨w₁, hanswered, hw₁⟩ := directory_answers hclock hs hv
      obtain ⟨w₂, hattended⟩ := ih hw₁ (hs.answer hv) hrest
      exact ⟨w₂, (Timed.Answers.modify _ w).bind
        (hanswered.bind (hattended.bind (.pure _ _)))⟩

/-- A session on a store in memory. -/
theorem attend_memory (w : World) (visits : List Visit) :
    ∃ w', (attend (Location.memory.directory surroundings 0 none)
      (Store.directory surroundings.clock surroundings.store) visits).Answers w
        (.ok (outcomes w.store visits)) w' := by
  induction visits generalizing w with
  | nil => exact ⟨w, .pure _ w⟩
  | cons v rest ih =>
    cases v with
    | reopen =>
      obtain ⟨w', hattended⟩ := ih w
      exact ⟨w', (Timed.Answers.pure _ w).bind hattended⟩
    | call time c =>
      have hanswered := Timed.Answers.update
        (surroundings.store.run (Store.answer time c)) { w with now := time }
      obtain ⟨w', hattended⟩ := ih { w with now := time, store := (w.store.answer time c).2 }
      exact ⟨w', (Timed.Answers.modify _ w).bind
        (hanswered.bind (hattended.bind (.pure _ _)))⟩

end Session

/-- **A folder in place of a store.** A session that starts on an empty folder answers every call,
whatever the times are and whenever the folder is opened again; and it answers every call as the
same session on an empty store in memory does, exactly when no call writes an id for a lone dot. -/
theorem session_eq_iff (path : String) (w : World) (visits : List Visit)
    (hfolder : Disk.folder? w.disk (pathNames path) = some .empty) (hstore : w.store = .empty)
    (hvisits : ∀ v ∈ visits, v.IsAdmissible) :
    ∃ inFolder inMemory w₁ w₂,
      (session (.file path) visits).Answers w (.ok inFolder) w₁ ∧
      (session .memory visits).Answers w (.ok inMemory) w₂ ∧
      (inFolder = inMemory ↔ ∀ v ∈ visits, v.writesDot = false) := by
  have hw : Keeps (pathNames path) w .empty w.now := ⟨.empty, ⟨hfolder, rfl⟩, mirrors_empty⟩
  obtain ⟨w₁, hopened, hw₁⟩ := opened_answers hw
  obtain ⟨w₂, hattended⟩ := attend_answers hw₁ .empty hvisits
  obtain ⟨w₃, hmemory⟩ := attend_memory w visits
  refine ⟨_, _, w₂, w₃, hopened.bind hattended, (Timed.Answers.pure _ w).bind hmemory, ?_⟩
  rw [hstore]
  exact folderOutcomes_eq_iff

/-- Two sessions in a folder of a disk: one agrees with the store in memory, the other, which writes
an id for a lone dot, does not. -/
theorem session_eq_on_data :
    let w : World := ⟨⟨1704164645, 0⟩, Table.ofList [("data", .folder [])], .empty⟩
    let visits (name : String) : List Visit :=
      [.call ⟨1704164645, 7⟩ (.put name "id"), .reopen, .call ⟨1704164700, 0⟩ .dump]
    Disk.folder? w.disk (pathNames "/data") = some .empty ∧ w.store = .empty ∧
      (∀ v ∈ visits "gw:1", v.IsAdmissible) ∧ (∀ v ∈ visits ".", v.IsAdmissible) ∧
      (∃ results w₁ w₂, (session (.file "/data") (visits "gw:1")).Answers w (.ok results) w₁ ∧
        (session .memory (visits "gw:1")).Answers w (.ok results) w₂) ∧
      (∃ inFolder inMemory w₁ w₂,
        (session (.file "/data") (visits ".")).Answers w (.ok inFolder) w₁ ∧
        (session .memory (visits ".")).Answers w (.ok inMemory) w₂ ∧ inFolder ≠ inMemory) := by
  intro w visits
  have hfolder : Disk.folder? w.disk (pathNames "/data") = some .empty := rfl
  have hvisits (name : String) (hname : IsShort name) : ∀ v ∈ visits name, v.IsAdmissible := by
    intro v hv
    simp only [visits, List.mem_cons, List.not_mem_nil, or_false] at hv
    rcases hv with rfl | rfl | rfl
    · refine ⟨⟨by decide, by decide, by decide⟩, fun n hn => ?_⟩
      obtain rfl : name = n := Option.some.inj hn
      exact hname
    · trivial
    · exact ⟨⟨by decide, by decide, by decide⟩, fun n hn => by cases hn⟩
  have hgateway : IsShort "gw:1" := by
    unfold IsShort
    decide +kernel
  have hdot : IsShort "." := by
    unfold IsShort
    decide +kernel
  refine ⟨hfolder, rfl, hvisits _ hgateway, hvisits _ hdot, ?_, ?_⟩
  · obtain ⟨inFolder, inMemory, w₁, w₂, h₁, h₂, hiff⟩ :=
      session_eq_iff "/data" w (visits "gw:1") hfolder rfl (hvisits _ hgateway)
    have heq : inFolder = inMemory := hiff.2 (by decide)
    exact ⟨inFolder, w₁, w₂, h₁, heq ▸ h₂⟩
  · obtain ⟨inFolder, inMemory, w₁, w₂, h₁, h₂, hiff⟩ :=
      session_eq_iff "/data" w (visits ".") hfolder rfl (hvisits _ hdot)
    exact ⟨inFolder, inMemory, w₁, w₂, h₁, h₂, fun heq => absurd (hiff.1 heq) (by decide)⟩

end FolderStore

end GatewayDirectory
