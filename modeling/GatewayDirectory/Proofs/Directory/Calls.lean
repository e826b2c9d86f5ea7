import GatewayDirectory.Directory.FolderStore
import GatewayDirectory.Proofs.Timed.Limits
import GatewayDirectory.Proofs.Timed.Parts

/-!
# What calls on a folder come to

A call on a folder is a write, is refused before the folder is looked at, or only reads
(`directory_plan`). A write of an id and a write of a token go the same way (`Writes`): in
the first step the object is read, which decides on the entry to write and on the answer, and
`enact` writes the entry in two further steps. A `Site` is a folder with a clock, the least that a
directory can be asked on.
-/

namespace GatewayDirectory.FolderStore

open Directory Storage

variable {σ α : Type} {clock : σ → Instant} {folder : Part σ Folder} {c : Call}

/-! ## Plans -/

/-- The entry that a write of an id is to leave where an object was found or not. A document that
cannot be read is not written over. -/
def renewed (now : Instant) (name id : String) : Result Entry → Result Entry
  | .ok e => .ok (e.update id now)
  | .error (.notFound _) => .ok (.create name id now)
  | .error e => .error e

/-- What a write intends when it has read a time and a folder: an entry to write and an answer, or
an error. -/
abbrev Intent (c : Call) := Instant → Folder → Result (Entry × c.Answer)

/-- A call that writes: what it intends is to write an entry and to answer something. -/
inductive Writes : (c : Call) → Intent c → Prop
  | put {name id : String} (hname : isValidName name = true) (hid : id ≠ "") :
    Writes (.put name id) fun now f =>
      (renewed now name id (readObject f name)).map fun e => (e, e)
  | putAuthorized {name id : String} (hname : isValidName name = true) (hid : id ≠ "")
    (token : Option String) :
    Writes (.putAuthorized name id token) fun now f =>
      (renewed now name id (readObject f name)).map fun e => (e, e)
  | putToken (name token : String) :
    Writes (.putToken name token) fun _ f => (readObject f name).map fun e => (e.bind token, ())
  | putTokenAuthorized (name token : String) (authorization : Option String) :
    Writes (.putTokenAuthorized name token authorization) fun _ f =>
      (readObject f name).map fun e => (e.bind token, ())

/-- Writes an entry as it is intended. -/
def enact (folder : Part σ Folder) : Result (Entry × α) → Timed σ (Result α)
  | .error e => return .error e
  | .ok (e, a) => do
    match ← writeObject folder e with
    | .error err => return .error err
    | .ok () => return .ok a

/-- The last step of a write: what was written beside takes its place. -/
def place (folder : Part σ Folder) (e : Entry) (a : α) : Timed σ (Result α) := do
  match ← Timed.update (folder.run (attempt (·.rename (tempName e.name) (objectName e.name)))) with
  | .error cause => return .error (.io cause)
  | .ok () => return .ok a

/-- An entry is written beside its place first. -/
theorem enact_ok (folder : Part σ Folder) (e : Entry) (a : α) :
    enact folder (.ok (e, a)) =
      Timed.update (folder.run (attempt (·.write (tempName e.name) (document e)))) >>= fun
        | .error cause => return .error (.io cause)
        | .ok () => place folder e a := by
  rw [enact, writeObject, Timed.bind_eq, Timed.bind_eq, Timed.bind_assoc, Timed.bind_eq]
  congr 1
  funext written
  cases written with
  | error cause => rfl
  | ok u =>
    show Timed.bind (Timed.bind _ _) _ = _
    rw [Timed.bind_assoc, place, Timed.bind_eq]
    congr 1
    funext moved
    cases moved <;> rfl

/-- A write of an id with a valid name reads the object, and enacts what is to stand in its place.
-/
theorem put_eq {name id : String} (hname : isValidName name = true) (hid : id ≠ "") :
    put clock folder name id =
      Timed.read (fun s => (renewed (clock s) name id (readObject (folder.get s) name)).map
        fun e => (e, e)) >>= enact folder := by
  unfold put
  simp only [hname, hid, Bool.not_true, Bool.false_eq_true, if_false]
  simp only [Timed.read, Timed.bind_eq, Timed.bind]
  congr 1
  funext s
  -- with what was read, both sides are the same computation
  cases hfound : readObject (folder.get s) name with
  | ok e => rfl
  | error err => cases err <;> rfl

/-- A write of a token reads the object, and enacts the entry with the token, if there is one. -/
theorem putToken_eq (name token : String) :
    putToken folder name token =
      Timed.read (fun s => (readObject (folder.get s) name).map
        fun e => (e.bind token, ())) >>= enact folder := by
  simp only [putToken, Timed.read, Timed.bind_eq, Timed.bind]
  congr 1
  funext s
  cases readObject (folder.get s) name with
  | error err => rfl
  | ok e =>
    -- what the write answers is answered as it is
    have hsame : (fun r : Result Unit => match r with
        | .error err => (return .error err : Timed σ (Result Unit))
        | .ok () => return .ok ()) = Timed.done := by
      funext r
      cases r <;> rfl
    show writeObject folder (e.bind token) = Timed.bind (writeObject folder (e.bind token)) _
    rw [hsame, Timed.bind_done]

/-- **Every write reads once and does then what it intends.** -/
theorem Writes.directory_eq {intend : Intent c} (h : Writes c intend) :
    directory clock folder c =
      Timed.read (fun s => intend (clock s) (folder.get s)) >>= enact folder := by
  cases h with
  | put hname hid | putAuthorized hname hid token => exact put_eq hname hid
  | putToken name token | putTokenAuthorized name token _ => exact putToken_eq name token

/-- What a call on a folder comes to. -/
inductive Plan (clock : σ → Instant) (folder : Part σ Folder) : Call → Prop where
  | writes {c : Call} {intend : Intent c} (h : Writes c intend) : Plan clock folder c
  | refused {c : Call} (e : Error) (h : directory clock folder c = return .error e) :
    Plan clock folder c
  | get (name : String) : Plan clock folder (.get name)
  | dump : Plan clock folder .dump

/-- **Every call comes to one of these.** -/
theorem directory_plan (clock : σ → Instant) (folder : Part σ Folder) (c : Call) :
    Plan clock folder c := by
  -- a write of an id is refused for its name or its id alone
  have hput (name id : String) : (isValidName name = true ∧ id ≠ "") ∨
      ∃ e, put clock folder name id = return .error e := by
    unfold put
    split
    · exact .inr ⟨_, rfl⟩
    · split
      · exact .inr ⟨_, rfl⟩
      · exact .inl ⟨by simp_all, by assumption⟩
  cases c with
  | get name => exact .get name
  | dump => exact .dump
  | put name id =>
    rcases hput name id with ⟨hname, hid⟩ | ⟨e, he⟩
    · exact .writes (.put hname hid)
    · exact .refused e he
  | putAuthorized name id token =>
    rcases hput name id with ⟨hname, hid⟩ | ⟨e, he⟩
    · exact .writes (.putAuthorized hname hid token)
    · exact .refused e he
  | putToken name token => exact .writes (.putToken name token)
  | putTokenAuthorized name token authorization =>
    exact .writes (.putTokenAuthorized name token authorization)

/-! ## A folder with a clock -/

/-- A folder with a clock. -/
structure Site where
  now : Instant
  folder : Folder

namespace Site

/-- The folder as a part of the site. -/
def part : Part Site Folder := ⟨Site.folder, fun f s => { s with folder := f }⟩

/-- The folder of a site can be set, and is what was set. -/
theorem lawful_part : part.Lawful := ⟨fun _ _ => rfl, fun _ => rfl, fun _ _ _ => rfl⟩

/-- The directory over the folder. -/
def directory : Directory Site := FolderStore.directory Site.now part

end Site

/-- What a folder answers, and is left, when an entry is written as it is intended and nobody else
does anything. -/
def settled (f : Folder) : Result (Entry × α) → Result α × Folder
  | .error e => (.error e, f)
  | .ok (e, a) =>
    match f.write (tempName e.name) (document e) with
    | .error cause => (.error (.io cause), f)
    | .ok beside =>
      match beside.rename (tempName e.name) (objectName e.name) with
      | .error cause => (.error (.io cause), beside)
      | .ok f' => (.ok a, f')

/-- An operation on the folder of a site answers and leaves what it says. -/
theorem Site.attempt_answers (s : Site) (op : Folder → Except OsError Folder) :
    (Timed.update (part.run (attempt op))).Answers s (attempt op s.folder).1
      { s with folder := (attempt op s.folder).2 } :=
  Timed.Answers.update _ s

/-- To enact what is intended answers and leaves what `settled` says. -/
theorem enact_answers (s : Site) (intent : Result (Entry × α)) :
    (enact Site.part intent).Answers s (settled s.folder intent).1
      { s with folder := (settled s.folder intent).2 } := by
  cases intent with
  | error e => exact .pure _ s
  | ok intent =>
    obtain ⟨e, a⟩ := intent
    rw [enact_ok, settled]
    have hwrite := s.attempt_answers (·.write (tempName e.name) (document e))
    cases hbeside : s.folder.write (tempName e.name) (document e) with
    | error cause =>
      simp only [attempt, hbeside] at hwrite
      exact hwrite.bind (.pure _ s)
    | ok beside =>
      simp only [attempt, hbeside] at hwrite
      refine hwrite.bind ?_
      have hmove := Site.attempt_answers { s with folder := beside }
        (·.rename (tempName e.name) (objectName e.name))
      dsimp only
      cases hplaced : beside.rename (tempName e.name) (objectName e.name) with
      | error cause =>
        simp only [attempt, hplaced] at hmove
        exact hmove.bind (.pure _ _)
      | ok f' =>
        simp only [attempt, hplaced] at hmove
        exact hmove.bind (.pure _ _)

/-- **A write answers** what comes of its intention. -/
theorem Writes.answers {intend : Intent c} (h : Writes c intend) (s : Site) :
    (Site.directory c).Answers s (settled s.folder (intend s.now s.folder)).1
      { s with folder := (settled s.folder (intend s.now s.folder)).2 } := by
  rw [Site.directory, h.directory_eq]
  exact (Timed.Answers.read _ s).bind (enact_answers s _)

/-- **Every call answers**, whatever the folder holds. -/
theorem Site.directory_answers (s : Site) (c : Call) :
    ∃ r s', (directory c).Answers s r s' := by
  cases directory_plan Site.now part c with
  | writes h => exact ⟨_, _, h.answers s⟩
  | refused e h =>
    rw [directory, h]
    exact ⟨_, _, .pure _ s⟩
  | get | dump => exact ⟨_, _, .read _ s⟩

end GatewayDirectory.FolderStore
