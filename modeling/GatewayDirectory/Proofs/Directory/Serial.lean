import GatewayDirectory.Proofs.Directory.History
import GatewayDirectory.Proofs.Directory.Objects

/-!
# Calls on a folder one after the other

`Serial f order g` says that the calls of `order`, made one after the other on the folder `f`, have
their results and leave the folder `g`. In a folder whose documents are each about their own gateway
(`Orderly`), such calls lose no write: the counter of a gateway grows by one with every write of an
id that succeeds, its id and its token are the last ones that were written, and what is read is the
old document or a whole new one (`Serial.follows`).
-/

namespace GatewayDirectory.FolderStore

open Directory Storage

/-! ## What a write that succeeds leaves -/

section Settled

variable {α : Type} {f f' : Folder} {intent : Result (Entry × α)}

/-- A file that is moved is taken away and put at a name that is not too long. -/
theorem eq_of_rename {source target : String} (h : Folder.rename f source target = .ok f') :
    isTooLong target = false ∧
      ∃ node, f.get? source = some node ∧ f' = (f.erase source).insert target node := by
  unfold Folder.rename at h
  split at h
  · cases h
  · rename_i hlong
    split at h
    · cases h
    · rename_i node hnode
      split at h
      · cases h
      · simp only [Bool.or_eq_true, not_or, Bool.not_eq_true] at hlong
        exact ⟨hlong.2, node, hnode, (Except.ok.inj h).symm⟩

/-- A write that fails leaves the objects. -/
theorem objects_settled_of_error {e : Error} (h : (settled f intent).1 = .error e) :
    objects (settled f intent).2 = objects f := by
  unfold settled at h ⊢
  split
  · rfl
  · split
    · rfl
    · rename_i beside hbeside
      split
      · exact objects_write hbeside
      · simp_all

/-- **A write that succeeds leaves the document in its place**, and all other objects. -/
theorem settled_of_ok {a : α} (h : (settled f intent).1 = .ok a) :
    ∃ e, intent = .ok (e, a) ∧ isTooLong (objectName e.name) = false ∧
      ∀ fileName, isObject fileName = true → (settled f intent).2.get? fileName =
        if objectName e.name = fileName then some (.file (document e)) else f.get? fileName := by
  unfold settled at h ⊢
  split at h
  · cases h
  · rename_i e b
    split at h
    · cases h
    · rename_i beside hbeside
      split at h
      · cases h
      · rename_i placed hplaced
        obtain rfl := Except.ok.inj h
        obtain ⟨hshort, node, hnode, rfl⟩ := eq_of_rename hplaced
        rw [eq_of_write hbeside, Table.get?_insert_self] at hnode
        obtain rfl := Option.some.inj hnode
        refine ⟨e, rfl, hshort, fun fileName hobject => ?_⟩
        have hne : tempName e.name ≠ fileName := by
          rintro rfl
          rw [isObject_tempName] at hobject
          cases hobject
        simp only [eq_of_write hbeside, Table.get?_insert, Table.get?_erase, if_neg hne]

/-- The entry that was written is read back, and every other gateway has the object that it had. -/
theorem readObject_settled {a : α} (h : (settled f intent).1 = .ok a) :
    ∃ e, intent = .ok (e, a) ∧ (e.lastUpdate.Datable → ∀ name,
      readObject (settled f intent).2 name =
        if e.name = name then .ok e else readObject f name) := by
  obtain ⟨e, hintent, hshort, hget⟩ := settled_of_ok h
  refine ⟨e, hintent, fun hdatable name => ?_⟩
  have hname := hget (objectName name) (isObject_objectName name)
  split
  · rename_i heq
    subst heq
    rw [if_pos rfl] at hname
    have hread : Folder.read (settled f intent).2 (objectName e.name) = .ok (document e) := by
      simp [Folder.read, hshort, isDots_objectName, hname]
    simp only [readObject, hread, readDocument_document hdatable]
  · rename_i hne
    rw [if_neg (mt objectName_inj.1 hne)] at hname
    simp only [readObject, Folder.read, hname]

end Settled

/-! ## What a gateway's object tells -/

/-- The number of writes that an object shows. -/
def counterOf : Result Entry → UInt64
  | .ok e => e.counter
  | .error _ => 0

/-- The time and the id of the last write of an id that an object shows. -/
def writtenOf : Result Entry → Option (Instant × String)
  | .ok e => some (e.lastUpdate, e.id)
  | .error _ => none

/-- The token that an object shows. -/
def tokenOf : Result Entry → Option String
  | .ok e => e.token
  | .error _ => none

/-- How the object of a gateway follows from the one before and from the calls that succeeded in
between. -/
structure Follows (name : String) (done : History) (before after : Result Entry) : Prop where
  counter : counterOf after = counterOf before + UInt64.ofNat (idWrites name done).length
  written : writtenOf after = (idWrites name done).getLast?.or (writtenOf before)
  token : tokenOf after = (tokenWrites name done).getLast?.or (tokenOf before)
  /-- No other document is ever read than the first one and whole new ones. -/
  whole : after = before ∨ ∃ e, after = .ok e

namespace Follows

variable {name : String} {done more : History} {r r₁ r₂ : Result Entry}

/-- Calls that are no writes for the gateway leave its object. -/
theorem of_eq (hid : idWrites name done = []) (htoken : tokenWrites name done = []) (h : r₁ = r) :
    Follows name done r r₁ := by
  subst h
  refine ⟨?_, ?_, ?_, .inl rfl⟩
  · simp [hid]
  · simp [hid]
  · simp [htoken]

/-- What follows from what follows adds up the calls of both. -/
theorem trans (h₁ : Follows name done r r₁) (h₂ : Follows name more r₁ r₂) :
    Follows name (done ++ more) r r₂ := by
  refine ⟨?_, ?_, ?_, ?_⟩
  · rw [h₂.counter, h₁.counter, idWrites_append, List.length_append, UInt64.ofNat_add]
    exact UInt64.add_assoc _ _ _
  · rw [h₂.written, h₁.written, idWrites_append, List.getLast?_append, Option.or_assoc]
  · rw [h₂.token, h₁.token, tokenWrites_append, List.getLast?_append, Option.or_assoc]
  · rcases h₂.whole with h | h
    · rw [h]
      exact h₁.whole
    · exact .inr h

end Follows

/-! ## One call after the other -/

/-- A call that was served: its number among the calls, the time that it took from the clock, and
its result. -/
structure Served where
  number : Nat
  call : Call
  now : Instant
  result : Result call.Answer

/-- The calls that succeeded. -/
def succeeded (order : List Served) : History :=
  order.filterMap fun v => if v.result.isOk then some (v.now, v.call) else none

/-- The calls, made one after the other on the folder, have their results and leave a folder. -/
def Serial (f : Folder) : List Served → Folder → Prop
  | [], g => g = f
  | v :: rest, g =>
    ∃ f', (Site.directory v.call).Answers ⟨v.now, f⟩ v.result ⟨v.now, f'⟩ ∧ Serial f' rest g

/-- Calls and later calls in order meet in the folder between them. -/
theorem serial_append {order rest : List Served} {f g : Folder} :
    Serial f (order ++ rest) g ↔ ∃ f', Serial f order f' ∧ Serial f' rest g := by
  induction order generalizing f with
  | nil => simp [Serial]
  | cons v order ih =>
    simp only [List.cons_append, Serial, ih]
    constructor
    · rintro ⟨f₁, hanswer, f₂, h₁, h₂⟩
      exact ⟨f₂, ⟨f₁, hanswer, h₁⟩, h₂⟩
    · rintro ⟨f₂, ⟨f₁, hanswer, h₁⟩, h₂⟩
      exact ⟨f₁, hanswer, f₂, h₁, h₂⟩

/-- Every document that a gateway is read from is about that gateway and has a time that can be
written again. -/
def Orderly (f : Folder) : Prop :=
  ∀ name e, readObject f name = .ok e → e.name = name ∧ e.lastUpdate.Datable

/-- A folder without documents is orderly. -/
theorem orderly_empty : Orderly .empty := by
  intro name e h
  have hread (content : ByteArray) : Folder.read .empty (objectName name) ≠ .ok content := by
    unfold Folder.read
    split
    · simp
    · split <;> simp
  unfold readObject at h
  split at h
  · rename_i content hcontent
    exact absurd hcontent (hread content)
  all_goals cases h

/-- An entry that a call is to write follows from the object in whose place it comes, and the call
is a write for no other gateway. -/
structure Extends (f : Folder) (now : Instant) (c : Call) (e : Entry) : Prop where
  datable : e.lastUpdate.Datable
  follows : Follows e.name [(now, c)] (readObject f e.name) (.ok e)
  others : ∀ other, e.name ≠ other →
    idWrites other [(now, c)] = [] ∧ tokenWrites other [(now, c)] = []

namespace Extends

variable {f : Folder} {now : Instant} {name id token : String} {c : Call} {e : Entry}

/-- An entry that is written for an id follows from the object in whose place it comes, whether
there was one or not. -/
theorem of_renewed (hf : Orderly f) (hnow : now.Datable)
    (h : renewed now name id (readObject f name) = .ok e)
    (hid : ∀ other, idWrites other [(now, c)] = if name = other then [(now, id)] else [])
    (htoken : ∀ other, tokenWrites other [(now, c)] = []) : Extends f now c e := by
  have hwrites : idWrites name [(now, c)] = [(now, id)] := by rw [hid, if_pos rfl]
  have hothers (other : String) (hne : name ≠ other) :
      idWrites other [(now, c)] = [] ∧ tokenWrites other [(now, c)] = [] :=
    ⟨by rw [hid, if_neg hne], htoken other⟩
  -- an object that is there is updated, a missing one created; any other failure ends the write
  cases hfound : readObject f name with
  | ok found =>
    rw [hfound] at h
    obtain rfl := Except.ok.inj h
    obtain rfl := (hf name found hfound).1
    refine ⟨hnow, ⟨?_, ?_, ?_, .inr ⟨_, rfl⟩⟩, hothers⟩
    all_goals simp only [Entry.update, hfound, hwrites, htoken]
    all_goals rfl
  | error cause =>
    rw [hfound] at h
    -- only an object that is not found is created anew
    cases cause with
    | notFound missing =>
      obtain rfl := Except.ok.inj h
      refine ⟨hnow, ⟨?_, ?_, ?_, .inr ⟨_, rfl⟩⟩, hothers⟩
      all_goals simp only [Entry.create, hfound, hwrites, htoken]
      all_goals rfl
    | _ => cases h

/-- An entry that a token is bound to keeps its id, its time and its counter. -/
theorem of_bind (hf : Orderly f) {found : Entry} (hfound : readObject f name = .ok found)
    (hid : ∀ other, idWrites other [(now, c)] = [])
    (htoken : ∀ other, tokenWrites other [(now, c)] = if name = other then [token] else []) :
    Extends f now c (found.bind token) := by
  obtain ⟨rfl, hdatable⟩ := hf name found hfound
  have hwrites : tokenWrites found.name [(now, c)] = [token] := by rw [htoken, if_pos rfl]
  refine ⟨hdatable, ⟨?_, ?_, ?_, .inr ⟨_, rfl⟩⟩, fun other hne => ⟨hid other, ?_⟩⟩
  · simp [Entry.bind, hfound, hid, counterOf]
  · simp only [Entry.bind, hfound, hid]
    rfl
  · simp only [Entry.bind, hfound, hwrites]
    rfl
  · rw [htoken]
    exact if_neg hne

end Extends

/-- What is made of a result succeeds if the result does. -/
theorem eq_ok_of_map {α β : Type} {x : Result α} {g : α → β} {b : β} (h : x.map g = .ok b) :
    ∃ a, x = .ok a ∧ g a = b := by
  cases x with
  | error e => cases h
  | ok a => exact ⟨a, rfl, Except.ok.inj h⟩

/-- **What a write intends extends the object that it found.** -/
theorem Writes.extends {c : Call} {intend : Intent c} (hc : Writes c intend) {f : Folder}
    (hf : Orderly f) {now : Instant} (hnow : now.Datable) {e : Entry} {a : c.Answer}
    (hintent : intend now f = .ok (e, a)) : Extends f now c e := by
  cases hc with
  | @put name id hname hid | @putAuthorized name id hname hid token =>
    obtain ⟨e, hrenewed, heq⟩ := eq_ok_of_map hintent
    cases heq
    refine .of_renewed hf hnow hrenewed (fun other => ?_) fun _ => rfl
    simp only [idWrites, List.filterMap_cons, List.filterMap_nil]
    split <;> simp_all
  | putToken name token | putTokenAuthorized name token authorization =>
    obtain ⟨found, hfound, heq⟩ := eq_ok_of_map hintent
    cases heq
    refine .of_bind hf hfound (fun _ => rfl) fun other => ?_
    simp only [tokenWrites, List.filterMap_cons, List.filterMap_nil]
    split <;> simp_all

/-- **One call** keeps a folder orderly, and every object follows from what it was. -/
theorem Orderly.step {s s' : Site} {c : Call} {r : Result c.Answer} (hf : Orderly s.folder)
    (hnow : s.now.Datable) (h : (Site.directory c).Answers s r s') (number : Nat) :
    Orderly s'.folder ∧ ∀ name, Follows name (succeeded [⟨number, c, s.now, r⟩])
      (readObject s.folder name) (readObject s'.folder name) := by
  -- a call that changes no object and is no write that succeeded
  have hkeep (hobjects : objects s'.folder = objects s.folder)
      (hdone : ∀ name, idWrites name (succeeded [⟨number, c, s.now, r⟩]) = [] ∧
        tokenWrites name (succeeded [⟨number, c, s.now, r⟩]) = []) :
      Orderly s'.folder ∧ ∀ name, Follows name (succeeded [⟨number, c, s.now, r⟩])
        (readObject s.folder name) (readObject s'.folder name) := by
    have hsame := readObject_congr hobjects
    refine ⟨fun name e he => hf name e (by rw [← hsame, he]), fun name => ?_⟩
    exact .of_eq (hdone name).1 (hdone name).2 (hsame name)
  cases directory_plan Site.now Site.part c with
  | writes hc =>
    obtain ⟨hr, hs'⟩ := h.unique (hc.answers s)
    subst hs'
    cases r with
    | error e => exact hkeep (objects_settled_of_error hr.symm) fun _ => ⟨rfl, rfl⟩
    | ok a =>
      obtain ⟨e, hintent, hread⟩ := readObject_settled hr.symm
      obtain ⟨hdatable, hfollows, hothers⟩ := hc.extends hf hnow hintent
      have hread := hread hdatable
      refine ⟨fun name e' he' => ?_, fun name => ?_⟩
      · rw [hread] at he'
        split at he'
        · rename_i hname
          obtain rfl := Except.ok.inj he'
          exact ⟨hname, hdatable⟩
        · exact hf name e' he'
      · rw [hread]
        split
        · rename_i hname
          subst hname
          exact hfollows
        · rename_i hname
          exact .of_eq (hothers name hname).1 (hothers name hname).2 rfl
  | refused e he =>
    rw [Site.directory, he] at h
    obtain ⟨rfl, rfl⟩ := h.unique (.pure _ s)
    exact hkeep rfl fun _ => ⟨rfl, rfl⟩
  | get | dump =>
    obtain ⟨-, rfl⟩ := h.unique (.read _ s)
    refine hkeep rfl fun name => ?_
    cases r <;> exact ⟨rfl, rfl⟩

/-- **Calls one after the other lose no write.** -/
theorem Serial.follows {f g : Folder} {order : List Served} (hf : Orderly f)
    (hnow : ∀ v ∈ order, v.now.Datable) (h : Serial f order g) :
    Orderly g ∧ ∀ name, Follows name (succeeded order) (readObject f name) (readObject g name) := by
  -- the first call leads to an orderly folder, from which the others follow
  induction order generalizing f with
  | nil =>
    obtain rfl := h
    exact ⟨hf, fun name => .of_eq rfl rfl rfl⟩
  | cons v rest ih =>
    obtain ⟨f', hanswer, hrest⟩ := h
    obtain ⟨hv, hnow⟩ := List.forall_mem_cons.1 hnow
    obtain ⟨hf', hfirst⟩ := hf.step (s := ⟨v.now, f⟩) hv hanswer v.number
    obtain ⟨hg, hfollows⟩ := ih hf' hnow hrest
    refine ⟨hg, fun name => ?_⟩
    have hall := (hfirst name).trans (hfollows name)
    rwa [succeeded, succeeded, ← List.filterMap_append] at hall

/-- No write is lost in calls that are served in order: the object of every gateway follows from the
first one and from the calls that succeeded, and what is read for a gateway is what a folder between
two calls has for it, either the first document or a whole one that is about the gateway. -/
structure KeepsWrites (f : Folder) (order : List Served) (g : Folder) : Prop where
  follows : ∀ name, Follows name (succeeded order) (readObject f name) (readObject g name)
  reads : ∀ earlier later number name now r,
    order = earlier ++ ⟨number, .get name, now, r⟩ :: later →
      ∃ f', Serial f earlier f' ∧ r = readObject f' name ∧
        (r = readObject f name ∨ ∃ e, r = .ok e ∧ e.name = name)

/-- **Calls one after the other keep every write.** -/
theorem Serial.keepsWrites {f g : Folder} {order : List Served} (hf : Orderly f)
    (hnow : ∀ v ∈ order, v.now.Datable) (h : Serial f order g) : KeepsWrites f order g := by
  refine ⟨(h.follows hf hnow).2, fun earlier later number name now r horder => ?_⟩
  subst horder
  obtain ⟨f', hearlier, f'', hanswer, -⟩ := serial_append.1 h
  obtain ⟨hf', hfollows⟩ := hearlier.follows hf fun v hv => hnow v (List.mem_append_left _ hv)
  have hr : r = readObject f' name := (hanswer.unique (.read _ _)).1
  subst hr
  refine ⟨f', hearlier, rfl, ?_⟩
  -- the document is the first one, or a whole one, and then about its own gateway
  rcases (hfollows name).whole with hsame | ⟨e, he⟩
  · exact .inl hsame
  · exact .inr ⟨e, he, (hf' name e he).1⟩

end GatewayDirectory.FolderStore
