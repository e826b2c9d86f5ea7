import GatewayDirectory.Proofs.Directory.Serial

/-!
# Where a write is filed

A write looks for the document of its gateway under the file that the gateway's name gives, and
files the new document under the name that the document itself gives. Nothing compares the two. A
write that succeeds is therefore read back under the name of the document (`Filed`): under the name
that was asked for exactly when the document found there is about that gateway, and past the token
of another gateway otherwise (`readsBack_iff`).
-/

namespace GatewayDirectory.FolderStore

open Directory Storage

/-- The name that a write for `name` is filed under: that of the document found for `name`, and
`name` itself where none is found. -/
def filedUnder (f : Folder) (name : String) : String :=
  match readObject f name with
  | .ok e => e.name
  | .error _ => name

/-- A document that is found is written again under the name that it gives. -/
theorem filedUnder_of_ok {f : Folder} {name : String} {e : Entry} (h : readObject f name = .ok e) :
    filedUnder f name = e.name := by
  rw [filedUnder, h]

/-- Where no document is found, a write is filed under its own name. -/
theorem filedUnder_of_error {f : Folder} {name : String} {err : Error}
    (h : readObject f name = .error err) : filedUnder f name = name := by
  rw [filedUnder, h]

/-! ## Reading a site -/

namespace Site

variable {s s' : Site} {name : String}

/-- Reading an entry of a site answers with the object of its folder, and leaves the site. -/
theorem get_answers_iff {r : Result Entry} :
    (directory (.get name)).Answers s r s' ↔ r = readObject s.folder name ∧ s' = s := by
  have hread : (directory (.get name)).Answers s (readObject s.folder name) s := .read _ s
  constructor
  · intro h
    exact h.unique hread
  · rintro ⟨rfl, rfl⟩
    exact hread

/-- Two sites answer alike when the entry of `name` is read. -/
def ReadsAlike (s s' : Site) (name : String) : Prop :=
  ∀ r, (directory (.get name)).Answers s' r s' ↔ (directory (.get name)).Answers s r s

/-- Sites answer alike if the objects for the name are the same. -/
theorem readsAlike_iff :
    s.ReadsAlike s' name ↔ readObject s'.folder name = readObject s.folder name := by
  constructor
  · intro h
    exact (get_answers_iff.1 ((h _).1 (get_answers_iff.2 ⟨rfl, rfl⟩))).1
  · intro h r
    rw [get_answers_iff, get_answers_iff, h]
    simp

/-- The entry of `name` can be read and is one of which `shows` holds. -/
def Finds (s : Site) (name : String) (shows : Entry → Prop) : Prop :=
  ∃ e, (directory (.get name)).Answers s (.ok e) s ∧ shows e

/-- What an object shows is found when its entry is read. -/
theorem finds_of_readObject {shows : Entry → Prop} {e : Entry}
    (h : readObject s.folder name = .ok e) (hshows : shows e) : s.Finds name shows :=
  ⟨e, get_answers_iff.2 ⟨h.symm, rfl⟩, hshows⟩

/-- What was written for `name` is read back under that name, and all other names answer as they
did. -/
structure ReadsBack (s s' : Site) (name : String) (shows : Entry → Prop) : Prop where
  own : s'.Finds name shows
  frame : ∀ other, other ≠ name → s.ReadsAlike s' other

/-- The entry `e` was written for `name`: it is read under the name that the document found for
`name` gave, and all other names answer as they did. -/
structure Filed (s s' : Site) (name : String) (e : Entry) : Prop where
  name_eq : e.name = filedUnder s.folder name
  own : s'.Finds e.name (· = e)
  frame : ∀ other, other ≠ e.name → s.ReadsAlike s' other

/-- **When a write is read back.** What was filed is read back under the name that was asked for
exactly when the document found there was about that gateway, or when nothing that is read has
changed and already showed what was written. -/
theorem Filed.readsBack_iff {e : Entry} {shows : Entry → Prop} (h : s.Filed s' name e)
    (hshows : shows e) :
    s.ReadsBack s' name shows ↔ filedUnder s.folder name = name ∨
      s.Finds name shows ∧ ∀ other, s.ReadsAlike s' other := by
  by_cases hname : filedUnder s.folder name = name
  · -- the entry is filed under the name that was asked for
    have heq : e.name = name := h.name_eq.trans hname
    obtain ⟨e', hget, he'⟩ := h.own
    refine ⟨fun _ => .inl hname, fun _ => ⟨?_, ?_⟩⟩
    · rw [← heq]
      exact ⟨e', hget, he' ▸ hshows⟩
    · rw [← heq]
      exact h.frame
  · have hne : name ≠ e.name := fun heq => hname (h.name_eq.symm.trans heq.symm)
    have hsame : s.ReadsAlike s' name := h.frame name hne
    constructor
    · -- the entry of the other gateway must not have changed either
      intro hback
      obtain ⟨e', hget, he'⟩ := hback.own
      refine .inr ⟨⟨e', (hsame _).1 hget, he'⟩, fun other => ?_⟩
      by_cases hother : other = name
      · rw [hother]
        exact hsame
      · exact hback.frame other hother
    · rintro (heq | ⟨⟨e', hget, he'⟩, halike⟩)
      · exact absurd heq hname
      · exact ⟨⟨e', (hsame _).2 hget, he'⟩, fun other _ => halike other⟩

end Site

/-! ## Writes -/

section Writes

variable {α : Type} {s : Site} {name : String}

/-- A write that succeeds files the entry that it intends, if that has the name of the document that
was found and an instant that can be dated. -/
theorem filed_of_settled {intent : Result (Entry × α)} {a : α} {shows : Entry → Prop}
    (h : (settled s.folder intent).1 = .ok a)
    (hintent : ∀ e, intent = .ok (e, a) →
      e.name = filedUnder s.folder name ∧ e.lastUpdate.Datable ∧ shows e) :
    ∃ e, shows e ∧ s.Filed { s with folder := (settled s.folder intent).2 } name e := by
  obtain ⟨e, he, hread⟩ := readObject_settled h
  obtain ⟨hname, hdatable, hshows⟩ := hintent e he
  refine ⟨e, hshows, hname, ?_, fun other hother => ?_⟩
  · refine Site.finds_of_readObject ?_ rfl
    rw [hread hdatable, if_pos rfl]
  · rw [Site.readsAlike_iff, hread hdatable, if_neg hother.symm]

/-- What a write of an id makes of the object that it found. -/
theorem of_renewed_eq_ok {now : Instant} {id : String} {f : Folder} {e : Entry}
    (h : renewed now name id (readObject f name) = .ok e) :
    e.id = id ∧ e.lastUpdate = now ∧ e.name = filedUnder f name := by
  cases hfound : readObject f name with
  | ok d =>
    rw [hfound] at h
    obtain rfl := Except.ok.inj h
    exact ⟨rfl, rfl, (filedUnder_of_ok hfound).symm⟩
  | error err =>
    rw [hfound] at h
    cases err with
    | notFound missing =>
      obtain rfl := Except.ok.inj h
      exact ⟨rfl, rfl, (filedUnder_of_error hfound).symm⟩
    | _ => cases h

/-- **Where an id is filed.** A write of an id answers; and if it succeeds with an entry, that entry
has the id and is filed under the name of the document that was found. -/
theorem put_filed (s : Site) (hnow : s.now.Datable) (name id : String) :
    ∃ r s', (Site.directory (.put name id)).Answers s r s' ∧
      ∀ e, r = .ok e → e.id = id ∧ s.Filed s' name e := by
  cases directory_plan Site.now Site.part (.put name id) with
  | refused err h =>
    refine ⟨.error err, s, ?_, fun e he => by cases he⟩
    rw [Site.directory, h]
    exact .pure _ s
  | writes h =>
    refine ⟨_, _, h.answers s, fun e he => ?_⟩
    cases h with
    | put hname hid =>
      -- the entry that is written is the one that is answered
      have hsame : ∀ x, (renewed s.now name id (readObject s.folder name)).map (fun y => (y, y)) =
          .ok (x, e) → x.name = filedUnder s.folder name ∧ x.lastUpdate.Datable ∧
            x = e ∧ x.id = id := by
        intro x hx
        obtain ⟨y, hrenewed, heq⟩ := eq_ok_of_map hx
        obtain ⟨rfl, rfl⟩ := Prod.mk.inj heq
        obtain ⟨hid, hupdate, hname⟩ := of_renewed_eq_ok hrenewed
        exact ⟨hname, hupdate ▸ hnow, rfl, hid⟩
      obtain ⟨x, ⟨rfl, hid⟩, hfiled⟩ := filed_of_settled he hsame
      exact ⟨hid, hfiled⟩

/-- **Where a token is filed.** A write of a token answers; and if it succeeds, the entry of the
document that was found is filed with the token, under the name that the document gives. -/
theorem putToken_filed (s : Site) (name token : String) :
    ∃ r s', (Site.directory (.putToken name token)).Answers s r s' ∧
      (r = .ok () → ∃ e, e.token = some token ∧ s.Filed s' name e) := by
  refine ⟨_, _, (Writes.putToken name token).answers s, fun hok => filed_of_settled hok ?_⟩
  intro e he
  obtain ⟨d, hfound, heq⟩ := eq_ok_of_map he
  obtain ⟨rfl, -⟩ := Prod.mk.inj heq
  have hdatable : d.lastUpdate.Datable := datable_of_readObject hfound
  exact ⟨(filedUnder_of_ok hfound).symm, hdatable, rfl⟩

end Writes

/-- **A write is read back where its document says.** For any folder, name, id and token: a write of
an id, or of a token, answers; and if it succeeds, an entry with that id, or that token, is read
under the name that the document found for `name` gave (`name` itself where there was none), while
every other name answers as it did. So it is read back under `name`, with no other name changed,
exactly when that document was about `name`, or when nothing that is read has changed at all. -/
theorem write_read_back_iff (s : Site) (hnow : s.now.Datable) (name id token : String) :
    (∃ r s', (Site.directory (.put name id)).Answers s r s' ∧ ∀ e, r = .ok e →
      e.id = id ∧ s.Filed s' name e ∧
      (s.ReadsBack s' name (·.id = id) ↔ filedUnder s.folder name = name ∨
        s.Finds name (·.id = id) ∧ ∀ other, s.ReadsAlike s' other)) ∧
    ∃ r s', (Site.directory (.putToken name token)).Answers s r s' ∧ (r = .ok () →
      (∃ e, e.token = some token ∧ s.Filed s' name e) ∧
      (s.ReadsBack s' name (·.token = some token) ↔ filedUnder s.folder name = name ∨
        s.Finds name (·.token = some token) ∧ ∀ other, s.ReadsAlike s' other)) := by
  constructor
  · obtain ⟨r, s', hanswer, hfiled⟩ := put_filed s hnow name id
    refine ⟨r, s', hanswer, fun e he => ?_⟩
    obtain ⟨hid, hfiled⟩ := hfiled e he
    exact ⟨hid, hfiled, hfiled.readsBack_iff hid⟩
  · obtain ⟨r, s', hanswer, hfiled⟩ := putToken_filed s name token
    refine ⟨r, s', hanswer, fun hr => ?_⟩
    obtain ⟨e, htoken, hfiled⟩ := hfiled hr
    exact ⟨⟨e, htoken, hfiled⟩, hfiled.readsBack_iff htoken⟩

/-- The document found for `a` is about `b`, which has a token. A write of an id for `a` succeeds
and changes the entry of `b`, without its token being asked for, while `a` answers as before. -/
theorem write_lands_on_other :
    let time : Instant := ⟨1704164645, 0⟩
    let e : Entry := ⟨"b", "id1", 1, time, some "t1"⟩
    let s : Site := ⟨time, Table.ofList [("a.json", .file (document e))]⟩
    time.Datable ∧ ∃ s',
      (Site.directory (.put "a" "id2")).Answers s (.ok (e.update "id2" time)) s' ∧
      s'.Finds "b" (· = e.update "id2" time) ∧ s.ReadsAlike s' "a" ∧
      ¬ s.ReadsBack s' "a" (·.id = "id2") := by
  intro time e s
  have htime : time.Datable := ⟨by decide, by decide, by decide⟩
  have hname : objectName "a" = "a.json" ∧ objectName "b" = "b.json" ∧
      tempName "b" = "b.json.tmp" := by decide +kernel
  have hshort : isTooLong "a.json" = false ∧ isTooLong "b.json" = false ∧
      isTooLong "b.json.tmp" = false := by decide +kernel
  have hfound : readObject s.folder "a" = .ok e := by
    have hread : Folder.read s.folder "a.json" = .ok (document e) := by
      simp [Folder.read, hshort, isDots, s, Table.ofList]
    rw [readObject, hname.1, hread]
    exact readDocument_document htime
  have hbeside (content : ByteArray) : Folder.write s.folder "b.json.tmp" content =
      .ok (s.folder.insert "b.json.tmp" (.file content)) := by
    simp [Folder.write, hshort, isDots, s, Table.ofList, Table.get?_insert]
  have hplaced (content : ByteArray) :
      ∃ f', Folder.rename (s.folder.insert "b.json.tmp" (.file content)) "b.json.tmp" "b.json" =
        .ok f' := by
    simp [Folder.rename, hshort, s, Table.ofList, Table.get?_insert]
  have hwrites : Writes (.put "a" "id2") _ := .put (by decide) (by decide)
  have hanswer := hwrites.answers s
  obtain ⟨f', hmoved⟩ := hplaced (document (e.update "id2" time))
  simp only [hfound, renewed, Except.map, settled, Entry.update, e, hname, hbeside]
    at hanswer hmoved
  rw [hmoved] at hanswer
  obtain ⟨r, s', hanswer', hput⟩ := (write_read_back_iff s htime "a" "id2" "t2").1
  obtain ⟨rfl, -⟩ := hanswer'.unique hanswer
  obtain ⟨-, hfiled, hback⟩ := hput _ rfl
  refine ⟨htime, s', hanswer', hfiled.own, hfiled.frame "a" (by decide), fun h => ?_⟩
  rcases hback.1 h with heq | ⟨⟨d, hget, hid⟩, -⟩
  · rw [filedUnder_of_ok hfound] at heq
    exact absurd heq (by decide)
  · rw [(Site.get_answers_iff.1 hget).1.symm] at hfound
    obtain rfl := Except.ok.inj hfound
    exact absurd hid (by decide)

end GatewayDirectory.FolderStore
