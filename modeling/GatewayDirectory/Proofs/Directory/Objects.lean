import GatewayDirectory.Proofs.Directory.Calls
import GatewayDirectory.Proofs.Directory.Documents
import GatewayDirectory.Proofs.Timed.Commits

/-!
# The objects of a folder

The objects of a folder are what it holds under names that end as those of documents do. Reading
one, and listing all, depends on nothing else in the folder (`readObject_congr`, `dump_congr`), and
the second file of a write is never an object (`isObject_tempName`). So the only step of a write
that changes an object is the one with which it succeeds, and a call that fails leaves every object
as it was, whatever the folder holds (`objects_of_failed`). The folder may be changed under way, as
long as no object is: a second file may be left from before, be cut short, or be gone when it is to
take its place.
-/

namespace GatewayDirectory

/-- What is looked up among what is kept of a table. -/
theorem Table.get?_filter_key {α : Type} (t : Table α) (keep : String → Bool) (key : String) :
    (t.filter fun k _ => keep k).get? key = if keep key then t.get? key else none := by
  refine Option.ext fun value => ?_
  rw [Table.get?_filter_eq_some_iff]
  split <;> simp_all

namespace FolderStore

open Directory Storage

/-! ## What counts as an object -/

/-- The part of a folder that is read as documents. -/
def objects (f : Folder) : Folder := f.filter fun fileName _ => isObject fileName

variable {f f' : Folder}

/-- Among the objects of a folder, a file is found that has the name of an object. -/
theorem get?_objects (f : Folder) (fileName : String) :
    (objects f).get? fileName = if isObject fileName then f.get? fileName else none :=
  Table.get?_filter_key f isObject fileName

/-- Two folders have the same objects if they hold the same under every name of an object. -/
theorem objects_eq_iff :
    objects f = objects f' ↔
      ∀ fileName, isObject fileName = true → f.get? fileName = f'.get? fileName := by
  constructor
  · intro h fileName hobject
    have hsame := congrArg (Table.get? · fileName) h
    simpa only [get?_objects, hobject, if_true] using hsame
  · intro h
    refine Table.ext_get? fun fileName => ?_
    rw [get?_objects, get?_objects]
    split
    · rename_i hobject
      exact h fileName hobject
    · rfl

/-- An object is read from the objects alone. -/
theorem read_congr (h : objects f = objects f') {fileName : String}
    (hobject : isObject fileName = true) : Folder.read f fileName = Folder.read f' fileName := by
  rw [Folder.read, Folder.read, objects_eq_iff.1 h fileName hobject]

/-- **The entry of a gateway is read from the objects.** -/
theorem readObject_congr (h : objects f = objects f') (name : String) :
    readObject f name = readObject f' name := by
  rw [readObject, readObject, read_congr h (isObject_objectName name)]

/-- Objects that are read one after the other are read from the objects alone. -/
theorem readAll_congr (h : objects f = objects f') {fileNames : List String}
    (hobjects : ∀ fileName ∈ fileNames, isObject fileName = true) :
    readAll f fileNames = readAll f' fileNames := by
  induction fileNames with
  | nil => rfl
  | cons fileName rest ih =>
    obtain ⟨hobject, hrest⟩ := List.forall_mem_cons.1 hobjects
    rw [readAll, readAll, read_congr h hobject, ih hrest]

/-- The names of the objects are those among the names of all files. -/
theorem keys_objects (f : Folder) : (objects f).keys = f.keys.filter isObject := by
  simp only [objects, Table.keys, Table.filter, List.filter_map]
  rfl

/-- **The list of all entries is read from the objects.** -/
theorem dump_congr (h : objects f = objects f') : dump f = dump f' := by
  have hkeys : f.keys.filter isObject = f'.keys.filter isObject := by
    rw [← keys_objects, ← keys_objects, h]
  rw [dump, dump, hkeys, readAll_congr h fun fileName hmem => (List.mem_filter.1 hmem).2]

/-! ## What a write leaves alone -/

/-- The name of an object ends as the suffix does. -/
theorem getLast?_of_isObject {fileName : String} (h : isObject fileName = true) :
    fileName.toList.getLast? = some 'n' := by
  obtain ⟨stem, hstem⟩ := List.isSuffixOf_iff_suffix.1 h
  rw [← hstem]
  simp [objectSuffix]

/-- **The second file of a write is no object**, whatever name the document gives. -/
theorem isObject_tempName (name : String) : isObject (tempName name) = false := by
  by_cases hdot : name = "."
  · -- the second file of a lone dot would be the folder around, which is no object either
    subst hdot
    decide
  · rw [Bool.eq_false_iff]
    intro hobject
    have hlast := getLast?_of_isObject hobject
    rw [getLast?_tempName hdot] at hlast
    cases hlast

/-- A file that is written is in the folder, and nothing else is changed. -/
theorem eq_of_write {name : String} {content : ByteArray}
    (h : Folder.write f name content = .ok f') : f' = f.insert name (.file content) := by
  unfold Folder.write at h
  split at h
  · cases h
  · split at h
    · cases h
    · split at h
      · cases h
      · exact (Except.ok.inj h).symm

/-- What stands under a name that no object has changes no object. -/
theorem objects_insert {key : String} (hkey : isObject key = false) (f : Folder) (node : Node) :
    objects (Table.insert f key node) = objects f := by
  rw [objects_eq_iff]
  intro fileName hobject
  have hne : key ≠ fileName := by
    rintro rfl
    rw [hkey] at hobject
    cases hobject
  rw [Table.get?_insert, if_neg hne]

/-- To write the second file changes no object. -/
theorem objects_write {name : String} {content : ByteArray}
    (h : Folder.write f (tempName name) content = .ok f') : objects f' = objects f := by
  rw [eq_of_write h]
  exact objects_insert (isObject_tempName name) f _

/-- An operation that fails leaves the folder. -/
theorem attempt_cases (op : Folder → Except OsError Folder) (f : Folder) :
    (∃ cause, op f = .error cause ∧ attempt op f = (.error cause, f)) ∨
      ∃ f', op f = .ok f' ∧ attempt op f = (.ok (), f') := by
  unfold attempt
  cases h : op f with
  | error cause => exact .inl ⟨cause, rfl, rfl⟩
  | ok f' => exact .inr ⟨f', rfl, rfl⟩

section Calls

variable {σ α : Type} {folder : Part σ Folder}

/-- The objects of the folder that is part of a state. -/
def shown (folder : Part σ Folder) (s : σ) : Folder := objects (folder.get s)

/-- An operation on the folder that may change objects only if the computation succeeds with it. -/
theorem attempt_commits (hfolder : folder.Lawful) {op : Folder → Except OsError Folder}
    {next : Except OsError Unit → Timed σ (Result α)}
    (herror : ∀ cause, Timed.Commits (shown folder) (next (.error cause)))
    (hok : (∀ f f', op f = .ok f' → objects f' = objects f) ∧
        Timed.Commits (shown folder) (next (.ok ())) ∨ ∃ a, next (.ok ()) = .done (.ok a)) :
    Timed.Commits (shown folder) (Timed.update (folder.run (attempt op)) >>= next) := by
  intro s
  -- the first turn is the operation; what is left is what comes next
  show (shown folder (folder.run (attempt op) s).2 = shown folder s ∧
    Timed.Commits (shown folder) (next (folder.run (attempt op) s).1)) ∨
      ∃ a, next (folder.run (attempt op) s).1 = .done (.ok a)
  rcases attempt_cases op (folder.get s) with ⟨cause, -, hattempt⟩ | ⟨f', hop, hattempt⟩
  · -- the folder is set to what it is
    simp only [Part.run, hattempt, hfolder.set_get]
    exact .inl ⟨trivial, herror cause⟩
  · simp only [Part.run, hattempt]
    rcases hok with ⟨hsame, hnext⟩ | hdone
    · refine .inl ⟨?_, hnext⟩
      rw [shown, shown, hfolder.get_set, hsame _ _ hop]
    · exact .inr hdone

/-- What is intended for an object changes objects only with the step with which it succeeds. -/
theorem enact_commits (hfolder : folder.Lawful) (intent : Result (Entry × α)) :
    Timed.Commits (shown folder) (enact folder intent) := by
  cases intent with
  | error e => exact .pure _
  | ok intent =>
    obtain ⟨e, a⟩ := intent
    rw [enact_ok]
    exact attempt_commits hfolder (fun _ => .pure _)
      (.inl ⟨fun f f' => objects_write,
        attempt_commits hfolder (fun _ => .pure _) (.inr ⟨a, rfl⟩)⟩)

/-- **A call changes objects only with the step with which it succeeds.** -/
theorem directory_commits (clock : σ → Instant) (hfolder : folder.Lawful) (c : Call) :
    Timed.Commits (shown folder) (directory clock folder c) := by
  cases directory_plan clock folder c with
  | writes hc =>
    rw [hc.directory_eq]
    exact .read_bind fun intent => enact_commits hfolder intent
  | refused e h =>
    rw [h]
    exact .pure _
  | get | dump => exact .read_bind fun _ => .pure _

end Calls

/-- Two folders have the same objects, so that all reading of one is as that of the other. -/
structure Spared (f f' : Folder) : Prop where
  objects : ∀ fileName, isObject fileName = true → f'.get? fileName = f.get? fileName
  readObject : ∀ name, FolderStore.readObject f' name = FolderStore.readObject f name
  dump : FolderStore.dump f' = FolderStore.dump f

/-- All reading of a folder is through its objects. -/
theorem Spared.of_objects (h : FolderStore.objects f' = FolderStore.objects f) : Spared f f' :=
  ⟨objects_eq_iff.1 h, readObject_congr h, dump_congr h⟩

/-- **A call that fails leaves every object.** Every call on a folder comes to an end, whatever the
folder holds. If it fails, every object is as it was; and so it is if the rest of the folder is
changed under way in any manner. -/
theorem objects_of_failed (s : Site) (c : Call) :
    (∃ r s', (Site.directory c).Answers s r s' ∧
      ∀ e, r = .error e → Spared s.folder s'.folder) ∧
    ∀ e s', (Site.directory c).EndsAmid
        (fun s s' => objects s'.folder = objects s.folder) s (.error e) s' →
      Spared s.folder s'.folder := by
  have hspared (e : Error) (s' : Site) (hend : (Site.directory c).EndsAmid
      (fun s s' => objects s'.folder = objects s.folder) s (.error e) s') :
      Spared s.folder s'.folder := by
    have hcommits := directory_commits Site.now Site.lawful_part c
    exact .of_objects (hcommits.of_error (fun _ _ hsame => hsame) hend)
  obtain ⟨r, s', hanswer⟩ := Site.directory_answers s c
  refine ⟨⟨r, s', hanswer, ?_⟩, hspared⟩
  rintro e rfl
  exact hspared e s' (hanswer.ends 0).amid

/-- A write that fails in its last step, on the path that the document gives: the document of `a` is
that of `b`, and a folder stands where `b` is to be written. What was written beside is left. -/
theorem objects_of_failed_move :
    let time : Instant := ⟨1704164645, 0⟩
    let e : Entry := ⟨"b", "id1", 1, time, none⟩
    let s : Site := ⟨time, Table.ofList [("a.json", .file (document e)), ("b.json", .folder [])]⟩
    ∃ s', (Site.directory (.put "a" "id2")).Answers s (.error (.io .isDirectory)) s' ∧
      (∃ content, s'.folder = s.folder.insert "b.json.tmp" (.file content)) ∧
      Spared s.folder s'.folder := by
  intro time e s
  have hname : objectName "a" = "a.json" ∧ objectName "b" = "b.json" ∧
      tempName "b" = "b.json.tmp" := by decide +kernel
  have hshort : isTooLong "a.json" = false ∧ isTooLong "b.json" = false ∧
      isTooLong "b.json.tmp" = false := by decide +kernel
  have hfound : readObject s.folder "a" = .ok e := by
    have hread : Folder.read s.folder "a.json" = .ok (document e) := by
      simp [Folder.read, hshort, isDots, s, Table.ofList, Table.get?_insert]
    rw [readObject, hname.1, hread]
    exact readDocument_document ⟨by decide, by decide, by decide⟩
  have hbeside (content : ByteArray) : Folder.write s.folder "b.json.tmp" content =
      .ok (s.folder.insert "b.json.tmp" (.file content)) := by
    simp [Folder.write, hshort, isDots, s, Table.ofList, Table.get?_insert]
  have hplaced (content : ByteArray) :
      Folder.rename (s.folder.insert "b.json.tmp" (.file content)) "b.json.tmp" "b.json" =
        .error .isDirectory := by
    simp [Folder.rename, hshort, s, Table.ofList, Table.get?_insert]
  have hwrites : Writes (.put "a" "id2") _ := .put (by decide) (by decide)
  have hanswer := hwrites.answers s
  simp only [hfound, renewed, Except.map, settled, Entry.update, e, hname, hbeside, hplaced]
    at hanswer
  exact ⟨_, hanswer, ⟨_, rfl⟩, (objects_of_failed s (.put "a" "id2")).2 _ _ (hanswer.ends 0).amid⟩

end FolderStore

end GatewayDirectory
