import GatewayDirectory.Directory.FolderStore
import GatewayDirectory.Proofs.Directory.History
import GatewayDirectory.Proofs.Entry
import GatewayDirectory.Proofs.Text.Percent

/-!
# A folder of documents

A folder `Mirrors` a store when it holds the document of every entry of the store and nothing else.
Then reading an object, writing one through its second file, and listing all of them answer as the
store does. A name must leave room for the longer of its two file names, and an instant must be one
that the calendar can date; a lone dot is no name for an entry here, since its second file would be
the folder around.
-/

namespace GatewayDirectory.FolderStore

open Directory Storage Text

/-! ## File names -/

/-- The name is short enough for both of its file names. -/
def IsShort (name : String) : Prop := (Percent.encode name).utf8ByteSize ≤ 246

/-- No two gateways share a document. -/
theorem objectName_inj {a b : String} : objectName a = objectName b ↔ a = b := by
  constructor
  · intro h
    -- the suffixes are equal, so the encoded names in front of them are
    have hlists : (Percent.encode a).toList ++ objectSuffix.toList =
        (Percent.encode b).toList ++ objectSuffix.toList := by
      rw [← String.toList_append, ← String.toList_append]
      exact congrArg String.toList h
    exact Percent.encode_inj.1 (String.toList_inj.1 (List.append_cancel_right hlists))
  · rintro rfl
    rfl

/-! The last character of a file name tells documents, files that are to become one, and folders
apart. -/

/-- The file name of a document ends with the last letter of `json`. -/
theorem getLast?_objectName (name : String) : (objectName name).toList.getLast? = some 'n' := by
  simp [objectName, objectSuffix]

/-- The second file of a name ends with the last letter of `tmp`, unless the name is a lone dot. -/
theorem getLast?_tempName {name : String} (h : name ≠ ".") :
    (tempName name).toList.getLast? = some 'p' := by
  unfold tempName
  rw [if_neg h]
  split
  · rfl
  · simp

/-- The second file of a name is no document, neither its own nor that of another name. -/
theorem tempName_ne_objectName {name : String} (h : name ≠ ".") (other : String) :
    tempName name ≠ objectName other := by
  intro heq
  have hlast := getLast?_tempName h
  rw [heq, getLast?_objectName] at hlast
  cases hlast

/-- A name that does not end with a dot leads to something in the folder. -/
theorem isDots_of_getLast? {name : String} (h : name.toList.getLast? ≠ some '.') :
    isDots name = false := by
  have hne (dots : String) (hdots : dots.toList.getLast? = some '.') : name ≠ dots := by
    rintro rfl
    exact h hdots
  simp [isDots, hne "." rfl, hne ".." rfl]

/-- A document is a file in the folder, whatever the name. -/
theorem isDots_objectName (name : String) : isDots (objectName name) = false :=
  isDots_of_getLast? (by simp [getLast?_objectName])

/-- The second file is one in the folder, unless the name is a lone dot. -/
theorem isDots_tempName {name : String} (h : name ≠ ".") : isDots (tempName name) = false :=
  isDots_of_getLast? (by simp [getLast?_tempName h])

/-- A document counts as one in a listing. -/
theorem isObject_objectName (name : String) : isObject (objectName name) = true := by
  simp [isObject, objectName]

/-- A short name leaves room for the name of its document. -/
theorem isTooLong_objectName {name : String} (h : IsShort name) :
    isTooLong (objectName name) = false := by
  have hsize : (objectName name).utf8ByteSize = (Percent.encode name).utf8ByteSize + 5 := by
    rw [objectName, String.utf8ByteSize_append]
    rfl
  have hshort : (Percent.encode name).utf8ByteSize ≤ 246 := h
  rw [isTooLong, decide_eq_false_iff_not, maxFileNameBytes, hsize]
  omega

/-- A short name leaves room for the longer name of its second file. -/
theorem isTooLong_tempName {name : String} (h : IsShort name) :
    isTooLong (tempName name) = false := by
  have hshort : (Percent.encode name).utf8ByteSize ≤ 246 := h
  have hsize : (tempName name).utf8ByteSize ≤ 255 := by
    unfold tempName
    split
    · decide
    · split
      · decide
      · rw [String.utf8ByteSize_append, show ".json.tmp".utf8ByteSize = 9 from rfl]
        omega
  rw [isTooLong, decide_eq_false_iff_not, maxFileNameBytes]
  omega

/-! ## Documents and the store that they make up -/

/-- The document of an entry is read as that entry. -/
theorem readDocument_document {e : Entry} (h : e.lastUpdate.Datable) :
    readDocument (document e) = .ok e := by
  rw [readDocument, document, Entry.decode_indented h]

/-- Whatever a folder holds, an entry that is read from it has an instant that can be dated. -/
theorem datable_of_readObject {f : Folder} {name : String} {e : Entry}
    (h : readObject f name = .ok e) : e.lastUpdate.Datable := by
  unfold readObject at h
  split at h
  · rename_i content _
    unfold readDocument at h
    split at h
    · rename_i e' hdecode
      obtain rfl := Except.ok.inj h
      unfold Json.decode at hdecode
      split at hdecode
      · exact Entry.datable_of_decode hdecode
      · cases hdecode
    · cases h
  · cases h
  · cases h

/-- What a store must satisfy for a folder to hold it. -/
structure Fitting (s : Store) : Prop where
  sound : s.Sound
  short : ∀ name e, s.get? name = some e → IsShort name
  datable : ∀ name e, s.get? name = some e → e.lastUpdate.Datable
  no_dot : s.get? "." = none

/-- The folder holds the document of every entry of the store, and nothing else. -/
def Mirrors (f : Folder) (s : Store) : Prop :=
  ∀ fileName node, f.get? fileName = some node ↔
    ∃ name e, s.get? name = some e ∧ fileName = objectName name ∧ node = .file (document e)

/-- An empty folder mirrors an empty store. -/
theorem mirrors_empty : Mirrors .empty .empty := by
  intro fileName node
  simp

namespace Mirrors

variable {f : Folder} {s : Store} {name : String}

/-- The file of an entry, as a look-up. -/
theorem get?_objectName (h : Mirrors f s) (name : String) :
    f.get? (objectName name) = (s.get? name).map fun e => .file (document e) := by
  cases he : s.get? name with
  | some e => exact (h _ _).2 ⟨name, e, he, rfl, rfl⟩
  | none =>
    rw [Option.map_none, Option.eq_none_iff_forall_ne_some]
    intro node hnode
    -- a file of that name could only be the document of another entry with the same name
    obtain ⟨other, e, hother, hname, -⟩ := (h _ _).1 hnode
    rw [objectName_inj] at hname
    rw [← hname, he] at hother
    cases hother

/-- A folder that mirrors a store holds no second file. -/
theorem get?_tempName (h : Mirrors f s) (hdot : name ≠ ".") : f.get? (tempName name) = none := by
  rw [Option.eq_none_iff_forall_ne_some]
  intro node hnode
  obtain ⟨other, e, -, hname, -⟩ := (h _ _).1 hnode
  exact tempName_ne_objectName hdot other hname

/-- **Reading an object answers as the store does.** -/
theorem readObject_eq (h : Mirrors f s) (hs : Fitting s) (hname : IsShort name) :
    readObject f name = s.get name := by
  simp only [readObject, Folder.read, isTooLong_objectName hname, isDots_objectName,
    Bool.false_eq_true, if_false, h.get?_objectName, Store.get]
  cases he : s.get? name with
  | none => rfl
  | some e => simp only [Option.map_some, readDocument_document (hs.datable name e he)]

end Mirrors

/-! ## Writing -/

section Writing

variable {f : Folder} {s : Store} {name : String}

/-- A short name can be written beside its document. -/
theorem Mirrors.write_eq (h : Mirrors f s) (hdot : name ≠ ".") (hname : IsShort name)
    (content : ByteArray) :
    Folder.write f (tempName name) content = .ok (f.insert (tempName name) (.file content)) := by
  simp [Folder.write, isTooLong_tempName hname, isDots_tempName hdot, h.get?_tempName hdot]

/-- The folder that a document leaves once it has taken its place. -/
def placed (f : Folder) (name : String) (content : ByteArray) : Folder :=
  ((f.insert (tempName name) (.file content)).erase (tempName name)).insert (objectName name)
    (.file content)

/-- What was written beside takes its place. -/
theorem Mirrors.rename_eq (h : Mirrors f s) (hdot : name ≠ ".") (hname : IsShort name)
    (content : ByteArray) :
    Folder.rename (f.insert (tempName name) (.file content)) (tempName name) (objectName name) =
      .ok (placed f name content) := by
  have hne := tempName_ne_objectName hdot name
  have htarget : (f.insert (tempName name) (.file content)).get? (objectName name) =
      (s.get? name).map fun e => .file (document e) := by
    rw [Table.get?_insert, if_neg hne, h.get?_objectName]
  simp only [Folder.rename, isTooLong_tempName hname, isTooLong_objectName hname, Bool.or_self,
    Bool.false_eq_true, if_false, Table.get?_insert_self, htarget]
  cases s.get? name <;> rfl

/-- The second file is gone again. -/
theorem Mirrors.get?_placed (h : Mirrors f s) (hdot : name ≠ ".") (content : ByteArray)
    (fileName : String) :
    (FolderStore.placed f name content).get? fileName =
      if objectName name = fileName then some (.file content) else f.get? fileName := by
  simp only [FolderStore.placed, Table.get?_insert, Table.get?_erase]
  split
  · rfl
  · split
    · rename_i heq
      rw [← heq, h.get?_tempName hdot]
    · rfl

/-- **A document in its place mirrors the store with its entry.** -/
theorem Mirrors.placed (h : Mirrors f s) (hdot : name ≠ ".") (e : Entry) :
    Mirrors (FolderStore.placed f name (document e)) (s.insert name e) := by
  intro fileName node
  rw [h.get?_placed hdot]
  constructor
  · -- a file of the new folder: the written document, or one that was there before
    intro hnode
    split at hnode
    · rename_i heq
      exact ⟨name, e, Table.get?_insert_self _ _ _, heq.symm, (Option.some.inj hnode).symm⟩
    · rename_i hne
      obtain ⟨other, e', hother, hfile, hnode⟩ := (h _ _).1 hnode
      have hname : name ≠ other := by
        rintro rfl
        exact hne hfile.symm
      exact ⟨other, e', by rw [Table.get?_insert, if_neg hname, hother], hfile, hnode⟩
  · -- an entry of the new store has its file, the written one or the one it had
    rintro ⟨other, e', hother, rfl, rfl⟩
    rw [h.get?_objectName]
    rw [Table.get?_insert] at hother
    split at hother
    · rename_i heq
      cases hother
      rw [if_pos (objectName_inj.2 heq)]
    · rename_i hne
      rw [if_neg (mt objectName_inj.1 hne), hother, Option.map_some]

end Writing

/-! ## Listing -/

section Listing

variable {f : Folder} {s : Store}

/-- Documents that a folder holds are read one after the other, each as its entry. -/
theorem Mirrors.readAll_eq (h : Mirrors f s) (hs : Fitting s) {fileNames : List String}
    (hheld : ∀ fileName ∈ fileNames, ∃ node, f.get? fileName = some node) :
    ∃ es, readAll f fileNames = .ok es ∧ es.map (fun e => objectName e.name) = fileNames ∧
      ∀ e ∈ es, s.get? e.name = some e := by
  -- the induction is on the files in the order of the listing, which need not be that of the names
  induction fileNames with
  | nil => exact ⟨[], rfl, rfl, by simp⟩
  | cons fileName rest ih =>
    obtain ⟨es, hread, hnames, hes⟩ := ih fun x hx => hheld x (List.mem_cons_of_mem _ hx)
    obtain ⟨node, hnode⟩ := hheld fileName List.mem_cons_self
    obtain ⟨name, e, he, rfl, rfl⟩ := (h _ _).1 hnode
    have hname := (hs.sound name e he).name_eq
    have hfile : Folder.read f (objectName name) = .ok (document e) := by
      simp [Folder.read, isTooLong_objectName (hs.short name e he), isDots_objectName, hnode]
    refine ⟨e :: es, ?_, ?_, ?_⟩
    · simp only [readAll, hfile, readDocument_document (hs.datable name e he), hread]
    · rw [List.map_cons, hname, hnames]
    · rintro x hx
      rcases List.mem_cons.1 hx with rfl | hx
      · rw [hname, he]
      · exact hes x hx

/-- Every file of the folder counts as a document. -/
theorem Mirrors.filter_keys (h : Mirrors f s) : f.keys.filter isObject = f.keys := by
  rw [List.filter_eq_self]
  intro fileName hmem
  obtain ⟨node, hnode⟩ := Table.mem_keys_iff.1 hmem
  obtain ⟨name, e, -, rfl, -⟩ := (h _ _).1 hnode
  exact isObject_objectName name

/-- The entries of a store that come in any order are in order again once they are sorted. -/
theorem mergeSort_of_perm (hs : s.Sound) {es : List Entry} (hperm : es.Perm s.dump) :
    es.mergeSort (fun a b => a.name ≤ b.name) = s.dump := by
  have hsorted : (es.mergeSort fun a b => a.name ≤ b.name).Pairwise
      fun a b => decide (a.name ≤ b.name) = true := List.pairwise_mergeSort
    (fun a b c hab hbc => by simpa using String.le_trans (by simpa using hab) (by simpa using hbc))
    (fun a b => by simpa using String.le_total a.name b.name) es
  refine ((List.mergeSort_perm es _).trans hperm).eq_of_pairwise ?_ hsorted
    (hs.dump_sorted.imp fun hlt => ?_)
  · -- two entries of one name are the entry that the store holds for it
    intro a b ha hb hab hba
    have hname : a.name = b.name := String.le_antisymm (by simpa using hab) (by simpa using hba)
    have ha' := hs.mem_dump.1 (hperm.mem_iff.1 (List.mem_mergeSort.1 ha))
    rw [hname, hs.mem_dump.1 hb] at ha'
    exact (Option.some.inj ha').symm
  · exact decide_eq_true (String.not_lt.1 fun hgt => String.lt_irrefl _ (String.lt_trans hlt hgt))

/-- **Listing the documents answers as the store does**, in the same order. -/
theorem Mirrors.dump_eq (h : Mirrors f s) (hs : Fitting s) : dump f = .ok s.dump := by
  obtain ⟨es, hread, hnames, hes⟩ := h.readAll_eq hs fun _ => Table.mem_keys_iff.1
  rw [dump, h.filter_keys, hread, Except.map]
  -- the documents are listed by their file names, which need not be the order of the names
  have hmem (e : Entry) : e ∈ es ↔ e ∈ s.dump := by
    rw [hs.sound.mem_dump]
    refine ⟨hes e, fun he => ?_⟩
    have hkey : objectName e.name ∈ f.keys :=
      Table.mem_keys_iff.2 ⟨_, (h _ _).2 ⟨e.name, e, he, rfl, rfl⟩⟩
    rw [← hnames, List.mem_map] at hkey
    obtain ⟨e', he', hname⟩ := hkey
    have hget := hes e' he'
    rw [objectName_inj.1 hname, he] at hget
    exact Option.some.inj hget ▸ he'
  have hnodup : es.Nodup := by
    have hkeys := f.nodup_keys
    rw [← hnames, List.Nodup, List.pairwise_map] at hkeys
    refine hkeys.imp fun {a b} hne heq => ?_
    rw [heq] at hne
    exact hne rfl
  have hnodup' : s.dump.Nodup := by
    refine hs.sound.dump_sorted.imp fun {a b} hlt heq => ?_
    exact String.lt_irrefl b.name (heq ▸ hlt)
  rw [mergeSort_of_perm hs.sound ((List.perm_ext_iff_of_nodup hnodup hnodup').2 hmem)]

end Listing

end GatewayDirectory.FolderStore
