import GatewayDirectory.Proofs.Directory.Filing

/-!
# Which names a folder has room for

A name may be as long as a file name, but the files of its entry are named by its encoded form, with
a suffix of up to nine bytes. A colon takes three bytes there, every other character of a valid name
one (`utf8ByteSize_encode_of_isValidName`). So an empty folder takes the entry of a valid name only
if that leaves room for the suffix, and never that of a lone dot, where a store in memory takes
every valid name (`put_on_empty`).
-/

namespace GatewayDirectory.FolderStore

open Directory Storage Text

/-! ## The size of an encoded name -/

/-- A colon is encoded by three characters, every other character of a name by itself. -/
theorem length_encodeByte_of_isNameChar {c : Char} (hc : c.toNat < 128) (h : isNameChar c = true) :
    (Percent.encodeByte (asciiByte c)).length = if c = ':' then 3 else 1 :=
  forall_ascii (P := fun c => isNameChar c = true →
    (Percent.encodeByte (asciiByte c)).length = if c = ':' then 3 else 1) (by decide +kernel) c hc h

/-- The number of bytes that the encoded form of a name takes. -/
def encodedSize (name : String) : Nat := name.utf8ByteSize + 2 * name.toList.count ':'

/-- **The size of an encoded name**: every colon takes two bytes more. -/
theorem utf8ByteSize_encode_of_isValidName {name : String} (h : isValidName name = true) :
    (Percent.encode name).utf8ByteSize = encodedSize name := by
  have hascii := Store.isAscii_of_isValidName h
  have hchars : ∀ c ∈ name.toList, isNameChar c = true := (isValidName_iff.1 h).2.2
  rw [Percent.utf8ByteSize_encode hascii, encodedSize, utf8ByteSize_ascii hascii]
  have hlength (cs : List Char) (hcs : ∀ c ∈ cs, c ∈ name.toList) :
      (cs.flatMap fun c => Percent.encodeByte (asciiByte c)).length =
        cs.length + 2 * cs.count ':' := by
    induction cs with
    | nil => rfl
    | cons c cs ih =>
      obtain ⟨hc, hcs⟩ := List.forall_mem_cons.1 hcs
      rw [List.flatMap_cons, List.length_append, ih hcs,
        length_encodeByte_of_isNameChar (hascii c hc) (hchars c hc), List.count_cons]
      by_cases hcolon : c = ':'
      · simp only [hcolon, if_true, beq_self_eq_true, List.length_cons]
        omega
      · simp only [hcolon, if_false, beq_iff_eq, List.length_cons]
        omega
  exact hlength name.toList fun c hc => hc

/-! ## File names -/

/-- Whether a folder has room for the entry of a valid name: its second file is not the folder
around, and neither of its two file names is too long. -/
def HasRoom (name : String) : Prop := name ≠ "." ∧ encodedSize name + 9 ≤ maxFileNameBytes

instance (name : String) : Decidable (HasRoom name) :=
  inferInstanceAs (Decidable (_ ∧ _))

section Rooms

variable {name : String}

/-- For a valid name, room is that its encoding is short and that it is no lone dot. -/
theorem hasRoom_iff (h : isValidName name = true) :
    HasRoom name ↔ name ≠ "." ∧ IsShort name := by
  rw [HasRoom, IsShort, utf8ByteSize_encode_of_isValidName h, show maxFileNameBytes = 255 from rfl]
  constructor
  · rintro ⟨hdot, hsize⟩
    exact ⟨hdot, by omega⟩
  · rintro ⟨hdot, hsize⟩
    exact ⟨hdot, by omega⟩

/-- The second file of a name that is not short has a name that is too long. -/
theorem isTooLong_tempName_of_not_isShort (hname : isValidName name = true) (hdot : name ≠ ".")
    (h : ¬ IsShort name) : isTooLong (tempName name) = true := by
  have hsize : (tempName name).utf8ByteSize = (Percent.encode name).utf8ByteSize + 9 := by
    rw [tempName, if_neg (isValidName_iff.1 hname).1, if_neg hdot, String.utf8ByteSize_append]
    rfl
  have hlong : ¬ (Percent.encode name).utf8ByteSize ≤ 246 := h
  rw [isTooLong, decide_eq_true_iff, maxFileNameBytes, hsize]
  omega

end Rooms

/-! ## A first write -/

/-- Why an empty folder has no room for a name. -/
def noRoom (name : String) : OsError := if name = "." then .isDirectory else .nameTooLong

section FirstWrite

variable {name : String}

/-- What is found in an empty folder. -/
theorem readObject_empty (name : String) : readObject .empty name =
    if isTooLong (objectName name) then .error (.io .nameTooLong) else .error (.notFound name) := by
  by_cases hlong : isTooLong (objectName name) = true
  · have hread : Folder.read .empty (objectName name) = .error .nameTooLong := by
      rw [Folder.read, if_pos hlong]
    rw [readObject, hread, if_pos hlong]
  · have hread : Folder.read .empty (objectName name) = .error .notFound := by
      rw [Folder.read, if_neg hlong, isDots_objectName, if_neg Bool.false_ne_true,
        Table.get?_empty]
    rw [readObject, hread, if_neg hlong]

/-- What a write of an id does to an empty folder with room for its name. -/
theorem settled_of_room (now : Instant) (id : String) (hname : isValidName name = true)
    (h : HasRoom name) :
    settled .empty ((renewed now name id (readObject .empty name)).map fun e => (e, e)) =
      (.ok (.create name id now), placed .empty name (document (.create name id now))) := by
  obtain ⟨hdot, hshort⟩ := (hasRoom_iff hname).1 h
  have hfound : readObject .empty name = .error (.notFound name) := by
    rw [readObject_empty, isTooLong_objectName hshort]
    rfl
  simp only [hfound, renewed, Except.map, settled, Entry.create,
    mirrors_empty.write_eq hdot hshort, mirrors_empty.rename_eq hdot hshort]

/-- What a write of an id does to an empty folder without room for its name. -/
theorem settled_of_noRoom (now : Instant) (id : String) (hname : isValidName name = true)
    (h : ¬ HasRoom name) :
    settled .empty ((renewed now name id (readObject .empty name)).map fun e => (e, e)) =
      (.error (.io (noRoom name)), .empty) := by
  have hwrite (content : ByteArray) :
      Folder.write .empty (tempName name) content = .error (noRoom name) := by
    by_cases hdot : name = "."
    · rw [hdot]
      rfl
    · have hlong := isTooLong_tempName_of_not_isShort hname hdot
        fun hshort => h ((hasRoom_iff hname).2 ⟨hdot, hshort⟩)
      rw [Folder.write, if_pos hlong, noRoom, if_neg hdot]
  by_cases hobject : isTooLong (objectName name) = true
  · -- the document cannot even be looked for
    have hdot : name ≠ "." := by
      rintro rfl
      revert hobject
      decide +kernel
    rw [readObject_empty, if_pos hobject, noRoom, if_neg hdot]
    rfl
  · rw [readObject_empty, if_neg hobject]
    simp only [renewed, Except.map, settled, Entry.create, hwrite]

end FirstWrite

/-- **Which names can be stored.** An id that is not empty is written for a valid name, to an empty
folder and to an empty store in memory. The store always takes it, and the entry is read back. The
folder does exactly when it has room for the name, and otherwise answers why not and stays empty. -/
theorem put_on_empty (now : Instant) (hnow : now.Datable) (name id : String)
    (hname : isValidName name = true) (hid : id ≠ "") :
    let e := Entry.create name id now
    (Store.put .empty now name id).1 = .ok e ∧ (Store.put .empty now name id).2.get name = .ok e ∧
    ∃ r s', (Site.directory (.put name id)).Answers ⟨now, .empty⟩ r s' ∧
      (HasRoom name → r = .ok e ∧ (Site.directory (.get name)).Answers s' (.ok e) s') ∧
      (¬ HasRoom name → r = .error (.io (noRoom name)) ∧ s'.folder = .empty) := by
  intro e
  have hmemory : Store.put .empty now name id = (.ok e, Table.insert .empty name e) := by
    rw [Store.put_of_valid hname hid]
    rfl
  have hwrites : Writes (.put name id) _ := .put hname hid
  refine ⟨by rw [hmemory], ?_, _, _, hwrites.answers ⟨now, .empty⟩, fun hroom => ?_,
    fun hroom => ?_⟩
  · rw [hmemory, Store.get, Table.get?_insert_self]
  · have hok := congrArg Prod.fst (settled_of_room now id hname hroom)
    obtain ⟨e', hintent, hread⟩ := readObject_settled hok
    obtain ⟨y, -, heq⟩ := eq_ok_of_map hintent
    obtain ⟨rfl, rfl⟩ := Prod.mk.inj heq
    refine ⟨hok, Site.get_answers_iff.2 ⟨?_, rfl⟩⟩
    exact ((hread hnow name).trans (if_pos rfl)).symm
  · have hsettled := settled_of_noRoom now id hname hroom
    exact ⟨congrArg Prod.fst hsettled, congrArg Prod.snd hsettled⟩

/-- A colon takes the room of three characters: a name of 82 colons is stored, one of 83 is not. -/
theorem put_colons_on_empty :
    let now : Instant := ⟨1704164645, 0⟩
    let name (length : Nat) : String := String.ofList (List.replicate length ':')
    now.Datable ∧ isValidName (name 82) = true ∧ isValidName (name 83) = true ∧
      (∃ s', (Site.directory (.put (name 82) "id")).Answers ⟨now, .empty⟩
        (.ok (.create (name 82) "id" now)) s') ∧
      ∃ s', (Site.directory (.put (name 83) "id")).Answers ⟨now, .empty⟩
        (.error (.io .nameTooLong)) s' := by
  intro now name
  have hnow : now.Datable := ⟨by decide, by decide, by decide⟩
  have hvalid : isValidName (name 82) = true ∧ isValidName (name 83) = true := by
    decide +kernel
  have hroom : HasRoom (name 82) ∧ ¬ HasRoom (name 83) ∧ noRoom (name 83) = .nameTooLong := by
    decide +kernel
  obtain ⟨-, -, r₁, s₁, hanswer₁, hstored, -⟩ :=
    put_on_empty now hnow (name 82) "id" hvalid.1 (by decide)
  obtain ⟨-, -, r₂, s₂, hanswer₂, -, hrefused⟩ :=
    put_on_empty now hnow (name 83) "id" hvalid.2 (by decide)
  obtain ⟨rfl, -⟩ := hstored hroom.1
  obtain ⟨hr₂, -⟩ := hrefused hroom.2.1
  rw [hroom.2.2] at hr₂
  exact ⟨hnow, hvalid.1, hvalid.2, ⟨s₁, hanswer₁⟩, s₂, hr₂ ▸ hanswer₂⟩

end GatewayDirectory.FolderStore
