import GatewayDirectory.Proofs.Directory.Objects
import GatewayDirectory.Proofs.Http.Address
import GatewayDirectory.Proofs.Storage.FileName

/-!
# The files of a name

Every name has two files in a folder, that of its object and that which a write goes to first. The
name of the second is that of the first with another extension (`withExtension_objectName`). Both
are spelled in plain characters, so no name leads out of the folder by a separator in it, and no two
names share a file, but for the empty one, which has nothing in front of the suffix that could be
replaced (`tempName_eq_iff`). A lone dot is the one name whose second file is not in the folder: its
extension is cut off before the new one is set, and the two dots that are left are the folder around
(`files_private`).
-/

namespace GatewayDirectory.FolderStore

open Storage Text

variable {name other : String}

/-! ## Names in plain characters -/

/-- Plain characters are neither separators nor nulls, and a name that does not end in a dot is none
of dots. -/
theorem isFileName_of_isPlain {c : Char} (hlast : name.toList.getLast? = some c) (hc : c ≠ '.')
    (hplain : ∀ c ∈ name.toList, Http.isPlain c = true) : IsFileName name := by
  refine ⟨?_, isDots_of_getLast? ?_, fun hslash => ?_, fun hnull => ?_⟩
  · rintro rfl
    cases hlast
  · rw [hlast]
    exact mt Option.some.inj hc
  · exact (Http.isPlain_spec (hplain _ hslash)).2.2.1 rfl
  · exact absurd (hplain _ hnull) (by decide)

/-- An encoded name with a plain suffix is plain throughout. -/
theorem isPlain_of_mem_encode_append {suffix : String}
    (hsuffix : suffix.toList.all Http.isPlain = true) :
    ∀ c ∈ (Percent.encode name ++ suffix).toList, Http.isPlain c = true := by
  intro c hc
  rw [String.toList_append, List.mem_append] at hc
  rcases hc with hencoded | hc
  · exact Http.isPlain_of_mem_encode hencoded
  · exact List.all_eq_true.1 hsuffix c hc

/-- **An object has a name of a file**, whatever the name is that it is for. -/
theorem isFileName_objectName (name : String) : IsFileName (objectName name) :=
  isFileName_of_isPlain (getLast?_objectName name) (by decide)
    (isPlain_of_mem_encode_append (by decide +kernel))

/-! ## The second file of a write -/

/-- The second file is that of an encoded name as well. The empty name has that of the suffix. -/
theorem tempName_of_ne_dot (h : name ≠ ".") :
    tempName name = Percent.encode (if name = "" then ".json" else name) ++ ".json.tmp" := by
  unfold tempName
  rw [if_neg h]
  split
  · decide +kernel
  · rfl

/-- **The second file is in the folder as well**, unless the name is a lone dot. -/
theorem isFileName_tempName_iff : IsFileName (tempName name) ↔ name ≠ "." := by
  constructor
  · rintro hfile rfl
    cases hfile.undotted
  · intro hdot
    refine isFileName_of_isPlain (getLast?_tempName hdot) (by decide) ?_
    rw [tempName_of_ne_dot hdot]
    exact isPlain_of_mem_encode_append (by decide +kernel)

/-- **The second file has the object's name with another extension.** -/
theorem withExtension_objectName (name : String) :
    withExtension (objectName name) "json.tmp" = tempName name := by
  by_cases hempty : name = ""
  · -- the dot of the suffix is in front, so the suffix is no extension
    have hobject : objectName "" = "." ++ "json" := by decide +kernel
    rw [hempty, hobject, withExtension_of_dot (by decide) (by decide) (by decide)]
    rfl
  · by_cases hdot : name = "."
    · have hobject : objectName "." = "." ++ "." ++ "json" := by decide +kernel
      rw [hdot, hobject, withExtension_dot (by decide)]
      rfl
    · -- the encoded name is the stem
      have hstem : Percent.encode name ≠ "." := by
        intro heq
        have hself : Percent.encode "." = "." := by decide +kernel
        exact hdot (Percent.encode_inj.1 (heq.trans hself.symm))
      have hobject : objectName name = Percent.encode name ++ "." ++ "json" := by
        rw [String.append_assoc]
        rfl
      rw [hobject, withExtension_append (Http.encode_ne_empty hempty) hstem (by decide) (by decide),
        tempName, if_neg hempty, if_neg hdot, String.append_assoc]
      rfl

/-- No object has the second file of a write, that of a lone dot included. -/
theorem tempName_ne (name other : String) : tempName name ≠ objectName other := by
  intro heq
  have hobject := isObject_tempName name
  rw [heq, isObject_objectName] at hobject
  cases hobject

/-- **Two names share a second file** only where one is empty and the other is the suffix. -/
theorem tempName_eq_iff : tempName name = tempName other ↔
    name = other ∨ (name = "" ∧ other = ".json") ∨ name = ".json" ∧ other = "" := by
  -- what a lone dot has is told from the others by its last character
  have hlone {name : String} (h : name ≠ ".") : tempName name ≠ tempName "." := by
    intro heq
    have hlast := getLast?_tempName h
    rw [heq] at hlast
    cases hlast
  by_cases hname : name = "."
  · by_cases hother : other = "."
    · simp [hname, hother]
    · simp [hname, (hlone hother).symm, Ne.symm hother]
  · by_cases hother : other = "."
    · simp [hother, hlone hname, hname]
    · rw [tempName_of_ne_dot hname, tempName_of_ne_dot hother, String.append_left_inj,
        Percent.encode_inj]
      by_cases hempty : name = ""
      · by_cases hempty' : other = ""
        · simp [hempty, hempty']
        · simp [hempty, hempty', Ne.symm hempty', eq_comm (b := other)]
      · by_cases hempty' : other = ""
        · simp [hempty, hempty']
        · simp [hempty, hempty']

/-- **The files of a name are its own.** The object of any name is directly in the folder, and it is
the object of no other name. The second file of a write has the object's name with another
extension. It is in the folder unless the name is a lone dot; it is no object, so that whatever it
holds no entry is read from it, neither alone nor in the list of all; and of the names of entries,
which are not empty, no two share it. -/
theorem files_private (name : String) :
    ((∀ root, InFolder root (objectName name)) ∧
      ∀ other, objectName name = objectName other ↔ name = other) ∧
    withExtension (objectName name) "json.tmp" = tempName name ∧
    (∀ root, InFolder root (tempName name) ↔ name ≠ ".") ∧
    ((∀ other, tempName name ≠ objectName other) ∧ isObject (tempName name) = false ∧
      ∀ f node, Spared f (Table.insert f (tempName name) node)) ∧
    ∀ other, tempName name = tempName other ↔
      name = other ∨ (name = "" ∧ other = ".json") ∨ name = ".json" ∧ other = "" := by
  have hobject := isObject_tempName name
  refine ⟨⟨fun root => inFolder_iff.2 (isFileName_objectName name), fun other => objectName_inj⟩,
    withExtension_objectName name, fun root => inFolder_iff.trans isFileName_tempName_iff,
    ⟨tempName_ne name, hobject, ?_⟩, fun other => tempName_eq_iff⟩
  intro f node
  exact .of_objects (objects_insert hobject f node)

/-- A valid name whose second file is the folder around. -/
theorem files_of_dot : isValidName "." = true ∧
    withExtension (objectName ".") "json.tmp" = ".." ∧ ¬ InFolder "/data" ".." := by
  obtain ⟨-, hbeside, hfolder, -, -⟩ := files_private "."
  exact ⟨by decide, hbeside, fun h => (hfolder "/data").1 h rfl⟩

end GatewayDirectory.FolderStore
