import GatewayDirectory.Proofs.Text.Pieces
import GatewayDirectory.Storage.Disk

/-!
# Names of files

A name that is one part of a path (`IsFileName`) leads from any folder to something directly in it
(`inFolder_iff`). The extension of a name is what stands behind its last dot. To replace it is to
cut it off and to set another behind the stem of what is left. That is the stem of the whole name
(`withExtension_append`) with one exception: where the stem is a lone dot, two dots are left, and
these are no name of a file (`withExtension_dot`).
-/

namespace GatewayDirectory.Storage

open Text

/-! ## Parts of a path -/

/-- The name is one part of a path and stands neither for the folder it is in nor for the one
around. -/
structure IsFileName (name : String) : Prop where
  ne_empty : name ≠ ""
  undotted : isDots name = false
  /-- No separator parts it. -/
  whole : '/' ∉ name.toList
  /-- No null ends it. -/
  unended : '\x00' ∉ name.toList

/-- The path that leads on from a folder by a name. A name with a separator in front starts from the
root of all paths. -/
def joined (folder name : String) : String :=
  if name.toList.head? = some '/' then name
  else if folder = "" ∨ folder.toList.getLast? = some '/' then folder ++ name
  else folder ++ "/" ++ name

/-- What the path leads to is directly in the folder. -/
def InFolder (folder name : String) : Prop :=
  IsFileName name ∧ pathNames (joined folder name) = pathNames folder ++ [name]

variable {folder name : String}

/-- The names that lead nowhere else are the dot and the two dots. -/
theorem isDots_eq_false_iff : isDots name = false ↔ name ≠ "." ∧ name ≠ ".." := by
  simp [isDots]

/-- The names along a path are those in front of a separator and those behind it. -/
theorem pathNames_append_slash (front back : String) :
    pathNames (front ++ "/" ++ back) = pathNames front ++ pathNames back := by
  have hchars : (front ++ "/" ++ back).toList = front.toList ++ '/' :: back.toList := by simp
  rw [pathNames, hchars, splitAt_append_cons, List.map_append, List.filter_append]
  rfl

/-- A name of a file is the only name along the path that it makes. -/
theorem IsFileName.pathNames_eq (h : IsFileName name) : pathNames name = [name] := by
  rw [pathNames, splitAt_of_not_mem h.whole]
  simp [h.ne_empty, (isDots_eq_false_iff.1 h.undotted).1]

/-- **A name of a file leads directly into the folder**, however the folder's path is written. -/
theorem IsFileName.pathNames_joined (h : IsFileName name) (folder : String) :
    pathNames (joined folder name) = pathNames folder ++ [name] := by
  -- a name with a separator in front would leave the folder; such a name is no part of a path
  have hrelative : name.toList.head? ≠ some '/' := by
    intro hhead
    exact h.whole (List.mem_of_mem_head? hhead)
  rw [joined, if_neg hrelative, ← h.pathNames_eq]
  split
  · rename_i hopen
    rcases hopen with rfl | hlast
    · rw [String.empty_append]
      rfl
    · -- behind the separator at the end of the folder's path there is no name
      obtain ⟨front, hfront⟩ := List.getLast?_eq_some_iff.1 hlast
      obtain rfl : folder = String.ofList front ++ "/" ++ "" := by
        apply String.toList_inj.1
        simp [hfront]
      rw [pathNames_append_slash, String.append_empty, pathNames_append_slash]
      simp [pathNames, splitAt]
  · exact pathNames_append_slash folder name

/-- Whether a name leads directly into a folder is seen from the name alone. -/
theorem inFolder_iff : InFolder folder name ↔ IsFileName name := by
  constructor
  · intro h
    exact h.1
  · intro h
    exact ⟨h, h.pathNames_joined folder⟩

/-! ## Extensions -/

/-- The two sides of the last dot of a text, if it has one. -/
def atLastDot? : List Char → Option (List Char × List Char)
  | [] => none
  | c :: cs =>
    match atLastDot? cs with
    -- a dot further on is the later one
    | some (front, back) => some (c :: front, back)
    | none => if c = '.' then some ([], cs) else none

/-- The stem of a name and its extension, if it has one. A dot in front of all else is part of the
stem. -/
def stemAndExtension (name : String) : String × Option String :=
  match atLastDot? name.toList with
  | none | some ([], _) => (name, none)
  | some (stem, extension) => (String.ofList stem, some (String.ofList extension))

/-- The stem of the name with another extension, or with none. What is no name of a file stays as it
is. -/
def setExtension (name extension : String) : String :=
  if isDots name then name
  else if extension = "" then (stemAndExtension name).1
  else (stemAndExtension name).1 ++ "." ++ extension

/-- The name with another extension than it has. The old one is cut off behind its dot before the
new one is set. -/
def withExtension (name extension : String) : String :=
  match stemAndExtension name with
  | (_, none) => setExtension name extension
  | (stem, some _) => setExtension (stem ++ ".") extension

variable {stem old new : String}

/-- A text without dots has no last one. -/
theorem atLastDot?_of_not_mem {cs : List Char} (h : '.' ∉ cs) : atLastDot? cs = none := by
  induction cs with
  | nil => rfl
  | cons c cs ih =>
    obtain ⟨hc, hcs⟩ := List.ne_and_not_mem_of_not_mem_cons h
    simp only [atLastDot?, ih hcs]
    exact if_neg (Ne.symm hc)

/-- The last dot is the one that no other follows. -/
theorem atLastDot?_append (front : List Char) {back : List Char} (h : '.' ∉ back) :
    atLastDot? (front ++ '.' :: back) = some (front, back) := by
  induction front with
  | nil => simp [atLastDot?, atLastDot?_of_not_mem h]
  | cons c front ih => simp only [List.cons_append, atLastDot?, ih]

/-- Behind a stem that is not empty, what follows the last dot is the extension. -/
theorem stemAndExtension_append (hstem : stem ≠ "") (hold : '.' ∉ old.toList) :
    stemAndExtension (stem ++ "." ++ old) = (stem, some old) := by
  have hchars : (stem ++ "." ++ old).toList = stem.toList ++ '.' :: old.toList := by simp
  obtain ⟨c, cs, hcs⟩ := List.exists_cons_of_ne_nil (mt String.toList_eq_nil_iff.1 hstem)
  have hof : String.ofList (c :: cs) = stem := by rw [← hcs, String.ofList_toList]
  rw [stemAndExtension, hchars, atLastDot?_append _ hold, hcs]
  simp only [hof, String.ofList_toList]

/-- A name whose only dot is in front has no extension. -/
theorem stemAndExtension_dot (hold : '.' ∉ old.toList) :
    stemAndExtension ("." ++ old) = ("." ++ old, none) := by
  have hchars : ("." ++ old).toList = [] ++ '.' :: old.toList := by simp
  rw [stemAndExtension, hchars, atLastDot?_append _ hold]

/-- What is set stands behind the stem. -/
theorem setExtension_eq {extension : Option String} (hdots : isDots name = false)
    (hname : stemAndExtension name = (stem, extension)) (hnew : new ≠ "") :
    setExtension name new = stem ++ "." ++ new := by
  rw [setExtension, hdots, hname]
  simp only [hnew, if_false, Bool.false_eq_true]

/-- **The extension behind a stem is replaced**, if the stem is more than a dot. -/
theorem withExtension_append (hstem : stem ≠ "") (hdot : stem ≠ ".") (hold : '.' ∉ old.toList)
    (hnew : new ≠ "") : withExtension (stem ++ "." ++ old) new = stem ++ "." ++ new := by
  -- behind the stem of what is left there is a dot and an empty extension
  have hleft : stemAndExtension (stem ++ ".") = (stem, some "") := by
    have h : stemAndExtension (stem ++ "." ++ "") = _ := stemAndExtension_append hstem (by simp)
    rwa [String.append_empty] at h
  have hdots : isDots (stem ++ ".") = false := by
    -- with its dot taken off, either of the two names is a stem that is excluded
    refine isDots_eq_false_iff.2 ⟨fun heq => hstem ?_, fun heq => hdot ?_⟩
    · exact (String.append_left_inj ".").1 heq
    · exact (String.append_left_inj ".").1 heq
  rw [withExtension, stemAndExtension_append hstem hold]
  exact setExtension_eq hdots hleft hnew

/-- An extension is set behind a name that has only a dot in front. -/
theorem withExtension_of_dot (hne : old ≠ "") (hold : '.' ∉ old.toList) (hnew : new ≠ "") :
    withExtension ("." ++ old) new = "." ++ old ++ "." ++ new := by
  have hdots : isDots ("." ++ old) = false := by
    refine isDots_eq_false_iff.2 ⟨fun heq => hne ?_, fun heq => hold ?_⟩
    · exact (String.append_right_inj ".").1 heq
    · obtain rfl : old = "." := (String.append_right_inj ".").1 heq
      decide
  rw [withExtension, stemAndExtension_dot hold]
  exact setExtension_eq hdots (stemAndExtension_dot hold) hnew

/-- **Of a lone dot and an extension two dots are left**, behind which nothing is set. -/
theorem withExtension_dot (hold : '.' ∉ old.toList) (new : String) :
    withExtension ("." ++ "." ++ old) new = ".." := by
  rw [withExtension, stemAndExtension_append (by decide) hold]
  rfl

end GatewayDirectory.Storage
