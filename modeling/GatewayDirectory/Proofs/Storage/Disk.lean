import GatewayDirectory.Storage.Disk

/-!
# Folders on a disk

A folder at the end of a path is a part of the disk in which writes are seen: `Disk.part` reads back
the folder that it set (`folder?_set`). To make the folders along a path again leaves the folder at
its end as it is (`makeFolders_of_folder?`).
-/

namespace GatewayDirectory.Storage.Disk

/-- The children that a folder has as a node make up that folder. -/
@[simp] theorem ofChildren_toList (f : Folder) : Folder.ofChildren f.toList = f :=
  Table.ofList_toList f

variable {disk f : Folder} {name : String} {rest path : List String}

/-- The empty path leads to the disk itself. -/
@[simp] theorem folder?_nil (disk : Folder) : folder? disk [] = some disk := by
  simp [folder?, find, Folder.toNode]

/-- The folder along a path, name by name. -/
theorem folder?_cons : folder? disk (name :: rest) = some f ↔
    isTooLong name = false ∧ ∃ children, disk.get? name = some (.folder children) ∧
      folder? (Folder.ofChildren children) rest = some f := by
  cases hlong : isTooLong name with
  | true =>
    rw [folder?, find.eq_def]
    simp [hlong]
  | false =>
    cases hnode : disk.get? name with
    | none => cases rest <;> simp [folder?, find, hlong, hnode]
    | some node =>
      cases node with
      | file content => cases rest <;> simp [folder?, find, hlong, hnode]
      | folder children => cases rest <;> simp [folder?, find, hlong, hnode, Folder.toNode]

/-- A folder that is put at the end of a path where a folder was is found there. -/
theorem folder?_put (h : folder? disk path = some f) (hpath : path ≠ []) (g : Folder) :
    folder? (put disk g.toNode path) path = some g := by
  induction path generalizing disk with
  | nil => exact absurd rfl hpath
  | cons name rest ih =>
    obtain ⟨hlong, children, hnode, hrest⟩ := folder?_cons.1 h
    rw [folder?_cons]
    cases rest with
    | nil =>
      -- the folder is the entry itself
      refine ⟨hlong, g.toList, ?_, by simp⟩
      rw [put, Table.get?_insert_self]
      rfl
    | cons next rest =>
      -- the folder is further down, in one that is written anew around it
      refine ⟨hlong, (put (Folder.ofChildren children) g.toNode (next :: rest)).toList, ?_, ?_⟩
      · rw [put, hnode, Table.get?_insert_self]
        · rfl
        · simp
      · simpa using ih hrest (by simp)

/-- **What is set as the folder at the end of a path is read back.** -/
theorem folder?_set (h : folder? disk path = some f) (g : Folder) :
    folder? ((part path).set g disk) path = some g := by
  cases path with
  | nil => simp [part]
  | cons name rest => exact folder?_put h (by simp) g

/-- **To make the folders along a path that are there changes nothing at its end.** -/
theorem makeFolders_of_folder? (h : folder? disk path = some f) :
    ∃ disk', makeFolders disk path = .ok disk' ∧ folder? disk' path = some f := by
  induction path generalizing disk with
  | nil => exact ⟨disk, rfl, h⟩
  | cons name rest ih =>
    obtain ⟨hlong, children, hnode, hrest⟩ := folder?_cons.1 h
    obtain ⟨inner, hmade, hinner⟩ := ih hrest
    refine ⟨disk.insert name inner.toNode, ?_, ?_⟩
    · simp only [makeFolders, hlong, hnode, hmade]
      rfl
    · rw [folder?_cons]
      refine ⟨hlong, inner.toList, ?_, by simpa using hinner⟩
      rw [Table.get?_insert_self]
      rfl

end GatewayDirectory.Storage.Disk
