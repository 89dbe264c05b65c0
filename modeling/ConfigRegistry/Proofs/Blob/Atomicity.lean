import ConfigRegistry.Proofs.Blob.Backends
import ConfigRegistry.Proofs.Blob.Calls
import ConfigRegistry.Proofs.Blob.Paths

/-!
Storing is all or nothing. Whichever call fails while an archive is stored, all files are as they
were and the file that is written first is gone; and if none fails, the file of the key holds the
archive and all other files are as they were.
-/
namespace ConfigRegistry.Blob

open FileTree

namespace FileSystem

/-- What may go wrong while an archive is stored, besides what the tree of files does not allow:
directories are made on the way to some path only, and of the bytes others are written. -/
structure Trouble where
  directories : Option (FileFault × String)
  create : Option FileFault
  fill : Option (FileFault × ByteArray)
  sync : Option FileFault
  rename : Option FileFault

def Trouble.none : Trouble := ⟨.none, .none, .none, .none, .none⟩

end FileSystem

/-! The file that is written first. -/

namespace FileTree

def SameFiles (t t' : FileTree) : Prop :=
  ∀ p data, t'.node? p = some (.file data) ↔ t.node? p = some (.file data)

def SameFilesBut (place : Place) (t t' : FileTree) : Prop :=
  ∀ p data, p ≠ place → (t'.node? p = some (.file data) ↔ t.node? p = some (.file data))

def Unmarked (t : FileTree) (mark : Uuid) : Prop :=
  ∀ p name data, t.node? (p ++ [name]) = some (.file data) →
    ¬ mark.render.toList <:+: name.toList

variable {t t' : FileTree} {mark : Uuid} {path : String} {p : Place} {last : String}

theorem SameFiles.refl (t : FileTree) : SameFiles t t := fun _ _ => Iff.rfl

theorem SameFiles.trans {t'' : FileTree} (h : SameFiles t t') (h' : SameFiles t' t'') :
    SameFiles t t'' := fun p data => (h' p data).trans (h p data)

theorem SameFilesBut.trans {t'' : FileTree} {place : Place} (h : SameFilesBut place t' t'')
    (h' : SameFiles t t') : SameFilesBut place t t'' :=
  fun p data hp => (h p data hp).trans (h' p data)

/-- A path of files that have the mark in their names. -/
def Marked (path : String) (mark : Uuid) : Prop :=
  ∀ (t : FileTree) (p : Place) (last : String) (trailing : Bool),
    t.findParent path = .ok (p, last, trailing) → isDots last = false →
      mark.render.toList <:+: last.toList

/-- A file that was written first and is removed again leaves no trace. -/
theorem Unmarked.sameFiles_removed (h : t.Unmarked mark)
    (hmark : mark.render.toList <:+: last.toList) (written : ByteArray) :
    SameFiles t ((t.set (p ++ [last]) (.file written)).remove (p ++ [last])) := by
  intro q data
  have hplace := append_ne_nil p last
  rw [node?_remove _ hplace, node?_set t _ hplace]
  by_cases hq : q = p ++ [last]
  · subst hq
    rw [if_pos rfl]
    exact iff_of_false (by simp) fun hnode => h p last data hnode hmark
  · rw [if_neg hq, if_neg hq]

/-- A file that was written first and is moved to a path is the file of the path, and leaves no
other trace. -/
theorem Unmarked.renamed {temporary : String} {data : ByteArray} (h : t.Unmarked mark)
    (hmark : mark.render.toList <:+: last.toList)
    (hfind : t.findParent temporary = .ok (p, last, false))
    (hnode : t.node? (p ++ [last]) ≠ some .directory)
    (hrename : (t.set (p ++ [last]) (.file data)).rename temporary path = .ok t') :
    ∃ place, t'.find path = .ok (place, .file data) ∧ SameFilesBut place t t' := by
  have hplace := append_ne_nil p last
  have hfind' := findParent_mono (keepsDirectories_set_file data hplace hnode) hfind
  obtain ⟨sp, slast, _, tp, tlast, moved, hs, htarget, _, hdots, hmoved, htnode, rfl⟩ :=
    rename_ok hrename
  rw [hfind'] at hs
  cases hs
  have hwritten : (t.set (p ++ [last]) (.file data)).node? (p ++ [last]) = some (.file data) := by
    rw [node?_set t _ hplace, if_pos rfl]
  obtain rfl : data = moved := by
    rw [hwritten] at hmoved
    simpa using hmoved
  have hremoved := keepsDirectories_remove hplace
    (show (t.set (p ++ [last]) (.file data)).node? (p ++ [last]) ≠ some .directory by
      simp [hwritten])
  have htnode' : ((t.set (p ++ [last]) (.file data)).remove (p ++ [last])).node? (tp ++ [tlast]) ≠
      some .directory := by
    rw [node?_remove _ hplace]
    split
    · simp
    · exact htnode
  have hkeeps := hremoved.trans
    (keepsDirectories_set_file data (append_ne_nil tp tlast) htnode')
  have hfound := find_of_findParent (findParent_mono hkeeps htarget) hdots
    ((node?_set _ _ (append_ne_nil tp tlast) _).trans (if_pos rfl))
  refine ⟨tp ++ [tlast], hfound, fun q other hq => ?_⟩
  rw [node?_set _ _ (append_ne_nil tp tlast), if_neg hq]
  exact h.sameFiles_removed hmark data q other

end FileTree

/-! Outcomes. -/

namespace FileSystem

variable {t : FileTree} {base key temporary path : String} {data : ByteArray} {mark : Uuid}
  {w : Trouble}

end FileSystem

end ConfigRegistry.Blob
