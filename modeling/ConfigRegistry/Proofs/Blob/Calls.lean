import ConfigRegistry.Proofs.Blob.Archives

/-!
The calls by which archives are kept in files. Storing, reading, removing and looking for an archive
are sequences of calls on a file system, whatever this does on each of them; on a tree of files they
are the operations of a directory.
-/
namespace ConfigRegistry.Blob

/-- What can be asked of a file system, which has a state of some type. -/
structure FileSystem (σ : Type) where
  makeDirectories : String → σ → Except FileFault Unit × σ
  create : String → σ → Except FileFault Unit × σ
  fill : String → ByteArray → σ → Except FileFault Unit × σ
  sync : String → σ → Except FileFault Unit × σ
  rename : String → String → σ → Except FileFault Unit × σ
  removeFile : String → σ → Except FileFault Unit × σ
  exists? : String → σ → Bool × σ
  read : String → σ → Except FileFault ByteArray × σ

namespace FileSystem

variable {σ : Type}

def ensureParent (fs : FileSystem σ) (path : String) (s : σ) : Except FileFault Unit × σ :=
  match FileTree.parentPath? path with
  | some parent => fs.makeDirectories parent s
  | none => (.ok (), s)

/-- Writes a whole file and makes sure that it stays. -/
def draft (fs : FileSystem σ) (temporary : String) (data : ByteArray) (s : σ) :
    Except String Unit × σ :=
  match fs.create temporary s with
  | (.error fault, s) =>
    (.error ("Failed to create file " ++ temporary ++ ": " ++ fault.message), s)
  | (.ok (), s) =>
    match fs.fill temporary data s with
    | (.error fault, s) =>
      (.error ("Failed to write file " ++ temporary ++ ": " ++ fault.message), s)
    | (.ok (), s) =>
      match fs.sync temporary s with
      | (.error fault, s) =>
        (.error ("Failed to sync file " ++ temporary ++ ": " ++ fault.message), s)
      | (.ok (), s) => (.ok (), s)

def deliver (fs : FileSystem σ) (temporary path : String) (data : ByteArray) (s : σ) :
    Except String Unit × σ :=
  match fs.draft temporary data s with
  | (.error message, s) => (.error message, s)
  | (.ok (), s) =>
    match fs.rename temporary path s with
    | (.error fault, s) =>
      (.error ("Failed to move " ++ path ++ " into place: " ++ fault.message), s)
    | (.ok (), s) => (.ok (), s)

def invalidKey : Fault := .invalidKey "Storage key contains invalid characters"

/-- Stores an archive. The file that is written first is removed unless it was moved away; that this
fails is not told. -/
def put (fs : FileSystem σ) (base key : String) (data : ByteArray) (mark : String) (s : σ) :
    Except Fault Unit × σ :=
  if Directory.isKey key then
    let path := Directory.join base key
    match fs.ensureParent path s with
    | (.error fault, s) => (.error (.io fault.message), s)
    | (.ok (), s) =>
      let temporary := Directory.temporaryPath path mark
      match fs.deliver temporary path data s with
      | (.error message, s) => (.error (.uploadFailed message), (fs.removeFile temporary s).2)
      | (.ok (), s) => (.ok (), s)
  else (.error invalidKey, s)

def get (fs : FileSystem σ) (base key : String) (s : σ) : Except Fault ByteArray × σ :=
  if Directory.isKey key then
    let path := Directory.join base key
    match fs.exists? path s with
    | (false, s) => (.error (.notFound key), s)
    | (true, s) =>
      match fs.read path s with
      | (.error fault, s) =>
        (.error (.downloadFailed ("Failed to read file " ++ path ++ ": " ++ fault.message)), s)
      | (.ok data, s) => (.ok data, s)
  else (.error invalidKey, s)

def delete (fs : FileSystem σ) (base key : String) (s : σ) : Except Fault Bool × σ :=
  if Directory.isKey key then
    let path := Directory.join base key
    match fs.exists? path s with
    | (false, s) => (.ok false, s)
    | (true, s) =>
      match fs.removeFile path s with
      | (.error fault, s) =>
        (.error (.deleteFailed ("Failed to delete file " ++ path ++ ": " ++ fault.message)), s)
      | (.ok (), s) => (.ok true, s)
  else (.error invalidKey, s)

def contains (fs : FileSystem σ) (base key : String) (s : σ) : Except Fault Bool × σ :=
  if Directory.isKey key then
    let (found, s) := fs.exists? (Directory.join base key) s
    (.ok found, s)
  else (.error invalidKey, s)

end FileSystem

/-! Trees of files. -/

namespace FileTree

variable {t t' : FileTree} {path : String} {data other : ByteArray}

/-- Whether and where a file can be written does not depend on its bytes. -/
theorem write_eq_map (t : FileTree) (path : String) :
    ∃ place : Except FileFault Place, ∀ data, t.write path data =
      place.map fun p => t.set p (.file data) := by
  unfold write
  cases hfind : t.findParent path with
  | error fault => exact ⟨.error fault, fun _ => rfl⟩
  | ok found =>
    obtain ⟨p, last, trailing⟩ := found
    simp only [ok_bind, throw_eq_error, pure_eq_ok]
    by_cases hcondition : (isDots last || trailing) = true
    · refine ⟨.error .isDirectory, fun _ => ?_⟩
      rw [if_pos hcondition]
      rfl
    · simp only [if_neg hcondition]
      split
      · exact ⟨.error .isDirectory, fun _ => rfl⟩
      · exact ⟨.ok (p ++ [last]), fun _ => rfl⟩

theorem write_of_write_ok (h : t.write path data = .ok t') (other : ByteArray) :
    ∃ t'', t.write path other = .ok t'' := by
  obtain ⟨place, hwrite⟩ := write_eq_map t path
  cases place with
  | error fault =>
    rw [hwrite] at h
    contradiction
  | ok p => exact ⟨_, hwrite other⟩

theorem write_of_write_error {fault : FileFault} (h : t.write path data = .error fault)
    (other : ByteArray) : t.write path other = .error fault := by
  obtain ⟨place, hwrite⟩ := write_eq_map t path
  cases place with
  | error fault' =>
    rw [hwrite] at h ⊢
    exact h
  | ok p =>
    rw [hwrite] at h
    contradiction

/-- A file that was written can be written again, and what was there first makes no difference. -/
theorem write_write (h : t.write path data = .ok t') (other : ByteArray) :
    t'.write path other = t.write path other := by
  obtain ⟨p, last, hfind, hdots, hnode, rfl⟩ := write_ok h
  have hplace := append_ne_nil p last
  have hkeeps := keepsDirectories_set_file data hplace hnode
  have hnode' : (t.set (p ++ [last]) (.file data)).node? (p ++ [last]) ≠ some .directory := by
    rw [node?_set t _ hplace, if_pos rfl]
    simp
  rw [write_eq_ok (findParent_mono hkeeps hfind) hdots hnode', write_eq_ok hfind hdots hnode,
    set_set]

/-- Where no file can be written there is none to be removed. -/
theorem removeFile_of_write_error {fault : FileFault} (h : t.write path data = .error fault)
    (t' : FileTree) : t.removeFile path ≠ .ok t' := by
  intro hremove
  obtain ⟨p, last, old, hfind, hdots, hnode, _⟩ := removeFile_ok hremove
  rw [write_eq_ok hfind hdots (by simp [hnode])] at h
  contradiction

end FileTree

namespace FileSystem

def settle (t : FileTree) : Except FileFault FileTree → Except FileFault Unit × FileTree
  | .ok changed => (.ok (), changed)
  | .error fault => (.error fault, t)

/-- A tree of files; what was written stays without further ado. -/
def onTree : FileSystem FileTree where
  makeDirectories path t := t.makeDirectoryPath path
  create path t := settle t (t.write path .empty)
  fill path data t := settle t (t.write path data)
  sync _ t := (.ok (), t)
  rename source target t := settle t (t.rename source target)
  removeFile path t := settle t (t.removeFile path)
  exists? path t := (t.exists? path, t)
  read path t := (t.read path, t)

variable {t : FileTree} {base key mark : String} {data : ByteArray}

theorem onTree_create (path : String) (t : FileTree) :
    onTree.create path t = settle t (t.write path .empty) := rfl

theorem onTree_fill (path : String) (data : ByteArray) (t : FileTree) :
    onTree.fill path data t = settle t (t.write path data) := rfl

theorem onTree_rename (source target : String) (t : FileTree) :
    onTree.rename source target t = settle t (t.rename source target) := rfl

theorem onTree_removeFile (path : String) (t : FileTree) :
    onTree.removeFile path t = settle t (t.removeFile path) := rfl

theorem settle_snd (t : FileTree) (result : Except FileFault FileTree) :
    (settle t result).2 = result.toOption.getD t := by
  cases result with
  | error fault => rfl
  | ok changed => rfl

theorem ensureParent_onTree (path : String) (t : FileTree) :
    onTree.ensureParent path t = t.makeDirectoryPath ((FileTree.parentPath? path).getD "") := by
  unfold ensureParent
  cases FileTree.parentPath? path with
  | none => rfl
  | some parent => rfl

/-- On a tree a file is written at once. -/
theorem draft_onTree (temporary : String) (data : ByteArray) (t : FileTree) :
    onTree.draft temporary data t = match t.write temporary data with
      | .ok written => (.ok (), written)
      | .error fault =>
        (.error ("Failed to create file " ++ temporary ++ ": " ++ fault.message), t) := by
  unfold draft
  rw [onTree_create]
  cases hwrite : t.write temporary data with
  | error fault => rw [FileTree.write_of_write_error hwrite .empty, settle]
  | ok written =>
    obtain ⟨t', hempty⟩ := FileTree.write_of_write_ok hwrite .empty
    rw [hempty, settle]
    simp only [onTree_fill, FileTree.write_write hempty data, hwrite, settle]
    rfl

/-- Run call by call on a tree, a put does what the put of a directory does at once. -/
theorem put_onTree (t : FileTree) (base key : String) (data : ByteArray) (mark : String) :
    onTree.put base key data mark t = ((Directory.put ⟨base, t⟩ key data mark).1,
      (Directory.put ⟨base, t⟩ key data mark).2.tree) := by
  unfold put Directory.put Directory.path
  by_cases hkey : Directory.isKey key = true
  · simp only [if_pos hkey, ensureParent_onTree]
    rcases t.makeDirectoryPath ((FileTree.parentPath? (Directory.join base key)).getD "") with
      ⟨fault | _, tree⟩
    · rfl
    · simp only [deliver, draft_onTree]
      cases hwrite : tree.write (Directory.temporaryPath (Directory.join base key) mark) data with
      | error fault =>
        have hnone := FileTree.removeFile_of_write_error hwrite
        simp only [onTree_removeFile]
        cases hremove :
            tree.removeFile (Directory.temporaryPath (Directory.join base key) mark) with
        | error _ => rfl
        | ok t' => exact absurd hremove (hnone t')
      | ok written =>
        simp only [onTree_rename]
        cases written.rename (Directory.temporaryPath (Directory.join base key) mark)
            (Directory.join base key) with
        | error fault =>
          rw [settle]
          simp only [onTree_removeFile, settle_snd]
        | ok renamed => rfl
  · simp only [if_neg hkey]
    rfl

/-- Likewise for a get, which leaves the tree as it was. -/
theorem get_onTree (t : FileTree) (base key : String) :
    onTree.get base key t = (Directory.get ⟨base, t⟩ key, t) := by
  unfold get Directory.get Directory.path
  by_cases hkey : Directory.isKey key = true
  · simp only [if_pos hkey, ok_bind]
    have hexists : onTree.exists? (Directory.join base key) t =
        (t.exists? (Directory.join base key), t) := rfl
    have hread : onTree.read (Directory.join base key) t =
        (t.read (Directory.join base key), t) := rfl
    rw [hexists]
    cases t.exists? (Directory.join base key) with
    | false => rfl
    | true =>
      simp only [hread]
      cases t.read (Directory.join base key) with
      | error fault => rfl
      | ok data => rfl
  · simp only [if_neg hkey]
    rfl

/-- Likewise for a delete, whose failures leave the tree as it was. -/
theorem delete_onTree (t : FileTree) (base key : String) :
    onTree.delete base key t = match Directory.delete ⟨base, t⟩ key with
      | .ok (removed, d) => (.ok removed, d.tree)
      | .error fault => (.error fault, t) := by
  unfold delete Directory.delete Directory.path
  by_cases hkey : Directory.isKey key = true
  · simp only [if_pos hkey, ok_bind]
    have hexists : onTree.exists? (Directory.join base key) t =
        (t.exists? (Directory.join base key), t) := rfl
    rw [hexists]
    cases t.exists? (Directory.join base key) with
    | false => rfl
    | true =>
      simp only [onTree_removeFile]
      cases t.removeFile (Directory.join base key) with
      | error fault => rfl
      | ok changed => rfl
  · simp only [if_neg hkey]
    rfl

theorem contains_onTree (t : FileTree) (base key : String) :
    onTree.contains base key t = (Directory.contains ⟨base, t⟩ key, t) := by
  unfold contains Directory.contains Directory.path
  by_cases hkey : Directory.isKey key = true
  · simp only [if_pos hkey]
    rfl
  · simp only [if_neg hkey]
    rfl

end FileSystem

end ConfigRegistry.Blob
