import ConfigRegistry.Proofs.Blob.Archives

/-!
Directories in which nothing stands in the way of an archive. Below the base there is at most the
directory of the archives, and in it there are only files. As long as paths are not too long, every
archive can be stored and removed there, and the directory stays as it should be.
-/
namespace ConfigRegistry.Blob

open FileTree

/-- Nothing stands in the way of an archive. -/
structure Directory.Tidy (d : Directory) (root : Place) : Prop where
  tree : d.tree.IsTree
  rooted : d.Rooted root
  /-- The base can be the front of a path. -/
  nul : '\x00' ∉ d.base.toList
  configs : ∀ data, d.tree.node? (root ++ ["configs"]) ≠ some (.file data)
  entry : ∀ name, d.tree.node? (entryPlace root name) ≠ some .directory

variable {base id name : String} {t t' : FileTree} {root : Place} {mark : Uuid}

/-! Paths that can be followed. -/

theorem ofPath_eq_ok {path : String} (hnul : '\x00' ∉ path.toList) (hempty : path ≠ "")
    (hsize : path.utf8ByteSize ≤ maxPath) :
    Route.ofPath path = .ok ⟨path.startsWith "/", namesOf path, path.endsWith "/"⟩ := by
  simp [Route.ofPath, hnul, hempty, Nat.not_lt.mpr hsize]

theorem size_of_ofPath {path : String} {r : Route}
    (h : Route.ofPath path = .ok r) : path.utf8ByteSize ≤ maxPath := by
  unfold Route.ofPath at h
  split at h
  · contradiction
  · split at h
    · contradiction
    · split at h
      · contradiction
      · next hsize => exact Nat.not_lt.mp hsize

theorem nul_not_mem_configsPath (hnul : '\x00' ∉ base.toList) :
    '\x00' ∉ (configsPath base).toList := by
  unfold configsPath Directory.join
  split <;> simp [hnul]

theorem ofPath_configsPath (hnul : '\x00' ∉ base.toList)
    (hsize : (configsPath base).utf8ByteSize ≤ maxPath) :
    Route.ofPath (configsPath base) =
      .ok ⟨base.startsWith "/", namesOf base ++ ["configs"], false⟩ := by
  have hend : (configsPath base).endsWith "/" = false := by
    rw [endsWith_slash]
    unfold configsPath Directory.join
    split <;> simp [List.getLast?_append]
  have hempty : configsPath base ≠ "" := by
    unfold configsPath Directory.join
    split <;> simp
  have hstart : (configsPath base).startsWith "/" = base.startsWith "/" :=
    startsWith_join base (by rw [startsWith_slash]; decide)
  rw [ofPath_eq_ok (nul_not_mem_configsPath hnul) hempty hsize, hend, hstart, configsPath,
    namesOf_join, namesOf_configs]

theorem utf8ByteSize_entryPath (base name : String) :
    (entryPath base name).utf8ByteSize =
      (configsPath base).utf8ByteSize + 1 + name.utf8ByteSize := by
  have hslash : "/".utf8ByteSize = 1 := by decide
  rw [entryPath_eq, String.utf8ByteSize_append, String.utf8ByteSize_append, hslash]

theorem ofPath_entryPath_eq (hname : IsName name) (hnul : '\x00' ∉ base.toList)
    (hnul' : '\x00' ∉ name.toList) (hsize : (entryPath base name).utf8ByteSize ≤ maxPath) :
    Route.ofPath (entryPath base name) =
      .ok ⟨base.startsWith "/", namesOf base ++ ["configs", name], false⟩ := by
  have hnone : '\x00' ∉ (entryPath base name).toList := by
    simp [entryPath_eq, nul_not_mem_configsPath hnul, hnul']
  have hempty : entryPath base name ≠ "" := by simp [entryPath_eq]
  rw [ofPath_eq_ok hnone hempty hsize, startsWith_entryPath, namesOf_entryPath hname,
    endsWith_entryPath hname]

/-- The file of an archive, and the one that is written first, can have their paths. -/
structure Roomy (base id : String) (mark : Uuid) : Prop where
  valid : isId id = true
  short : id.length ≤ 150
  fits : (entryPath base (draftName id mark.render)).utf8ByteSize ≤ maxPath

theorem size_archiveName (h : isId id = true) :
    (archiveName id).utf8ByteSize = id.length + 7 := by
  have hending : ".tar.gz".utf8ByteSize = 7 := by decide
  rw [archiveName, String.utf8ByteSize_append, utf8ByteSize_of_isId h, hending]

theorem size_draftName (h : isId id = true) (mark : Uuid) :
    (draftName id mark.render).utf8ByteSize = id.length + 45 := by
  have hmiddle : ".tar.tmp-".utf8ByteSize = 9 := by decide
  rw [draftName, String.utf8ByteSize_append, String.utf8ByteSize_append, utf8ByteSize_of_isId h,
    utf8ByteSize_render, hmiddle]

theorem nul_not_mem_archiveName (h : isId id = true) : '\x00' ∉ (archiveName id).toList := by
  have hnul := not_mem_of_isId h (c := '\x00') (by decide)
  simp [archiveName, hnul]

theorem nul_not_mem_draftName (h : isId id = true) (mark : Uuid) :
    '\x00' ∉ (draftName id mark.render).toList := by
  have hnul := not_mem_of_isId h (c := '\x00') (by decide)
  have hmark := not_mem_render mark (c := '\x00') (by decide) (by decide)
  simp [draftName, hnul, hmark]

theorem Roomy.fits_archive (h : Roomy base id mark) :
    (entryPath base (archiveName id)).utf8ByteSize ≤ maxPath := by
  have hfits := h.fits
  rw [utf8ByteSize_entryPath, size_draftName h.valid] at hfits
  rw [utf8ByteSize_entryPath, size_archiveName h.valid]
  omega

theorem Roomy.fits_configs (h : Roomy base id mark) :
    (configsPath base).utf8ByteSize ≤ maxPath := by
  have hfits := h.fits_archive
  rw [utf8ByteSize_entryPath] at hfits
  omega

/-! Keys of archives are keys of files. -/

theorem hasDots_append_of_not_mem {l : List Char} (h : '.' ∉ l) (rest : List Char) :
    Directory.hasDots (l ++ rest) = Directory.hasDots rest := by
  induction l with
  | nil => rfl
  | cons c l ih =>
    obtain ⟨hc, hl⟩ := List.ne_and_not_mem_of_not_mem_cons h
    rw [List.cons_append, Directory.hasDots]
    · exact ih hl
    · rintro _ heq
      exact absurd heq.symm hc

/-- The archive of an identifier has a key that is accepted. -/
theorem isKey_archive (h : isId id = true) :
    Directory.isKey ("configs/" ++ archiveName id) = true := by
  have hdot : '.' ∉ "configs/".toList ++ id.toList := by
    have hid := not_mem_of_isId h (c := '.') (by decide)
    simp [hid]
  have hdots : Directory.hasDots ("configs/" ++ archiveName id).toList = false := by
    rw [archiveName, String.toList_append, String.toList_append, ← List.append_assoc,
      hasDots_append_of_not_mem hdot]
    decide
  have hslash : ("configs/" ++ archiveName id).startsWith "/" = false := by
    rw [startsWith_slash]
    simp
  have hempty : ("configs/" ++ archiveName id).isEmpty = false := by
    rw [← Bool.not_eq_true, String.isEmpty_iff]
    simp
  rw [Directory.isKey, hempty, hdots, hslash]
  rfl

/-! Following paths in a tidy directory. -/

theorem Directory.Tidy.findParent_configs (h : Directory.Tidy ⟨base, t⟩ root)
    (hsize : (configsPath base).utf8ByteSize ≤ maxPath) :
    t.findParent (configsPath base) = .ok (root, "configs", false) :=
  findParent_eq_ok_iff.mpr ⟨_, ofPath_configsPath h.nul hsize,
    by simpa [FileTree.start] using h.rooted.walk, h.rooted.directory, by decide, by simp, rfl⟩

/-- In a tidy directory every name that a file can have is found where it is looked for. -/
theorem Directory.Tidy.findParent_entryPath (h : Directory.Tidy ⟨base, t⟩ root)
    (hconfigs : t.node? (root ++ ["configs"]) = some .directory) (hname : IsName name)
    (hnul : '\x00' ∉ name.toList) (hsize : (entryPath base name).utf8ByteSize ≤ maxPath)
    (hshort : name.utf8ByteSize ≤ maxName) :
    t.findParent (entryPath base name) = .ok (root ++ ["configs"], name, false) := by
  have hsplit : namesOf base ++ ["configs", name] = (namesOf base ++ ["configs"]) ++ [name] := by
    simp
  have hwalk : (namesOf base ++ ["configs"]).foldlM t.enter
      (if base.startsWith "/" then [] else t.working) = .ok (root ++ ["configs"]) := by
    rw [List.foldlM_append, h.rooted.walk, ok_bind, List.foldlM_cons,
      enter_eq_append h.rooted.directory (by decide) (by decide)]
    rfl
  refine findParent_eq_ok_iff.mpr
    ⟨_, ofPath_entryPath_eq hname h.nul hnul hsize, ?_, hconfigs, hshort, ?_, rfl⟩
  · rw [hsplit, List.dropLast_concat]
    exact hwalk
  · simp

theorem Directory.Tidy.isDirectory_configs (h : Directory.Tidy ⟨base, t⟩ root)
    (hconfigs : t.node? (root ++ ["configs"]) = some .directory)
    (hsize : (configsPath base).utf8ByteSize ≤ maxPath) :
    t.isDirectory (configsPath base) = true := by
  have hfind : t.find (configsPath base) = .ok (root ++ ["configs"], .directory) := by
    refine find_eq_ok_iff.mpr ⟨_, ofPath_configsPath h.nul hsize, ?_, hconfigs⟩
    show (namesOf base ++ ["configs"]).foldlM t.enter
      (if base.startsWith "/" then [] else t.working) = _
    rw [List.foldlM_append, h.rooted.walk, ok_bind, List.foldlM_cons,
      enter_eq_append h.rooted.directory (by decide) (by decide)]
    rfl
  simp [FileTree.isDirectory, hfind]

/-! Changes that keep a directory tidy. -/

/-- A new directory for the archives. -/
theorem Directory.Tidy.set_configs (h : Directory.Tidy ⟨base, t⟩ root)
    (hnone : t.node? (root ++ ["configs"]) = none) :
    Directory.Tidy ⟨base, t.set (root ++ ["configs"]) .directory⟩ root := by
  have hplace : root ++ ["configs"] ≠ [] := append_ne_nil root "configs"
  have hgrows := grows_set hplace hnone
  refine ⟨h.tree.set h.rooted.directory hgrows.keepsDirectories,
    h.rooted.mono hgrows.keepsDirectories, h.nul, fun data => ?_, fun name => ?_⟩
  · rw [node?_set _ _ hplace, if_pos rfl]
    simp
  · have hother : entryPlace root name ≠ root ++ ["configs"] := by simp [entryPlace]
    rw [node?_set _ _ hplace, if_neg hother]
    exact h.entry name

/-- A file among the archives. -/
theorem Directory.Tidy.set_entry (h : Directory.Tidy ⟨base, t⟩ root)
    (hconfigs : t.node? (root ++ ["configs"]) = some .directory) (name : String)
    (data : ByteArray) : Directory.Tidy ⟨base, t.set (entryPlace root name) (.file data)⟩ root := by
  have halters := alters_set h.tree data hconfigs (h.entry name)
  have hplace : entryPlace root name ≠ [] := append_ne_nil _ name
  refine ⟨halters.tree, h.rooted.mono halters.keeps, h.nul, fun other => ?_, fun other => ?_⟩
  · have hother : root ++ ["configs"] ≠ entryPlace root name := by simp [entryPlace]
    rw [node?_set _ _ hplace, if_neg hother]
    exact h.configs other
  · rw [node?_set _ _ hplace]
    split
    · simp
    · exact h.entry other

/-- A file less among the archives. -/
theorem Directory.Tidy.remove_entry (h : Directory.Tidy ⟨base, t⟩ root) (name : String) :
    Directory.Tidy ⟨base, t.remove (entryPlace root name)⟩ root := by
  have hplace : entryPlace root name ≠ [] := append_ne_nil _ name
  have halters := alters_remove h.tree hplace (h.entry name)
  refine ⟨halters.tree, h.rooted.mono halters.keeps, h.nul, fun data => ?_, fun other => ?_⟩
  · rw [node?_remove _ hplace]
    split
    · simp
    · exact h.configs data
  · rw [node?_remove _ hplace]
    split
    · simp
    · exact h.entry other

/-- The directory of the archives can be made, or is there already. -/
theorem Directory.Tidy.makeDirectoryPath_configs (h : Directory.Tidy ⟨base, t⟩ root)
    (hsize : (configsPath base).utf8ByteSize ≤ maxPath) :
    ∃ t', t.makeDirectoryPath (configsPath base) = (.ok (), t') ∧
      Directory.Tidy ⟨base, t'⟩ root ∧ t'.node? (root ++ ["configs"]) = some .directory := by
  have hparent := h.findParent_configs hsize
  have hempty : (configsPath base).isEmpty = false := by
    rw [← Bool.not_eq_true, String.isEmpty_iff]
    unfold configsPath Directory.join
    split <;> simp
  have hdots : isDots "configs" = false := by decide
  unfold makeDirectoryPath makeDirectories
  simp only [hempty, Bool.false_eq_true, if_false]
  cases hnode : t.node? (root ++ ["configs"]) with
  | none =>
    have hmade : t.makeDirectory (configsPath base) =
        .ok (t.set (root ++ ["configs"]) .directory) := by
      simp [makeDirectory, hparent, hdots, hnode]
    simp only [hmade]
    refine ⟨_, rfl, h.set_configs hnode, ?_⟩
    rw [node?_set _ _ (append_ne_nil root "configs"), if_pos rfl]
  | some n =>
    cases n with
    | file data => exact absurd hnode (h.configs data)
    | directory =>
      have hmade : t.makeDirectory (configsPath base) = .error .exists := by
        simp [makeDirectory, hparent, hdots, hnode]
      simp only [hmade, h.isDirectory_configs hnode hsize, if_true]
      exact ⟨t, rfl, h, hnode⟩

theorem Directory.Tidy.write_ok (h : Directory.Tidy ⟨base, t⟩ root) (data : ByteArray)
    (hdots : isDots name = false)
    (hpath : t.findParent (entryPath base name) = .ok (root ++ ["configs"], name, false)) :
    t.write (entryPath base name) data = .ok (t.set (entryPlace root name) (.file data)) :=
  write_eq_ok hpath hdots (h.entry name)

/-- Moving a draft to its key leaves the bytes there and nothing under the name of the draft. -/
theorem Directory.Tidy.rename_ok (h : Directory.Tidy ⟨base, t⟩ root) {data : ByteArray}
    {other : String} (hdots : isDots name = false) (hdots' : isDots other = false)
    (hpath : t.findParent (entryPath base name) = .ok (root ++ ["configs"], name, false))
    (hpath' : t.findParent (entryPath base other) = .ok (root ++ ["configs"], other, false))
    (hfile : t.node? (entryPlace root name) = some (.file data)) :
    t.rename (entryPath base name) (entryPath base other) =
      .ok ((t.remove (entryPlace root name)).set (entryPlace root other) (.file data)) := by
  have hnode := h.entry other
  rw [entryPlace] at hnode hfile ⊢
  simp only [FileTree.rename, hpath, hpath', ok_bind, hdots, hdots', Bool.or_self,
    Bool.false_eq_true, if_false, hfile]
  rfl

/-! Calls. -/

theorem path_archive (d : Directory) (h : isId id = true) :
    d.path ("configs/" ++ archiveName id) = .ok (entryPath d.base (archiveName id)) :=
  path_eq_ok_iff.mpr ⟨isKey_archive h, rfl⟩

theorem isDots_draftName (id mark : String) : isDots (draftName id mark) = false := by
  apply isDots_of_length
  have hmiddle : ".tar.tmp-".length = 9 := rfl
  simp only [draftName, String.length_append]
  omega

theorem isName_draft (h : isId id = true) (mark : Uuid) : IsName (draftName id mark.render) :=
  isName_draftName h (slash_not_mem_render mark)

/-- Storing an archive succeeds, and keeps the directory tidy. -/
theorem Directory.Tidy.put_ok (h : Directory.Tidy ⟨base, t⟩ root) (hroom : Roomy base id mark)
    (data : ByteArray) :
    ∃ t', Directory.put ⟨base, t⟩ ("configs/" ++ archiveName id) data mark.render =
        (.ok (), ⟨base, t'⟩) ∧ Directory.Tidy ⟨base, t'⟩ root := by
  have hid := hroom.valid
  have hshort := hroom.short
  have hdraftDots := isDots_draftName id mark.render
  have harchiveDots := isDots_archiveName id
  have hdraftShort : (draftName id mark.render).utf8ByteSize ≤ maxName := by
    rw [size_draftName hid, maxName]
    omega
  have harchiveShort : (archiveName id).utf8ByteSize ≤ maxName := by
    rw [size_archiveName hid, maxName]
    omega
  obtain ⟨made, hmade, htidy, hconfigs⟩ := h.makeDirectoryPath_configs hroom.fits_configs
  -- The archive is written under the other name.
  have hdraftPath := htidy.findParent_entryPath hconfigs (isName_draft hid mark)
    (nul_not_mem_draftName hid mark) hroom.fits hdraftShort
  have hwrite := htidy.write_ok data hdraftDots hdraftPath
  have hwritten := htidy.set_entry hconfigs (draftName id mark.render) data
  have hdraftPlace : entryPlace root (draftName id mark.render) ≠ [] := append_ne_nil _ _
  have hfile : (made.set (entryPlace root (draftName id mark.render)) (.file data)).node?
      (entryPlace root (draftName id mark.render)) = some (.file data) := by
    rw [node?_set _ _ hdraftPlace, if_pos rfl]
  have hconfigs' : (made.set (entryPlace root (draftName id mark.render)) (.file data)).node?
      (root ++ ["configs"]) = some .directory :=
    (alters_set htidy.tree data hconfigs (htidy.entry _)).keeps.directory _ hconfigs
  -- Then it gets its own name.
  have hdraftPath' := hwritten.findParent_entryPath hconfigs' (isName_draft hid mark)
    (nul_not_mem_draftName hid mark) hroom.fits hdraftShort
  have harchivePath := hwritten.findParent_entryPath hconfigs' (isName_archiveName hid)
    (nul_not_mem_archiveName hid) hroom.fits_archive harchiveShort
  have hrename := hwritten.rename_ok hdraftDots harchiveDots hdraftPath' harchivePath hfile
  have hremoved := hwritten.remove_entry (draftName id mark.render)
  have hconfigs'' := (alters_remove hwritten.tree hdraftPlace (hwritten.entry _)).keeps.directory _
    hconfigs'
  refine ⟨_, ?_, hremoved.set_entry hconfigs'' (archiveName id) data⟩
  rw [Directory.put, path_archive _ hid]
  simp only [parentPath?_archive base hid, Option.getD_some, hmade,
    temporaryPath_archive base mark.render hid, hwrite, hrename]

theorem findParent_of_size {path : String} (t : FileTree) (h : maxPath < path.utf8ByteSize)
    (found : Place × String × Bool) : t.findParent path ≠ .ok found := by
  intro hfind
  obtain ⟨r, hr, _⟩ := findParent_eq_ok_iff.mp hfind
  have hsize := size_of_ofPath hr
  omega

/-- Nothing is stored if the file that is written first cannot have its path. -/
theorem Directory.put_ne_ok {key mark : String} (d : Directory) (data : ByteArray)
    (h : maxPath < (Directory.temporaryPath (Directory.join d.base key) mark).utf8ByteSize) :
    (d.put key data mark).1 ≠ .ok () := by
  unfold Directory.put
  split
  · simp
  · next path hpath =>
    obtain ⟨_, rfl⟩ := path_eq_ok_iff.mp hpath
    split
    · simp
    · next made _ =>
      simp only
      split
      · simp
      · next written hwritten =>
        obtain ⟨p, last, hfind, _⟩ := FileTree.write_ok hwritten
        exact absurd hfind (findParent_of_size made h _)

/-- Something stands under the path of an archive exactly if there is an archive. -/
theorem Directory.Tidy.exists?_archive {d : Directory} (h : d.Tidy root) (hid : isId id = true) :
    d.tree.exists? (entryPath d.base (archiveName id)) =
      ((Store.directory d).archive? id).isSome := by
  cases hfind : d.tree.find (entryPath d.base (archiveName id)) with
  | ok found =>
    obtain ⟨p, n⟩ := found
    obtain ⟨_, _, rfl, hnode⟩ := (find_entryPath_iff h.tree h.rooted (isName_archiveName hid)
      (isDots_archiveName id)).mp hfind
    cases n with
    | directory => exact absurd hnode (h.entry _)
    | file data =>
      have harchive := (archive?_eq_some_iff_find hid).mpr ⟨isKey_archive hid, _, hfind⟩
      rw [harchive]
      simp [exists?, hfind, Except.toOption]
  | error fault =>
    have hnone : (Store.directory d).archive? id = none := by
      rw [Option.eq_none_iff_forall_ne_some]
      intro data hdata
      obtain ⟨_, p, hfound⟩ := (archive?_eq_some_iff_find hid).mp hdata
      rw [hfind] at hfound
      contradiction
    rw [hnone]
    simp [exists?, hfind, Except.toOption]

theorem Directory.Tidy.get_archive {d : Directory} (h : d.Tidy root) (hid : isId id = true) :
    d.get ("configs/" ++ archiveName id) = ((Store.directory d).archive? id).elim
      (.error (.notFound ("configs/" ++ archiveName id))) .ok := by
  cases harchive : (Store.directory d).archive? id with
  | some data =>
    obtain ⟨hkey, hfind⟩ := (archive?_eq_some_iff_find hid).mp harchive
    exact Directory.get_eq_ok_iff.mpr ⟨hkey, hfind⟩
  | none =>
    have hexists := h.exists?_archive hid
    rw [harchive] at hexists
    simp [Directory.get, path_archive d hid, hexists]

/-- Removing an archive succeeds, and keeps the directory tidy. -/
theorem Directory.Tidy.delete_ok (h : Directory.Tidy ⟨base, t⟩ root) (hid : isId id = true) :
    ∃ removed t', Directory.delete ⟨base, t⟩ ("configs/" ++ archiveName id) =
        .ok (removed, ⟨base, t'⟩) ∧ Directory.Tidy ⟨base, t'⟩ root := by
  have hexists := h.exists?_archive hid
  cases harchive : (Store.directory ⟨base, t⟩).archive? id with
  | none =>
    rw [harchive] at hexists
    exact ⟨false, t, by simp [Directory.delete, path_archive _ hid, hexists], h⟩
  | some data =>
    rw [harchive] at hexists
    obtain ⟨hopen, hfile⟩ := (archive?_directory h.tree h.rooted hid).mp harchive
    have hfile' : t.node? (root ++ ["configs"] ++ [archiveName id]) = some (.file data) := hfile
    have hconfigs : t.node? (root ++ ["configs"]) = some .directory :=
      h.tree.parent _ (archiveName id) (hfile' ▸ Option.some_ne_none _)
    obtain ⟨r, hr⟩ := hopen.route
    have hpath := h.findParent_entryPath hconfigs (isName_archiveName hid)
      (nul_not_mem_archiveName hid) (size_of_ofPath hr) hopen.size
    have hremove : t.removeFile (entryPath base (archiveName id)) =
        .ok (t.remove (entryPlace root (archiveName id))) :=
      removeFile_eq_ok hpath (isDots_archiveName id) hfile
    exact ⟨true, _, by simp [Directory.delete, path_archive _ hid, hexists, hremove],
      h.remove_entry (archiveName id)⟩

/-! Fresh directories. -/

def Directory.IsFresh (d : Directory) : Prop :=
  ∃ root, d.Rooted root ∧ ∀ name, d.tree.node? (root ++ [name]) = none

/-- A directory that is there is not made again. -/
theorem makeDirectory_of_find {path : String} {p : Place} (h : t.find path = .ok (p, .directory)) :
    t.makeDirectory path ≠ .ok t' := by
  intro hmake
  obtain ⟨q, last, trailing, hparent, hdots, hnone, _⟩ := makeDirectory_ok hmake
  obtain ⟨r, hr, hwalk, hnode⟩ := find_eq_ok_iff.mp h
  obtain ⟨r', hr', hparents, _, hsize, hlast, _⟩ := findParent_eq_ok_iff.mp hparent
  obtain rfl : r = r' := Except.ok.inj (hr.symm.trans hr')
  -- The last name of the path leads to the place in which nothing stands.
  have hnames : r.names = r.names.dropLast ++ [last] := by
    cases hlast' : r.names.getLast? with
    | none =>
      rw [hlast'] at hlast
      rw [hlast] at hdots
      contradiction
    | some name =>
      obtain ⟨front, hfront⟩ := List.getLast?_eq_some_iff.mp hlast'
      rw [hlast', Option.getD_some] at hlast
      rw [hlast, hfront, List.dropLast_concat]
  have hwalked : r.names.foldlM t.enter (t.start r) = t.enter q last := by
    rw [hnames, List.foldlM_append, hparents, ok_bind, List.foldlM_cons]
    cases t.enter q last <;> rfl
  cases htrailing : r.trailing with
  | false =>
    rw [Route.walked, htrailing, if_neg Bool.false_ne_true, hwalked] at hwalk
    rw [(enter_ok hwalk).2.2 hdots, hnone] at hnode
    contradiction
  | true =>
    rw [Route.walked, htrailing, if_pos rfl, List.foldlM_append, hwalked] at hwalk
    obtain ⟨q', hq', hdot⟩ := bind_eq_ok.mp hwalk
    obtain ⟨q'', hq'', _⟩ := bind_eq_ok.mp hdot
    have hdirectory := (enter_ok hq'').1
    rw [(enter_ok hq').2.2 hdots, hnone] at hdirectory
    contradiction

theorem make_of_find {p : Place} (h : t.find base = .ok (p, .directory)) :
    Directory.make base t = .ok ⟨base, t⟩ := by
  have hdirectory : t.isDirectory base = true := by simp [isDirectory, h]
  have hpath : t.makeDirectoryPath base = (.ok (), t) := by
    unfold makeDirectoryPath makeDirectories
    split
    · rfl
    · cases hmake : t.makeDirectory base with
      | ok t' => exact absurd hmake (makeDirectory_of_find h)
      | error fault => rfl
  simp [Directory.make, hpath]

theorem base_of_make {d : Directory} (h : Directory.make base t = .ok d) : d.base = base := by
  unfold Directory.make at h
  split at h
  · exact congrArg Directory.base (Except.ok.inj h).symm
  · contradiction

/-- No directory can be made under a path that no file can have. -/
theorem nul_not_mem_of_make {d : Directory} (h : Directory.make base t = .ok d) :
    '\x00' ∉ base.toList := by
  intro hnul
  have hpath : Route.ofPath base = .error .nul := by simp [Route.ofPath, hnul]
  have hempty : base.isEmpty = false := by
    rw [← Bool.not_eq_true, String.isEmpty_iff]
    rintro rfl
    simp at hnul
  have hmake : t.makeDirectory base = .error .nul := by
    simp [makeDirectory, findParent, hpath]
  have hdirectory : t.isDirectory base = false := by
    simp [isDirectory, FileTree.find, hpath]
  simp [Directory.make, makeDirectoryPath, makeDirectories, hempty, hmake, hdirectory] at h

/-- A fresh directory is tidy as soon as it is made. -/
theorem Directory.IsFresh.tidy {d : Directory} (hfresh : d.IsFresh) (ht : t.IsTree)
    (h : Directory.make base t = .ok d) : ∃ root, d.Tidy root := by
  obtain ⟨root, hrooted, hnone⟩ := hfresh
  have htree := (rooted_of_make ht h).1
  refine ⟨root, htree, hrooted, base_of_make h ▸ nul_not_mem_of_make h, fun data => ?_,
    fun name hnode => ?_⟩
  · rw [hnone]
    simp
  · have hconfigs := htree.parent (root ++ ["configs"]) name (by
      rw [entryPlace] at hnode
      rw [hnode]
      simp)
    rw [hnone] at hconfigs
    contradiction

/-- A fresh directory holds no archives. -/
theorem Directory.IsFresh.archive?_eq_none {d : Directory} (hfresh : d.IsFresh)
    (ht : d.tree.IsTree) (hid : isId id = true) : (Store.directory d).archive? id = none := by
  obtain ⟨root, hrooted, hnone⟩ := hfresh
  rw [Option.eq_none_iff_forall_ne_some]
  intro data hdata
  obtain ⟨_, hfile⟩ := (archive?_directory ht hrooted hid).mp hdata
  have hfile' : d.tree.node? (root ++ ["configs"] ++ [archiveName id]) = some (.file data) := hfile
  have hconfigs := ht.parent _ (archiveName id) (hfile' ▸ Option.some_ne_none _)
  rw [hnone] at hconfigs
  contradiction

end ConfigRegistry.Blob
