import ConfigRegistry.Proofs.Blob.Names

/-!
What the operations of a directory of archives do to its tree. Each of them alters files in few
places and keeps all directories; a directory that was opened leads to one place for good.
-/
namespace ConfigRegistry.Blob

open FileTree

/-- A later tree that has all directories of an earlier one, and its files but for some places. -/
structure FileTree.Alters (t t' : FileTree) (places : List Place) : Prop where
  tree : t'.IsTree
  keeps : KeepsDirectories t t'
  file : ∀ p, p ∉ places → ∀ data, t'.node? p = some (.file data) ↔ t.node? p = some (.file data)

namespace FileTree

theorem Alters.refl {t : FileTree} (ht : t.IsTree) : Alters t t [] :=
  ⟨ht, (Grows.refl t).keepsDirectories, fun _ _ _ => Iff.rfl⟩

theorem Alters.mono {t t' : FileTree} {places more : List Place} (h : Alters t t' places)
    (hmore : ∀ p ∈ places, p ∈ more) : Alters t t' more :=
  ⟨h.tree, h.keeps, fun p hp => h.file p fun hmem => hp (hmore p hmem)⟩

theorem KeepsDirectories.trans {t t' t'' : FileTree} (h : KeepsDirectories t t')
    (h' : KeepsDirectories t' t'') : KeepsDirectories t t'' :=
  ⟨h'.working.trans h.working, fun p hp => h'.directory p (h.directory p hp)⟩

theorem Alters.trans {t t' t'' : FileTree} {places more : List Place} (h : Alters t t' places)
    (h' : Alters t' t'' more) : Alters t t'' (places ++ more) where
  tree := h'.tree
  keeps := h.keeps.trans h'.keeps
  file p hp data := by
    rw [List.mem_append, not_or] at hp
    exact (h'.file p hp.2 data).trans (h.file p hp.1 data)

theorem Grows.alters {t t' : FileTree} (ht : t'.IsTree) (h : Grows t t') : Alters t t' [] :=
  ⟨ht, h.keepsDirectories, fun p _ data => h.file_iff p data⟩

theorem makeDirectoryPath_alters {t : FileTree} (ht : t.IsTree) (path : String) :
    Alters t (t.makeDirectoryPath path).2 [] :=
  have h := makeDirectories_grows (path.length + 1) ht path
  h.2.alters h.1

theorem alters_set {t : FileTree} (ht : t.IsTree) {p : Place} {name : String} (data : ByteArray)
    (hp : t.node? p = some .directory) (hnode : t.node? (p ++ [name]) ≠ some .directory) :
    Alters t (t.set (p ++ [name]) (.file data)) [p ++ [name]] where
  tree := ht.set hp (keepsDirectories_set_file data (append_ne_nil p name) hnode)
  keeps := keepsDirectories_set_file data (append_ne_nil p name) hnode
  file q hq other := by
    rw [node?_set _ _ (append_ne_nil p name), if_neg (by simpa using hq)]

theorem alters_remove {t : FileTree} (ht : t.IsTree) {p : Place} (hp : p ≠ [])
    (hnode : t.node? p ≠ some .directory) : Alters t (t.remove p) [p] where
  tree := ht.remove hp hnode
  keeps := keepsDirectories_remove hp hnode
  file q hq other := by rw [node?_remove _ hp, if_neg (by simpa using hq)]

end FileTree

/-! Archives among the files. -/

variable {base name id : String} {t t' : FileTree} {root : Place}

/-- The place of an entry is where its path ends. -/
theorem entryPlace_of_findParent {p : Place} {last : String} {trailing : Bool}
    (hroot : Directory.Rooted ⟨base, t⟩ root) (hname : IsName name)
    (h : t.findParent (entryPath base name) = .ok (p, last, trailing)) :
    p ++ [last] = entryPlace root name := by
  obtain ⟨rfl, rfl, _⟩ := findParent_entryPath hroot hname h
  rfl

theorem write_entry {data : ByteArray} (ht : t.IsTree) (hroot : Directory.Rooted ⟨base, t⟩ root)
    (hname : IsName name) (h : t.write (entryPath base name) data = .ok t') :
    Alters t t' [entryPlace root name] ∧ t'.node? (entryPlace root name) = some (.file data) := by
  obtain ⟨p, last, hfind, _, hnode, rfl⟩ := write_ok h
  obtain ⟨_, _, _, hp, _⟩ := findParent_eq_ok_iff.mp hfind
  rw [← entryPlace_of_findParent hroot hname hfind]
  refine ⟨alters_set ht data hp hnode, ?_⟩
  rw [node?_set _ _ (append_ne_nil p last), if_pos rfl]

theorem removeFile_entry (ht : t.IsTree) (hroot : Directory.Rooted ⟨base, t⟩ root)
    (hname : IsName name) (h : t.removeFile (entryPath base name) = .ok t') :
    Alters t t' [entryPlace root name] ∧ t'.node? (entryPlace root name) = none := by
  obtain ⟨p, last, data, hfind, _, hnode, rfl⟩ := removeFile_ok h
  rw [← entryPlace_of_findParent hroot hname hfind]
  refine ⟨alters_remove ht (append_ne_nil p last) (by simp [hnode]), ?_⟩
  rw [node?_remove _ (append_ne_nil p last), if_pos rfl]

/-- A file that gets the path of another entry takes its bytes there. -/
theorem rename_entry {other : String} {data : ByteArray} (ht : t.IsTree)
    (hroot : Directory.Rooted ⟨base, t⟩ root) (hname : IsName name) (hother : IsName other)
    (hnode : t.node? (entryPlace root name) = some (.file data))
    (h : t.rename (entryPath base name) (entryPath base other) = .ok t') :
    Alters t t' ([entryPlace root name] ++ [entryPlace root other]) ∧
      t'.node? (entryPlace root other) = some (.file data) := by
  obtain ⟨sp, slast, _, tp, tlast, moved, hs, htarget, _, _, hsource, htnode, rfl⟩ := rename_ok h
  rw [entryPlace_of_findParent hroot hname hs] at hsource ⊢
  obtain rfl : moved = data := by
    rw [hnode] at hsource
    simpa using hsource.symm
  have hremoved := alters_remove ht (append_ne_nil (root ++ ["configs"]) name)
    (show t.node? (entryPlace root name) ≠ some .directory by simp [hnode])
  obtain ⟨rfl, rfl, hdir, _⟩ := findParent_entryPath hroot hother htarget
  have htnode' : (t.remove (entryPlace root name)).node? (root ++ ["configs"] ++ [tlast]) ≠
      some .directory := by
    rw [node?_remove _ (show entryPlace root name ≠ [] from append_ne_nil _ name)]
    split
    · simp
    · exact htnode
  refine ⟨hremoved.trans (alters_set hremoved.tree moved (hremoved.keeps.directory _ hdir) htnode'),
    ?_⟩
  rw [node?_set _ _ (append_ne_nil _ _), entryPlace, if_pos rfl]

/-! Opened directories. -/

theorem rooted_of_find {p : Place} (h : t.find base = .ok (p, .directory)) :
    Directory.Rooted ⟨base, t⟩ p := by
  obtain ⟨r, hr, hwalk, hnode⟩ := find_eq_ok_iff.mp h
  obtain rfl := Route.ofPath_ok hr
  unfold Route.walked at hwalk
  split at hwalk
  · rw [List.foldlM_append] at hwalk
    obtain ⟨q, hq, hdot⟩ := bind_eq_ok.mp hwalk
    rw [List.foldlM_cons] at hdot
    obtain ⟨q', hq', hp⟩ := bind_eq_ok.mp hdot
    obtain rfl : q' = p := Except.ok.inj hp
    obtain ⟨rfl, _⟩ := enter_dot hq'
    exact ⟨hq, hnode⟩
  · exact ⟨hwalk, hnode⟩

/-- A base that was made just now leads to the directory that was made. -/
theorem rooted_of_makeDirectory (ht : t.IsTree) (h : t.makeDirectory base = .ok t') :
    ∃ root, Directory.Rooted ⟨base, t'⟩ root := by
  have hgrows := (makeDirectory_grows ht h).2
  obtain ⟨p, last, _, hfind, hdots, _, rfl⟩ := makeDirectory_ok h
  obtain ⟨r, hr, hwalk, hp, hsize, hlast, _⟩ := findParent_eq_ok_iff.mp hfind
  obtain rfl := Route.ofPath_ok hr
  have hnames : namesOf base = (namesOf base).dropLast ++ [last] := by
    cases hlist : (namesOf base).getLast? with
    | none =>
      rw [hlist] at hlast
      subst hlast
      simp [isDots] at hdots
    | some name =>
      rw [hlist] at hlast
      obtain rfl : last = name := hlast
      obtain ⟨front, hfront⟩ := List.getLast?_eq_some_iff.mp hlist
      rw [hfront, List.dropLast_concat]
  refine ⟨p ++ [last], ⟨?_, ?_⟩⟩
  · show (namesOf base).foldlM _ (if base.startsWith "/" then [] else t.working) = _
    rw [hnames, List.foldlM_append]
    rw [start] at hwalk
    rw [walk_mono hgrows.keepsDirectories hwalk, ok_bind, List.foldlM_cons,
      enter_eq_append (hgrows.keepsDirectories.directory p hp) hsize hdots]
    rfl
  · exact (node?_set t _ (append_ne_nil p last) _).trans (if_pos rfl)

theorem rooted_of_isDirectory (h : t.isDirectory base = true) :
    ∃ root, Directory.Rooted ⟨base, t⟩ root := by
  unfold isDirectory at h
  split at h
  · next p hfind => exact ⟨p, rooted_of_find hfind⟩
  · contradiction

/-- Making a path to a directory succeeds only if the path then leads to one. -/
theorem rooted_of_makeDirectories {fuel : Nat} (ht : t.IsTree)
    (h : makeDirectories fuel t base = (.ok (), t')) :
    ∃ root, Directory.Rooted ⟨base, t'⟩ root := by
  unfold makeDirectories at h
  split at h
  · simp at h
  · next fuel =>
    split at h
    · next hempty =>
      obtain rfl : base = "" := by simpa using hempty
      obtain rfl : t = t' := by simpa using h
      exact ⟨t.working, ⟨by simp [namesOf_empty], ht.working⟩⟩
    · split at h
      · next made hmade =>
        obtain rfl : made = t' := by simpa using h
        exact rooted_of_makeDirectory ht hmade
      · split at h
        · next hdir =>
          obtain rfl : t = t' := by simpa using h
          exact rooted_of_isDirectory hdir
        · split at h
          · simp at h
          · split at h
            · simp at h
            · next parent _ =>
              have ht' := (makeDirectories_grows fuel ht parent).1
              split at h
              · simp at h
              · next between hparent =>
                rw [hparent] at ht'
                split at h
                · next made hmade =>
                  obtain rfl : made = t' := by simpa using h
                  exact rooted_of_makeDirectory ht' hmade
                · split at h
                  · next hdir =>
                    obtain rfl : between = t' := by simpa using h
                    exact rooted_of_isDirectory hdir
                  · simp at h

/-- A directory that was opened leads to a place that is a directory. -/
theorem rooted_of_make {d : Directory} (ht : t.IsTree) (h : Directory.make base t = .ok d) :
    d.tree.IsTree ∧ ∃ root, d.Rooted root := by
  unfold Directory.make at h
  have htree := (makeDirectoryPath_alters ht base).tree
  split at h
  · next made hmade =>
    obtain rfl := Except.ok.inj h
    rw [hmade] at htree
    exact ⟨htree, rooted_of_makeDirectories ht hmade⟩
  · contradiction

end ConfigRegistry.Blob
