import ConfigRegistry.Blob.Store
import ConfigRegistry.Proofs.Blob.Alterations

/-!
What a store of archives holds under the identifiers of versions. Storing changes the archive of its
own identifier or, if it fails, none; removing takes that archive away or, if it fails, none. This
holds in memory and in a directory alike.
-/
namespace ConfigRegistry.Blob

open FileTree

namespace Store

def archive? (s : Store) (id : String) : Option ByteArray :=
  match keyOf id with
  | .ok key => (s.get key).1.toOption
  | .error _ => none

def Sound : Store → Prop
  | .memory _ => True
  | .directory d => d.tree.IsTree ∧ ∃ root, d.Rooted root

/-- The stores that the registry starts with. -/
inductive Opened : Store → Prop where
  | memory : Opened .empty
  | directory {base : String} {t : FileTree} {d : Directory} (ht : t.IsTree)
      (h : Directory.make base t = .ok d) : Opened (.directory d)

theorem Opened.sound {s : Store} (h : s.Opened) : s.Sound := by
  cases h with
  | memory => trivial
  | directory ht h => exact rooted_of_make ht h

end Store

/-! Directories. -/

structure Openable (base id : String) : Prop where
  key : Directory.isKey ("configs/" ++ archiveName id) = true
  route : ∃ r, Route.ofPath (entryPath base (archiveName id)) = .ok r
  size : (archiveName id).utf8ByteSize ≤ maxName

theorem read_eq_ok_iff {t : FileTree} {path : String} {data : ByteArray} :
    t.read path = .ok data ↔ ∃ p, t.find path = .ok (p, .file data) := by
  unfold FileTree.read
  rw [bind_eq_ok]
  constructor
  · rintro ⟨⟨p, n⟩, hfind, h⟩
    cases n with
    | directory => simp at h
    | file other =>
      obtain rfl : other = data := by simpa using h
      exact ⟨p, hfind⟩
  · rintro ⟨p, hfind⟩
    exact ⟨_, hfind, rfl⟩

theorem path_eq_ok_iff {d : Directory} {key path : String} :
    d.path key = .ok path ↔ Directory.isKey key = true ∧ path = Directory.join d.base key := by
  unfold Directory.path
  split
  · next h => simp [h, eq_comm]
  · next h => simp [h]

theorem Directory.get_eq_ok_iff {d : Directory} {key : String} {data : ByteArray} :
    d.get key = .ok data ↔
      Directory.isKey key = true ∧
        ∃ p, d.tree.find (Directory.join d.base key) = .ok (p, .file data) := by
  unfold Directory.get
  rw [bind_eq_ok]
  constructor
  · rintro ⟨path, hpath, h⟩
    obtain ⟨hkey, rfl⟩ := path_eq_ok_iff.mp hpath
    refine ⟨hkey, read_eq_ok_iff.mp ?_⟩
    cases hexists : d.tree.exists? (Directory.join d.base key) with
    | false => simp [hexists] at h
    | true =>
      cases hread : d.tree.read (Directory.join d.base key) with
      | error fault => simp [hexists, hread] at h
      | ok other => simpa [hexists, hread] using h
  · rintro ⟨hkey, p, hfind⟩
    have hread := read_eq_ok_iff.mpr ⟨p, hfind⟩
    refine ⟨_, path_eq_ok_iff.mpr ⟨hkey, rfl⟩, ?_⟩
    simp [exists?, hfind, hread, Except.toOption]

theorem archive?_eq_some_iff_find {d : Directory} {id : String} {data : ByteArray}
    (h : isId id = true) :
    (Store.directory d).archive? id = some data ↔
      Directory.isKey ("configs/" ++ archiveName id) = true ∧
        ∃ p, d.tree.find (entryPath d.base (archiveName id)) = .ok (p, .file data) := by
  have hkey : keyOf id = .ok ("configs/" ++ archiveName id) := keyOf_eq_ok_iff.mpr ⟨h, rfl⟩
  have hget : ((Store.directory d).get ("configs/" ++ archiveName id)).1 =
      d.get ("configs/" ++ archiveName id) := by
    cases h : d.get ("configs/" ++ archiveName id) <;> simp [Store.get, h]
  unfold Store.archive?
  rw [hkey]
  simp only [hget, toOption_eq_some]
  exact Directory.get_eq_ok_iff

/-- An archive in a directory is the file at one place, provided its path can be opened at all. -/
theorem archive?_directory {d : Directory} {root : Place} {id : String} {data : ByteArray}
    (ht : d.tree.IsTree) (hroot : d.Rooted root) (h : isId id = true) :
    (Store.directory d).archive? id = some data ↔
      Openable d.base id ∧ d.tree.node? (entryPlace root (archiveName id)) = some (.file data) := by
  rw [archive?_eq_some_iff_find h]
  constructor
  · rintro ⟨hok, p, hfind⟩
    obtain ⟨hroute, hsize, rfl, hnode⟩ := (find_entryPath_iff ht hroot (isName_archiveName h)
      (isDots_archiveName id)).mp hfind
    exact ⟨⟨hok, hroute, hsize⟩, hnode⟩
  · rintro ⟨hopen, hnode⟩
    exact ⟨hopen.key, _, (find_entryPath_iff ht hroot (isName_archiveName h)
      (isDots_archiveName id)).mpr ⟨hopen.route, hopen.size, rfl, hnode⟩⟩

/-- Without a change to the file of an archive the directory holds what it held. -/
theorem archive?_alters {base id : String} {t t' : FileTree} {root : Place} {places : List Place}
    (ht : t.IsTree) (hroot : Directory.Rooted ⟨base, t⟩ root) (h : Alters t t' places)
    (hid : isId id = true) (hplace : entryPlace root (archiveName id) ∉ places) :
    (Store.directory ⟨base, t'⟩).archive? id = (Store.directory ⟨base, t⟩).archive? id := by
  apply Option.ext
  intro data
  rw [archive?_directory h.tree (hroot.mono h.keeps) hid, archive?_directory ht hroot hid,
    h.file _ hplace data]

theorem openable_of_findParent {base id last : String} {t : FileTree} {p : Place}
    {trailing : Bool} (hkey : Directory.isKey ("configs/" ++ archiveName id) = true)
    (h : t.findParent (entryPath base (archiveName id)) = .ok (p, last, trailing))
    (hname : last = archiveName id) : Openable base id := by
  obtain ⟨r, hr, _, _, hsize, _⟩ := findParent_eq_ok_iff.mp h
  exact ⟨hkey, ⟨r, hr⟩, hname ▸ hsize⟩

/-- An entry that is removed, or cannot be, is all that changes. -/
theorem cleared_alters {base name : String} {t : FileTree} {root : Place} (ht : t.IsTree)
    (hroot : Directory.Rooted ⟨base, t⟩ root) (hname : IsName name) :
    Alters t ((t.removeFile (entryPath base name)).toOption.getD t) [entryPlace root name] := by
  cases hremoved : t.removeFile (entryPath base name) with
  | error _ => exact (Alters.refl ht).mono (by simp)
  | ok removed => exact (removeFile_entry ht hroot hname hremoved).1

/-- A directory takes a whole archive in place of the old one, or leaves the old one as it is. -/
theorem Directory.put_effect {base id mark : String} {t : FileTree} {root : Place}
    {data : ByteArray} (ht : t.IsTree) (hroot : Directory.Rooted ⟨base, t⟩ root)
    (hid : isId id = true) (hmark : '/' ∉ mark.toList) {result : Except Fault Unit}
    {d : Directory}
    (h : Directory.put ⟨base, t⟩ ("configs/" ++ archiveName id) data mark = (result, d)) :
    ∃ t', d = ⟨base, t'⟩ ∧
      (result ≠ .ok () ∧ Alters t t' [entryPlace root (draftName id mark)] ∨
        result = .ok () ∧
          Alters t t' [entryPlace root (draftName id mark), entryPlace root (archiveName id)] ∧
          Openable base id ∧ t'.node? (entryPlace root (archiveName id)) = some (.file data)) := by
  have hdraft := isName_draftName hid hmark
  have harchive := isName_archiveName hid
  unfold Directory.put at h
  split at h
  · next fault _ =>
    obtain ⟨rfl, rfl⟩ := Prod.mk.inj h
    exact ⟨t, rfl, .inl ⟨by simp, (Alters.refl ht).mono (by simp)⟩⟩
  · next path hpath =>
    obtain ⟨hkey, rfl⟩ := path_eq_ok_iff.mp hpath
    have hentry : Directory.join base ("configs/" ++ archiveName id) =
        entryPath base (archiveName id) := rfl
    simp only [hentry, temporaryPath_archive base mark hid] at h
    have hmade := makeDirectoryPath_alters ht
      ((parentPath? (entryPath base (archiveName id))).getD "")
    split at h
    · next fault made heq =>
      rw [heq] at hmade
      obtain ⟨rfl, rfl⟩ := Prod.mk.inj h
      exact ⟨made, rfl, .inl ⟨by simp, hmade.mono (by simp)⟩⟩
    · next made heq =>
      rw [heq] at hmade
      have hroot' := hroot.mono hmade.keeps
      split at h
      · next fault _ =>
        obtain ⟨rfl, rfl⟩ := Prod.mk.inj h
        exact ⟨made, rfl, .inl ⟨by simp, hmade.mono (by simp)⟩⟩
      · next written hwritten =>
        obtain ⟨hwrite, hfile⟩ := write_entry hmade.tree hroot' hdraft hwritten
        have hroot'' := hroot'.mono hwrite.keeps
        have hboth : Alters t written [entryPlace root (draftName id mark)] := hmade.trans hwrite
        split at h
        · next renamed hrenamed =>
          obtain ⟨rfl, rfl⟩ := Prod.mk.inj h
          obtain ⟨hrename, hstored⟩ :=
            rename_entry hwrite.tree hroot'' hdraft harchive hfile hrenamed
          obtain ⟨_, _, _, tp, tlast, _, _, htarget, _⟩ := rename_ok hrenamed
          have hlast := (findParent_entryPath hroot'' harchive htarget).2.1
          exact ⟨renamed, rfl, .inr ⟨rfl, (hboth.trans hrename).mono (by simp),
            openable_of_findParent hkey htarget hlast, hstored⟩⟩
        · next fault _ =>
          -- the draft is there and could not be moved
          obtain ⟨rfl, rfl⟩ := Prod.mk.inj h
          have hcleared := cleared_alters hwrite.tree hroot'' hdraft
          exact ⟨_, rfl, .inl ⟨by simp, (hboth.trans hcleared).mono (by simp)⟩⟩

/-- A directory lets go of an archive, or leaves everything as it is. -/
theorem Directory.delete_effect {base id : String} {t : FileTree} {root : Place}
    (ht : t.IsTree) (hroot : Directory.Rooted ⟨base, t⟩ root) (hid : isId id = true)
    {removed : Bool} {d : Directory}
    (h : Directory.delete ⟨base, t⟩ ("configs/" ++ archiveName id) = .ok (removed, d)) :
    ∃ t', d = ⟨base, t'⟩ ∧ Alters t t' [entryPlace root (archiveName id)] ∧
      (Store.directory d).archive? id = none := by
  have harchive := isName_archiveName hid
  unfold Directory.delete at h
  obtain ⟨path, hpath, h⟩ := bind_eq_ok.mp h
  obtain ⟨hkey, rfl⟩ := path_eq_ok_iff.mp hpath
  cases hexists : t.exists? (Directory.join base ("configs/" ++ archiveName id)) with
  | false =>
    simp only [hexists] at h
    obtain ⟨_, rfl⟩ : false = removed ∧ Directory.mk base t = d := by simpa using h
    refine ⟨t, rfl, (Alters.refl ht).mono (by simp), ?_⟩
    rw [Option.eq_none_iff_forall_ne_some]
    intro data hdata
    obtain ⟨_, p, hfind⟩ := (archive?_eq_some_iff_find hid).mp hdata
    have hentry : entryPath base (archiveName id) =
        Directory.join base ("configs/" ++ archiveName id) := rfl
    simp [exists?, ← hentry, hfind, Except.toOption] at hexists
  | true =>
    simp only [hexists] at h
    cases hremoved : t.removeFile (Directory.join base ("configs/" ++ archiveName id)) with
    | error fault => simp [hremoved] at h
    | ok t' =>
      obtain ⟨_, rfl⟩ : true = removed ∧ Directory.mk base t' = d := by simpa [hremoved] using h
      obtain ⟨hremove, hnode⟩ := removeFile_entry ht hroot harchive hremoved
      refine ⟨t', rfl, hremove, ?_⟩
      rw [Option.eq_none_iff_forall_ne_some]
      intro data hdata
      obtain ⟨_, hfile⟩ := (archive?_directory hremove.tree (hroot.mono hremove.keeps) hid).mp hdata
      rw [hnode] at hfile
      contradiction

/-! All stores. -/

namespace Store

theorem archive?_of_not_isId (s : Store) {id : String} (h : isId id = false) :
    s.archive? id = none := by
  simp [archive?, keyOf, h]

theorem archive?_memory (archives : Table ByteArray) {id key : String} (h : keyOf id = .ok key) :
    (memory archives).archive? id = archives.get? key := by
  simp only [archive?, h, get]
  cases archives.get? key with
  | none => rfl
  | some data => rfl

/-- A later store of the same kind that has all bytes of an earlier one, and no others, but for
what is called by some names. -/
inductive KeepsBytes (names : List String) : Store → Store → Prop
  | memory {archives archives' : Table ByteArray}
      (h : ∀ key, (∀ name ∈ names, key ≠ "configs/" ++ name) →
        archives'.get? key = archives.get? key) :
      KeepsBytes names (.memory archives) (.memory archives')
  | directory {base : String} {t t' : FileTree}
      (hrooted : ∀ root, Directory.Rooted ⟨base, t⟩ root → Directory.Rooted ⟨base, t'⟩ root)
      (h : ∀ root, Directory.Rooted ⟨base, t⟩ root →
        ∀ p, (∀ name ∈ names, p ≠ entryPlace root name) →
          ∀ data, t'.node? p = some (.file data) ↔ t.node? p = some (.file data)) :
      KeepsBytes names (.directory ⟨base, t⟩) (.directory ⟨base, t'⟩)

theorem KeepsBytes.refl (names : List String) (s : Store) : KeepsBytes names s s := by
  cases s with
  | memory archives => exact .memory fun _ _ => rfl
  | directory d => exact .directory (fun _ h => h) fun _ _ _ _ _ => Iff.rfl

theorem KeepsBytes.trans {names : List String} {s s' s'' : Store} (h : KeepsBytes names s s')
    (h' : KeepsBytes names s' s'') : KeepsBytes names s s'' := by
  cases h with
  | memory h =>
    cases h' with
    | memory h' => exact .memory fun key hkey => (h' key hkey).trans (h key hkey)
  | directory hrooted h =>
    cases h' with
    | directory hrooted' h' =>
      refine .directory (fun root hroot => hrooted' root (hrooted root hroot)) ?_
      intro root hroot p hp data
      exact (h' root (hrooted root hroot) p hp data).trans (h root hroot p hp data)

theorem KeepsBytes.of_alters {base : String} {t t' : FileTree} {places : List Place}
    {names : List String} (h : Alters t t' places)
    (hplaces : ∀ root, Directory.Rooted ⟨base, t⟩ root →
      ∀ p ∈ places, ∃ name ∈ names, p = entryPlace root name) :
    KeepsBytes names (.directory ⟨base, t⟩) (.directory ⟨base, t'⟩) := by
  refine .directory (fun _ hroot => hroot.mono h.keeps) fun root hroot p hp => h.file p ?_
  intro hmem
  obtain ⟨name, hname, heq⟩ := hplaces root hroot p hmem
  exact hp name hname heq

/-- A later store that differs from an earlier one in the archive of one version and in some drafts
at most. -/
structure KeepsOthers (s s' : Store) (id : String) (drafts : List String) : Prop where
  sound : s'.Sound
  other : ∀ other, other ≠ id → s'.archive? other = s.archive? other
  bytes : KeepsBytes (archiveName id :: drafts) s s'

/-- A table that differs at one key keeps the bytes of all others. -/
theorem keepsOthers_memory {archives archives' : Table ByteArray} {id key : String}
    (drafts : List String) (hkey : keyOf id = .ok key)
    (h : ∀ other, other ≠ key → archives'.get? other = archives.get? other) :
    KeepsOthers (memory archives) (memory archives') id drafts where
  sound := trivial
  bytes := by
    obtain ⟨_, rfl⟩ := keyOf_eq_ok_iff.mp hkey
    exact .memory fun other hother => h other (hother _ List.mem_cons_self)
  other other hne := by
    cases hother : isId other with
    | false => rw [archive?_of_not_isId _ hother, archive?_of_not_isId _ hother]
    | true =>
      have hkey' : keyOf other = .ok ("configs/" ++ archiveName other) :=
        keyOf_eq_ok_iff.mpr ⟨hother, rfl⟩
      rw [archive?_memory _ hkey', archive?_memory _ hkey']
      apply h
      intro heq
      rw [heq] at hkey'
      exact hne (keyOf_inj hkey' hkey)

/-- A tree altered at the entry of one version, or at drafts of it, keeps the bytes of all other
keys. -/
theorem keepsOthers_directory {base id : String} (marks : List String) {t t' : FileTree}
    {root : Place} {places : List Place} (ht : t.IsTree) (hroot : Directory.Rooted ⟨base, t⟩ root)
    (hid : isId id = true) (h : Alters t t' places)
    (hplaces : ∀ p ∈ places, p = entryPlace root (archiveName id) ∨
      ∃ mark ∈ marks, p = entryPlace root (draftName id mark)) :
    KeepsOthers (directory ⟨base, t⟩) (directory ⟨base, t'⟩) id (marks.map (draftName id)) where
  sound := ⟨h.tree, root, hroot.mono h.keeps⟩
  bytes := by
    refine .of_alters h fun root' hroot' p hp => ?_
    obtain rfl := hroot.unique hroot'
    rcases hplaces p hp with hplace | ⟨mark, hmark, hplace⟩
    · exact ⟨_, List.mem_cons_self, hplace⟩
    · exact ⟨_, List.mem_cons_of_mem _ (List.mem_map_of_mem hmark), hplace⟩
  other other hne := by
    cases hother : isId other with
    | false => rw [archive?_of_not_isId _ hother, archive?_of_not_isId _ hother]
    | true =>
      refine archive?_alters ht hroot h hother fun hmem => ?_
      rcases hplaces _ hmem with hplace | ⟨mark, _, hplace⟩
      · have hname := entryPlace_inj hplace
        exact hne (by simpa [archiveName, ← String.toList_inj] using hname)
      · exact archiveName_ne_draftName hid hother (entryPlace_inj hplace)

/-- Storing sets the archive of one version if it succeeds, and else none. -/
theorem put_archive? {s : Store} (hs : s.Sound) {id key mark : String} (data : ByteArray)
    (hkey : keyOf id = .ok key) (hmark : '/' ∉ mark.toList) {result : Except Fault Unit}
    {s' : Store} {events : List Log.Event} (h : s.put key data mark = (result, s', events)) :
    KeepsOthers s s' id [draftName id mark] ∧
      (result = .ok () ∧ s'.archive? id = some data ∨
        (∃ fault, result = .error fault) ∧ s'.archive? id = s.archive? id) := by
  obtain ⟨hid, heq⟩ := keyOf_eq_ok_iff.mp hkey
  cases s with
  | memory archives =>
    obtain ⟨rfl, rfl, _⟩ : .ok () = result ∧ memory (archives.insert key data) = s' ∧ _ := by
      simpa [put] using h
    refine ⟨keepsOthers_memory _ hkey fun other hne => by simp [hne], .inl ⟨rfl, ?_⟩⟩
    simp [archive?_memory _ hkey]
  | directory d =>
    subst heq
    obtain ⟨base, t⟩ := d
    obtain ⟨ht, root, hroot⟩ := hs
    cases hput : Directory.put ⟨base, t⟩ ("configs/" ++ archiveName id) data mark with
    | mk found d' =>
      have hs' : found = result ∧ directory d' = s' := by
        cases found <;> simp_all [put]
      obtain ⟨rfl, rfl⟩ := hs'
      obtain ⟨t', rfl, ⟨hfailed, halters⟩ | ⟨hok, halters, hopen, hfile⟩⟩ :=
        Directory.put_effect ht hroot hid hmark hput
      · refine ⟨keepsOthers_directory [mark] ht hroot hid halters (by simp), .inr ⟨?_, ?_⟩⟩
        · cases found with
          | error fault => exact ⟨fault, rfl⟩
          | ok done => exact absurd rfl hfailed
        · refine archive?_alters ht hroot halters hid fun hmem => ?_
          rw [List.mem_singleton] at hmem
          exact archiveName_ne_draftName hid hid (entryPlace_inj hmem)
      · refine ⟨keepsOthers_directory [mark] ht hroot hid halters (by simp),
          .inl ⟨hok, ?_⟩⟩
        exact (archive?_directory halters.tree (hroot.mono halters.keeps) hid).mpr ⟨hopen, hfile⟩

/-- Removing takes the archive of one version away if it succeeds, and else none. -/
theorem delete_archive? {s : Store} (hs : s.Sound) {id key : String} (hkey : keyOf id = .ok key)
    {result : Except Fault Unit} {s' : Store} {events : List Log.Event}
    (h : s.delete key = (result, s', events)) :
    KeepsOthers s s' id [] ∧
      (result = .ok () ∧ s'.archive? id = none ∨
        (∃ fault, result = .error fault) ∧ s'.archive? id = s.archive? id) := by
  obtain ⟨hid, heq⟩ := keyOf_eq_ok_iff.mp hkey
  cases s with
  | memory archives =>
    obtain ⟨rfl, rfl, _⟩ : .ok () = result ∧ memory (archives.erase key) = s' ∧ _ := by
      simpa [delete] using h
    refine ⟨keepsOthers_memory _ hkey fun other hne => by simp [hne], .inl ⟨rfl, ?_⟩⟩
    simp [archive?_memory _ hkey]
  | directory d =>
    subst heq
    obtain ⟨base, t⟩ := d
    obtain ⟨ht, root, hroot⟩ := hs
    cases hdelete : Directory.delete ⟨base, t⟩ ("configs/" ++ archiveName id) with
    | error fault =>
      have hs' : .error fault = result ∧ directory ⟨base, t⟩ = s' := by simp_all [delete]
      obtain ⟨rfl, rfl⟩ := hs'
      exact ⟨⟨⟨ht, root, hroot⟩, fun _ _ => rfl, .refl _ _⟩, .inr ⟨⟨fault, rfl⟩, rfl⟩⟩
    | ok found =>
      obtain ⟨removed, d'⟩ := found
      have hs' : .ok () = result ∧ directory d' = s' := by simp_all [delete]
      obtain ⟨rfl, rfl⟩ := hs'
      obtain ⟨t', rfl, halters, hnone⟩ := Directory.delete_effect ht hroot hid hdelete
      exact ⟨keepsOthers_directory [] ht hroot hid halters (by simp), .inl ⟨rfl, hnone⟩⟩

end Store

end ConfigRegistry.Blob
