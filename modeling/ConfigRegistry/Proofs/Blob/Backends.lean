import ConfigRegistry.Proofs.Blob.Tidiness

/-!
The two kinds of stores answer alike. A directory in which nothing stands in the way, and a table in
memory that holds the same archives, give the same reply to a call about the archive of a version,
and hold the same archives afterwards. Only the length of paths tells them apart: a directory cannot
store an archive if the file that is written first would have too long a path.
-/
namespace ConfigRegistry.Blob

open FileTree

inductive Call where
  | put (key : String) (data : ByteArray) (mark : Uuid)
  | get (key : String)
  | delete (key : String)
  | contains (key : String)

/-- What a call comes to. -/
inductive Reply where
  | put (result : Except Fault Unit)
  | get (result : Except Fault ByteArray)
  | delete (result : Except Fault Unit)
  | contains (result : Except Fault Bool)

namespace Call

def key : Call → String
  | .put key _ _ => key
  | .get key => key
  | .delete key => key
  | .contains key => key

def Fits (base : String) : Call → Prop
  | .put key _ mark =>
    (Directory.temporaryPath (Directory.join base key) mark.render).utf8ByteSize ≤ maxPath
  | _ => True

end Call

/-- The key of the archive of a version, whose identifier is not too long. -/
def IsArchiveKey (key : String) : Prop := ∃ id, id.length ≤ 150 ∧ keyOf id = .ok key

namespace Store

def answer (s : Store) : Call → Reply × Store
  | .put key data mark => (.put (s.put key data mark.render).1, (s.put key data mark.render).2.1)
  | .get key => (.get (s.get key).1, s)
  | .delete key => (.delete (s.delete key).1, (s.delete key).2.1)
  | .contains key => (.contains (s.contains key), s)

def replies (s : Store) : List Call → List Reply
  | [] => []
  | call :: rest => (s.answer call).1 :: (s.answer call).2.replies rest

def Ready (base : String) : Store → Prop
  | .memory _ => True
  | .directory d => d.base = base ∧ ∃ root, d.Tidy root

/-- Two stores of the same archives. -/
def Alike (s s' : Store) : Prop := ∀ id, s.archive? id = s'.archive? id

variable {base id : String} {mark : Uuid} {s s' : Store}

theorem Ready.sound (h : s.Ready base) : s.Sound := by
  cases s with
  | memory archives => trivial
  | directory d =>
    obtain ⟨_, root, htidy⟩ := h
    exact ⟨htidy.tree, root, htidy.rooted⟩

/-! What single calls come to. -/

theorem put_ready (h : s.Ready base) (hroom : Roomy base id mark) (data : ByteArray) :
    (s.put ("configs/" ++ archiveName id) data mark.render).1 = .ok () ∧
      (s.put ("configs/" ++ archiveName id) data mark.render).2.1.Ready base := by
  cases s with
  | memory archives => exact ⟨rfl, trivial⟩
  | directory d =>
    obtain ⟨rfl, root, htidy⟩ := h
    obtain ⟨t', hput, htidy'⟩ := htidy.put_ok hroom data
    simp only [put, hput]
    exact ⟨trivial, rfl, root, htidy'⟩

theorem delete_ready (h : s.Ready base) (hid : isId id = true) :
    (s.delete ("configs/" ++ archiveName id)).1 = .ok () ∧
      (s.delete ("configs/" ++ archiveName id)).2.1.Ready base := by
  cases s with
  | memory archives => exact ⟨rfl, trivial⟩
  | directory d =>
    obtain ⟨rfl, root, htidy⟩ := h
    obtain ⟨removed, t', hdelete, htidy'⟩ := htidy.delete_ok hid
    simp only [delete, hdelete]
    exact ⟨trivial, rfl, root, htidy'⟩

/-- A store that is ready tells what it holds. -/
theorem get_ready (h : s.Ready base) (hid : isId id = true) :
    (s.get ("configs/" ++ archiveName id)).1 =
      (s.archive? id).elim (.error (.notFound ("configs/" ++ archiveName id))) .ok := by
  cases s with
  | memory archives =>
    rw [archive?_memory archives (keyOf_eq_ok_iff.mpr ⟨hid, rfl⟩), get]
    cases archives.get? ("configs/" ++ archiveName id) with
    | none => rfl
    | some data => rfl
  | directory d =>
    obtain ⟨_, root, htidy⟩ := h
    rw [← htidy.get_archive hid, get]
    cases d.get ("configs/" ++ archiveName id) with
    | error fault => rfl
    | ok data => rfl

theorem contains_ready (h : s.Ready base) (hid : isId id = true) :
    s.contains ("configs/" ++ archiveName id) = .ok (s.archive? id).isSome := by
  cases s with
  | memory archives =>
    rw [archive?_memory archives (keyOf_eq_ok_iff.mpr ⟨hid, rfl⟩)]
    rfl
  | directory d =>
    obtain ⟨_, root, htidy⟩ := h
    rw [← htidy.exists?_archive hid]
    simp [contains, Directory.contains, path_archive d hid]

/-! Calls keep stores alike. -/

/-- Two stores of the same archives that each change the archive of one version in the same way. -/
theorem alike_of_keepsOthers {t t' : Store} {drafts : List String} (h : s.Alike s')
    (hs : KeepsOthers s t id drafts) (hs' : KeepsOthers s' t' id drafts)
    (hsame : t.archive? id = t'.archive? id) : t.Alike t' := by
  intro other
  by_cases hother : other = id
  · rw [hother, hsame]
  · rw [hs.other other hother, hs'.other other hother, h other]

/-- Two stores that are alike stay so when the same archive is put in both. -/
theorem alike_put (h : s.Alike s') (hs : s.Ready base) (hs' : s'.Ready base)
    (hroom : Roomy base id mark) (data : ByteArray) :
    (s.put ("configs/" ++ archiveName id) data mark.render).2.1.Alike
      (s'.put ("configs/" ++ archiveName id) data mark.render).2.1 := by
  have hkey := keyOf_eq_ok_iff.mpr ⟨hroom.valid, rfl⟩
  have heffect : ∀ {s : Store}, s.Ready base →
      KeepsOthers s (s.put ("configs/" ++ archiveName id) data mark.render).2.1 id
          [draftName id mark.render] ∧
        (s.put ("configs/" ++ archiveName id) data mark.render).2.1.archive? id = some data := by
    intro s hs
    obtain ⟨hkeeps, ⟨_, harchive⟩ | ⟨⟨fault, hfault⟩, _⟩⟩ :=
      put_archive? hs.sound data hkey (slash_not_mem_render mark) rfl
    · exact ⟨hkeeps, harchive⟩
    · exact absurd ((put_ready hs hroom data).1.symm.trans hfault) nofun
  obtain ⟨hkeeps, harchive⟩ := heffect hs
  obtain ⟨hkeeps', harchive'⟩ := heffect hs'
  exact alike_of_keepsOthers h hkeeps hkeeps' (harchive.trans harchive'.symm)

/-- Two stores that are alike stay so when the same archive is deleted from both. -/
theorem alike_delete (h : s.Alike s') (hs : s.Ready base) (hs' : s'.Ready base)
    (hid : isId id = true) :
    (s.delete ("configs/" ++ archiveName id)).2.1.Alike
      (s'.delete ("configs/" ++ archiveName id)).2.1 := by
  have hkey := keyOf_eq_ok_iff.mpr ⟨hid, rfl⟩
  have heffect : ∀ {s : Store}, s.Ready base →
      KeepsOthers s (s.delete ("configs/" ++ archiveName id)).2.1 id [] ∧
        (s.delete ("configs/" ++ archiveName id)).2.1.archive? id = none := by
    intro s hs
    obtain ⟨hkeeps, ⟨_, harchive⟩ | ⟨⟨fault, hfault⟩, _⟩⟩ := delete_archive? hs.sound hkey rfl
    · exact ⟨hkeeps, harchive⟩
    · exact absurd ((delete_ready hs hid).1.symm.trans hfault) nofun
  obtain ⟨hkeeps, harchive⟩ := heffect hs
  obtain ⟨hkeeps', harchive'⟩ := heffect hs'
  exact alike_of_keepsOthers h hkeeps hkeeps' (harchive.trans harchive'.symm)

theorem roomy_of_fits (hid : isId id = true) (hshort : id.length ≤ 150) {data : ByteArray}
    (hfits : (Call.put ("configs/" ++ archiveName id) data mark).Fits base) :
    Roomy base id mark where
  valid := hid
  short := hshort
  fits := by
    rw [← temporaryPath_archive base mark.render hid]
    exact hfits

/-- One call: the same reply, and stores that can go on. -/
theorem answer_alike {call : Call} (h : s.Alike s') (hs : s.Ready base) (hs' : s'.Ready base)
    (hkey : IsArchiveKey call.key) (hfits : call.Fits base) :
    (s.answer call).1 = (s'.answer call).1 ∧ (s.answer call).2.Alike (s'.answer call).2 ∧
      (s.answer call).2.Ready base ∧ (s'.answer call).2.Ready base := by
  obtain ⟨id, hshort, hkeyOf⟩ := hkey
  obtain ⟨hid, hkey⟩ := keyOf_eq_ok_iff.mp hkeyOf
  cases call with
  | put key data mark =>
    obtain rfl : key = "configs/" ++ archiveName id := hkey
    have hroom := roomy_of_fits hid hshort hfits
    obtain ⟨hok, hready⟩ := put_ready hs hroom data
    obtain ⟨hok', hready'⟩ := put_ready hs' hroom data
    exact ⟨by simp only [answer, hok, hok'], alike_put h hs hs' hroom data, hready, hready'⟩
  | get key =>
    obtain rfl : key = "configs/" ++ archiveName id := hkey
    exact ⟨by simp only [answer, get_ready hs hid, get_ready hs' hid, h id], h, hs, hs'⟩
  | delete key =>
    obtain rfl : key = "configs/" ++ archiveName id := hkey
    obtain ⟨hok, hready⟩ := delete_ready hs hid
    obtain ⟨hok', hready'⟩ := delete_ready hs' hid
    exact ⟨by simp only [answer, hok, hok'], alike_delete h hs hs' hid, hready, hready'⟩
  | contains key =>
    obtain rfl : key = "configs/" ++ archiveName id := hkey
    exact ⟨by simp only [answer, contains_ready hs hid, contains_ready hs' hid, h id], h, hs, hs'⟩

/-! Paths that are too long. -/

theorem answer_directory (d : Directory) (call : Call) :
    ∃ d', ((directory d).answer call).2 = directory d' := by
  cases call with
  | put key data mark =>
    cases hput : d.put key data mark.render with
    | mk result d' => cases result <;> exact ⟨d', by simp [answer, put, hput]⟩
  | get key => exact ⟨d, rfl⟩
  | delete key =>
    cases hdelete : d.delete key with
    | error fault => exact ⟨d, by simp [answer, delete, hdelete]⟩
    | ok found => exact ⟨found.2, by simp [answer, delete, hdelete]⟩
  | contains key => exact ⟨d, rfl⟩

theorem answer_memory (archives : Table ByteArray) (call : Call) :
    ∃ archives', ((memory archives).answer call).2 = memory archives' := by
  cases call with
  | put key data mark => exact ⟨archives.insert key data, rfl⟩
  | get key => exact ⟨archives, rfl⟩
  | delete key => exact ⟨archives.erase key, rfl⟩
  | contains key => exact ⟨archives, rfl⟩

/-- A call that does not fit is one that only memory can follow. -/
theorem answer_of_not_fits {d : Directory} {call : Call} (archives : Table ByteArray)
    (h : ¬ call.Fits d.base) :
    ((directory d).answer call).1 ≠ ((memory archives).answer call).1 := by
  cases call with
  | put key data mark =>
    intro hreply
    have hput := d.put_ne_ok data (Nat.not_le.mp h)
    cases hresult : d.put key data mark.render with
    | mk result d' =>
      rw [hresult] at hput
      cases result with
      | ok done => exact hput rfl
      | error fault => simp [answer, put, hresult] at hreply
  | get key => exact absurd trivial h
  | delete key => exact absurd trivial h
  | contains key => exact absurd trivial h

/-- Any number of calls: the same replies, exactly if all of them fit. -/
theorem replies_alike {d : Directory} {archives : Table ByteArray} {calls : List Call}
    (h : (directory d).Alike (memory archives)) (hd : (directory d).Ready base)
    (hkeys : ∀ call ∈ calls, IsArchiveKey call.key) :
    (directory d).replies calls = (memory archives).replies calls ↔
      ∀ call ∈ calls, call.Fits base := by
  induction calls generalizing d archives with
  | nil => simp [replies]
  | cons call rest ih =>
    rw [List.forall_mem_cons] at hkeys
    rw [replies, replies, List.cons.injEq, List.forall_mem_cons]
    by_cases hfits : call.Fits base
    · obtain ⟨hreply, halike, hready, _⟩ := answer_alike h hd trivial hkeys.1 hfits
      obtain ⟨d', hd'⟩ := answer_directory d call
      obtain ⟨archives', harchives'⟩ := answer_memory archives call
      rw [hd'] at halike hready
      rw [harchives'] at halike
      rw [hreply, hd', harchives', ih halike hready hkeys.2]
      simp [hfits]
    · have hne := answer_of_not_fits archives (hd.1.symm ▸ hfits)
      exact ⟨fun heq => absurd heq.1 hne, fun hall => absurd hall.1 hfits⟩

/-- A directory in which there is nothing, beside a memory in which there is nothing. -/
theorem replies_fresh {t : FileTree} {d : Directory} (ht : t.IsTree)
    (hmake : Directory.make base t = .ok d) (hfresh : d.IsFresh) {calls : List Call}
    (hkeys : ∀ call ∈ calls, IsArchiveKey call.key) :
    (directory d).replies calls = empty.replies calls ↔ ∀ call ∈ calls, call.Fits base := by
  have halike : (directory d).Alike empty := by
    intro id
    cases hid : isId id with
    | false => rw [archive?_of_not_isId _ hid, archive?_of_not_isId _ hid]
    | true =>
      rw [hfresh.archive?_eq_none (rooted_of_make ht hmake).1 hid, empty,
        archive?_memory _ (keyOf_eq_ok_iff.mpr ⟨hid, rfl⟩)]
      rfl
  exact replies_alike halike ⟨base_of_make hmake, hfresh.tidy ht hmake⟩ hkeys

end Store

/-! Files of archives and files that are written first. -/

/-- Files under the two paths never lie in one place. -/
def FileTree.Apart (path path' : String) : Prop :=
  ∀ (t : FileTree) (p p' : Place) (last last' : String) (trailing trailing' : Bool),
    t.findParent path = .ok (p, last, trailing) →
      t.findParent path' = .ok (p', last', trailing') → p ++ [last] ≠ p' ++ [last']

theorem apart_entryPath {name other : String} (base : String) (hname : IsName name)
    (hother : IsName other) (hne : name ≠ other) :
    Apart (entryPath base name) (entryPath base other) := by
  intro t p p' last last' trailing trailing' h h' heq
  rw [last_of_findParent hname h, last_of_findParent hother h'] at heq
  exact hne (append_inj heq).2

/-! A directory with paths of any length. -/

def served : FileTree := ⟨[(["srv"], .directory)], []⟩

def slashed (n : Nat) : String := String.ofList (List.replicate n '/') ++ "srv"

theorem namesOf_slashed (n : Nat) : namesOf (slashed n) = ["srv"] := by
  induction n with
  | zero => exact namesOf_single (by decide) (by decide)
  | succ n ih =>
    have hnext : slashed (n + 1) = "" ++ "/" ++ slashed n := by
      simp [slashed, ← String.toList_inj, List.replicate_succ]
    rw [hnext, namesOf_append, namesOf_empty, ih]
    rfl

theorem size_slashed (n : Nat) : (slashed n).utf8ByteSize = n + 3 := by
  have hname : "srv".utf8ByteSize = 3 := by decide
  have hslashes : (String.ofList (List.replicate n '/')).utf8ByteSize = n := by
    rw [Coding.Utf8.utf8ByteSize_of_small]
    · simp
    · simp +contextual [List.mem_replicate]
  rw [slashed, String.utf8ByteSize_append, hslashes, hname]

theorem startsWith_slashed {n : Nat} (hn : 0 < n) : (slashed n).startsWith "/" = true := by
  rw [startsWith_slash, slashed]
  simp [List.head?_append, List.head?_replicate, Nat.pos_iff_ne_zero.mp hn]

theorem endsWith_slashed (n : Nat) : (slashed n).endsWith "/" = false := by
  rw [endsWith_slash, slashed]
  simp [List.getLast?_append]

theorem ofPath_slashed {n : Nat} (hn : 0 < n) (hsize : n + 3 ≤ maxPath) :
    Route.ofPath (slashed n) = .ok ⟨true, ["srv"], false⟩ := by
  have hnul : '\x00' ∉ (slashed n).toList := by simp [slashed, List.mem_replicate]
  have hempty : slashed n ≠ "" := by simp [slashed]
  rw [ofPath_eq_ok hnul hempty (size_slashed n ▸ hsize), startsWith_slashed hn,
    endsWith_slashed, namesOf_slashed]

theorem find_slashed {n : Nat} (hn : 0 < n) (hsize : n + 3 ≤ maxPath) :
    served.find (slashed n) = .ok (["srv"], .directory) :=
  find_eq_ok_iff.mpr ⟨_, ofPath_slashed hn hsize, rfl, rfl⟩

theorem isTree_served : served.IsTree where
  parent p name h := by
    by_cases hplace : p ++ [name] = ["srv"]
    · have hroot : p = [] := (append_inj (q := []) hplace).1
      rw [hroot, node?_nil]
    · simp [served, node?, List.lookup_cons, beq_eq_false_iff_ne.mpr hplace] at h
  working := rfl

theorem make_slashed {n : Nat} (hn : 0 < n) (hsize : n + 3 ≤ maxPath) :
    Directory.make (slashed n) served = .ok ⟨slashed n, served⟩ :=
  make_of_find (find_slashed hn hsize)

theorem isFresh_slashed {n : Nat} (hn : 0 < n) : Directory.IsFresh ⟨slashed n, served⟩ := by
  refine ⟨["srv"], ⟨?_, rfl⟩, fun name => ?_⟩
  · simp only [namesOf_slashed, startsWith_slashed hn]
    rfl
  · simp [served, node?, List.lookup_cons]

/-- Asks for an archive before and after it is stored, and after it is removed. -/
def visit : List Call :=
  [.get "configs/cv-1.tar.gz",
    .put "configs/cv-1.tar.gz" ⟨#[31, 139]⟩ ⟨List.replicate 16 7, List.length_replicate⟩,
    .get "configs/cv-1.tar.gz", .contains "configs/cv-1.tar.gz", .delete "configs/cv-1.tar.gz",
    .contains "configs/cv-1.tar.gz"]

theorem isArchiveKey_visit : ∀ call ∈ visit, IsArchiveKey call.key := by
  have hkey : IsArchiveKey "configs/cv-1.tar.gz" :=
    ⟨"cv-1", by decide, keyOf_eq_ok_iff.mpr ⟨by decide, rfl⟩⟩
  simp [visit, Call.key, hkey]

/-- Behind the slashes stand three characters of the base, eight of the directory of the archives
and fifty of the file that is written first. -/
theorem fits_visit (n : Nat) : (∀ call ∈ visit, call.Fits (slashed n)) ↔ n + 61 ≤ maxPath := by
  have hid : isId "cv-1" = true := by decide
  have hlength : "cv-1".length = 4 := rfl
  have hentry : Directory.join (slashed n) "configs/cv-1.tar.gz" =
      entryPath (slashed n) (archiveName "cv-1") := rfl
  have hconfigs : (configsPath (slashed n)).utf8ByteSize = n + 11 := by
    have hends : (slashed n).endsWith "/" = false := endsWith_slashed n
    have hempty : (slashed n).isEmpty = false := by simp [slashed]
    have hrest : "/".utf8ByteSize + "configs".utf8ByteSize = 8 := by decide
    simp only [configsPath, Directory.join, hends, hempty, Bool.or_self, Bool.false_eq_true,
      if_false, String.utf8ByteSize_append, size_slashed]
    omega
  simp only [visit, List.forall_mem_cons, Call.Fits, hentry, temporaryPath_archive _ _ hid,
    utf8ByteSize_entryPath, size_draftName hid, hconfigs, hlength]
  simp

/-- A directory in which there is nothing and a memory in which there is nothing give the same
replies to calls about archives, exactly if the files that are written first can have their paths.
Every version has a key of its own, every key is one of a file in the directory, and this is never
a file that is written first. -/
theorem backends_agree {base : String} {t : FileTree} {d : Directory} (ht : t.IsTree)
    (hmake : Directory.make base t = .ok d) (hfresh : d.IsFresh) {calls : List Call}
    (hkeys : ∀ call ∈ calls, IsArchiveKey call.key) :
    ((Store.directory d).replies calls = Store.empty.replies calls ↔
        ∀ call ∈ calls, call.Fits base) ∧
      (∀ id other key, keyOf id = .ok key → keyOf other = .ok key → id = other) ∧
      (∀ id key, keyOf id = .ok key → d.path key = .ok (Directory.join base key)) ∧
      ∀ id other key key' mark, keyOf id = .ok key → keyOf other = .ok key' →
        Apart (Directory.join base key)
          (Directory.temporaryPath (Directory.join base key') (Uuid.render mark)) := by
  have hbase := base_of_make hmake
  refine ⟨Store.replies_fresh ht hmake hfresh hkeys, fun id other key => keyOf_inj, ?_, ?_⟩
  · intro id key hkey
    obtain ⟨hid, rfl⟩ := keyOf_eq_ok_iff.mp hkey
    rw [path_archive d hid, hbase, entryPath]
  · intro id other key key' mark hkey hkey'
    obtain ⟨hid, rfl⟩ := keyOf_eq_ok_iff.mp hkey
    obtain ⟨hother, rfl⟩ := keyOf_eq_ok_iff.mp hkey'
    have hdraft := temporaryPath_archive base mark.render hother
    rw [entryPath] at hdraft
    rw [hdraft]
    exact apart_entryPath base (isName_archiveName hid) (isName_draft hother mark)
      (archiveName_ne_draftName hother hid)

theorem visit_agrees : served.IsTree ∧
    Directory.make (slashed 1) served = .ok ⟨slashed 1, served⟩ ∧
    Directory.IsFresh ⟨slashed 1, served⟩ ∧ (∀ call ∈ visit, IsArchiveKey call.key) ∧
    (Store.directory ⟨slashed 1, served⟩).replies visit = Store.empty.replies visit := by
  have hmake := make_slashed (n := 1) (by decide) (by decide)
  have hfresh := isFresh_slashed (n := 1) (by decide)
  exact ⟨isTree_served, hmake, hfresh, isArchiveKey_visit,
    (backends_agree isTree_served hmake hfresh isArchiveKey_visit).1.mpr
      ((fits_visit 1).mpr (by decide))⟩

/-- Under a long path nothing can be stored, while memory takes everything. -/
theorem visit_differs : served.IsTree ∧
    Directory.make (slashed 4040) served = .ok ⟨slashed 4040, served⟩ ∧
    Directory.IsFresh ⟨slashed 4040, served⟩ ∧ (∀ call ∈ visit, IsArchiveKey call.key) ∧
    (Store.directory ⟨slashed 4040, served⟩).replies visit ≠ Store.empty.replies visit := by
  have hmake := make_slashed (n := 4040) (by decide) (by decide)
  have hfresh := isFresh_slashed (n := 4040) (by decide)
  refine ⟨isTree_served, hmake, hfresh, isArchiveKey_visit, fun heq => ?_⟩
  have hfits := (Store.replies_fresh isTree_served hmake hfresh isArchiveKey_visit).mp heq
  exact absurd ((fits_visit 4040).mp hfits) (by decide)

end ConfigRegistry.Blob
