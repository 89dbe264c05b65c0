import ConfigRegistry.Blob.Directory
import ConfigRegistry.Proofs.Blob.Tree

/-!
The files of archives in a directory. All of them lie in one place below the base of the directory,
each under its own name; the files that are written first lie beside them under names that no
archive has.
-/
namespace ConfigRegistry.Blob

open FileTree

/-! Paths as names. -/

theorem startsWith_slash (s : String) : s.startsWith "/" = (s.toList.head? == some '/') := by
  have hmark : "/".toList = ['/'] := rfl
  rw [Bool.eq_iff_iff, String.startsWith_string_iff, hmark]
  cases h : s.toList with
  | nil => simp
  | cons c rest =>
    rw [List.cons_prefix_cons, List.head?_cons, beq_iff_eq, Option.some.injEq]
    exact ⟨fun h => h.1.symm, fun h => ⟨h.symm, List.nil_prefix⟩⟩

theorem endsWith_slash (s : String) : s.endsWith "/" = (s.toList.getLast? == some '/') := by
  have hmark : "/".toList = ['/'] := rfl
  rw [Bool.eq_iff_iff, ← String.endsWith_toSlice, String.Slice.endsWith_string_iff, hmark,
    String.copy_toSlice, beq_iff_eq, List.getLast?_eq_some_iff]
  constructor
  · rintro ⟨l, hl⟩
    exact ⟨l, hl.symm⟩
  · rintro ⟨l, hl⟩
    exact ⟨l, hl.symm⟩

theorem namesOf_append (s t : String) : namesOf (s ++ "/" ++ t) = namesOf s ++ namesOf t := by
  simpa only [namesOf, List.filter_append] using
    congrArg (List.filter (!·.isEmpty)) (Text.split_append_mark '/' s t)

theorem namesOf_single {name : String} (hname : name ≠ "") (hslash : '/' ∉ name.toList) :
    namesOf name = [name] := by
  simp [namesOf, Text.split_of_not_mem hslash, hname]

theorem namesOf_empty : namesOf "" = [] := by
  have h : '/' ∉ "".toList := by simp
  simp [namesOf, Text.split_of_not_mem h]

/-! Entries. -/

def entryPath (base name : String) : String := Directory.join base ("configs/" ++ name)

def configsPath (base : String) : String := Directory.join base "configs"

/-- A text that may name a file. -/
structure IsName (name : String) : Prop where
  ne_empty : name ≠ ""
  no_slash : '/' ∉ name.toList

/-- Joining a path to a base adds its names behind those of the base. -/
theorem namesOf_join (base rest : String) :
    namesOf (Directory.join base rest) = namesOf base ++ namesOf rest := by
  unfold Directory.join
  split
  · next h =>
    rcases Bool.or_eq_true_iff.mp h with hempty | hslash
    · rw [String.isEmpty_iff.mp hempty, namesOf_empty]
      simp
    · rw [endsWith_slash, beq_iff_eq, List.getLast?_eq_some_iff] at hslash
      obtain ⟨l, hl⟩ := hslash
      have hbase : base = String.ofList l ++ "/" := by
        rw [← String.toList_inj]
        simpa using hl
      have hdrop := namesOf_append (String.ofList l) ""
      rw [String.append_empty, namesOf_empty, List.append_nil] at hdrop
      rw [hbase, namesOf_append, hdrop]
  · exact namesOf_append base rest

theorem namesOf_configs : namesOf "configs" = ["configs"] := namesOf_single (by decide) (by decide)

theorem namesOf_entryPath {base name : String} (hname : IsName name) :
    namesOf (entryPath base name) = namesOf base ++ ["configs", name] := by
  have hentry : namesOf ("configs/" ++ name) = ["configs", name] := by
    rw [show "configs/" ++ name = "configs" ++ "/" ++ name from rfl, namesOf_append,
      namesOf_configs, namesOf_single hname.ne_empty hname.no_slash]
    rfl
  rw [entryPath, namesOf_join, hentry]

theorem startsWith_join {rest : String} (base : String) (hrest : rest.startsWith "/" = false) :
    (Directory.join base rest).startsWith "/" = base.startsWith "/" := by
  rw [startsWith_slash] at hrest
  rw [startsWith_slash, startsWith_slash]
  unfold Directory.join
  cases hbase : base.toList with
  | nil =>
    have hempty : base = "" := by simpa using hbase
    subst base
    simpa using hrest
  | cons c front => split <;> simp [hbase]

theorem startsWith_entryPath (base name : String) :
    (entryPath base name).startsWith "/" = base.startsWith "/" := by
  apply startsWith_join
  rw [startsWith_slash]
  simp

theorem endsWith_entryPath {base name : String} (hname : IsName name) :
    (entryPath base name).endsWith "/" = false := by
  have hlast : ∀ front : String, (front ++ name).endsWith "/" = false := by
    intro front
    have hne : name.toList ≠ [] := by simpa using hname.ne_empty
    rw [endsWith_slash, String.toList_append, List.getLast?_append,
      List.getLast?_eq_some_getLast hne, Option.some_or, beq_eq_false_iff_ne]
    intro h
    exact hname.no_slash (Option.some.inj h ▸ List.getLast_mem hne)
  unfold entryPath Directory.join
  split
  · simpa only [String.append_assoc] using hlast (base ++ "configs/")
  · simpa only [String.append_assoc] using hlast (base ++ "/" ++ "configs/")

theorem ofPath_entryPath {base name : String} {r : Route} (hname : IsName name)
    (h : Route.ofPath (entryPath base name) = .ok r) :
    r = ⟨base.startsWith "/", namesOf base ++ ["configs", name], false⟩ := by
  rw [Route.ofPath_ok h, startsWith_entryPath, namesOf_entryPath hname, endsWith_entryPath hname]

structure Directory.Rooted (d : Directory) (root : Place) : Prop where
  walk : (namesOf d.base).foldlM d.tree.enter
    (if d.base.startsWith "/" then [] else d.tree.working) = .ok root
  directory : d.tree.node? root = some .directory

theorem Directory.Rooted.mono {base : String} {t t' : FileTree} {root : Place}
    (h : Directory.Rooted ⟨base, t⟩ root) (hkeeps : KeepsDirectories t t') :
    Directory.Rooted ⟨base, t'⟩ root where
  walk := by
    simp only [hkeeps.working]
    exact walk_mono hkeeps h.walk
  directory := hkeeps.directory root h.directory

theorem Directory.Rooted.unique {d : Directory} {root root' : Place} (h : d.Rooted root)
    (h' : d.Rooted root') : root = root' := Except.ok.inj (h.walk.symm.trans h'.walk)

def entryPlace (root : Place) (name : String) : Place := root ++ ["configs"] ++ [name]

theorem entryPlace_inj {root : Place} {name other : String}
    (h : entryPlace root name = entryPlace root other) : name = other := (append_inj h).2

theorem walk_configs {base : String} {t : FileTree} {root p : Place}
    (hroot : Directory.Rooted ⟨base, t⟩ root)
    (h : (namesOf base ++ ["configs"]).foldlM t.enter
      (if base.startsWith "/" then [] else t.working) = .ok p) : p = root ++ ["configs"] := by
  rw [List.foldlM_append, hroot.walk, ok_bind, List.foldlM_cons] at h
  obtain ⟨q, hq, hp⟩ := bind_eq_ok.mp h
  have hqp : q = p := Except.ok.inj hp
  rw [← hqp]
  exact (enter_ok hq).2.2 (by decide)

theorem last_of_findParent {base name last : String} {t : FileTree} {p : Place} {trailing : Bool}
    (hname : IsName name) (h : t.findParent (entryPath base name) = .ok (p, last, trailing)) :
    last = name := by
  obtain ⟨r, hr, _, _, _, hlast, _⟩ := findParent_eq_ok_iff.mp h
  have hroute := ofPath_entryPath hname hr
  subst hroute
  simpa using hlast

/-- The directory of an entry can be found in one place only. -/
theorem findParent_entryPath {base name last : String} {t : FileTree} {root p : Place}
    {trailing : Bool} (hroot : Directory.Rooted ⟨base, t⟩ root) (hname : IsName name)
    (h : t.findParent (entryPath base name) = .ok (p, last, trailing)) :
    p = root ++ ["configs"] ∧ last = name ∧ t.node? p = some .directory ∧
      name.utf8ByteSize ≤ maxName := by
  obtain ⟨r, hr, hwalk, hdir, hsize, _⟩ := findParent_eq_ok_iff.mp h
  have hroute := ofPath_entryPath hname hr
  subst hroute
  have hnames : (namesOf base ++ ["configs", name]).dropLast = namesOf base ++ ["configs"] := by
    rw [show namesOf base ++ ["configs", name] = (namesOf base ++ ["configs"]) ++ [name] by simp,
      List.dropLast_concat]
  rw [hnames] at hwalk
  have hname' := last_of_findParent hname h
  exact ⟨walk_configs hroot hwalk, hname', hdir, hname' ▸ hsize⟩

/-- What can be found under the path of an entry is the node in its place. -/
theorem find_entryPath_iff {base name : String} {t : FileTree} {root p : Place} {n : FileNode}
    (ht : t.IsTree) (hroot : Directory.Rooted ⟨base, t⟩ root) (hname : IsName name)
    (hdots : isDots name = false) :
    t.find (entryPath base name) = .ok (p, n) ↔
      (∃ r, Route.ofPath (entryPath base name) = .ok r) ∧ name.utf8ByteSize ≤ maxName ∧
        p = entryPlace root name ∧ t.node? p = some n := by
  rw [find_eq_ok_iff]
  have hsplit : namesOf base ++ ["configs", name] = (namesOf base ++ ["configs"]) ++ [name] := by
    simp
  constructor
  · rintro ⟨r, hr, hwalk, hn⟩
    have hroute := ofPath_entryPath hname hr
    subst hroute
    simp only [Route.walked, Bool.false_eq_true, if_false] at hwalk
    rw [hsplit, List.foldlM_append] at hwalk
    obtain ⟨q, hq, hp⟩ := bind_eq_ok.mp hwalk
    have hplace := walk_configs hroot hq
    subst hplace
    rw [List.foldlM_cons] at hp
    obtain ⟨q', hq', hp⟩ := bind_eq_ok.mp hp
    have hqp : q' = p := Except.ok.inj hp
    subst hqp
    obtain ⟨_, hsize, hentry⟩ := enter_ok hq'
    exact ⟨⟨_, hr⟩, hsize, hentry hdots, hn⟩
  · rintro ⟨⟨r, hr⟩, hsize, rfl, hn⟩
    have hroute := ofPath_entryPath hname hr
    subst hroute
    have hdir : t.node? (root ++ ["configs"]) = some .directory :=
      ht.parent _ name (fun hnone => by rw [entryPlace, hnone] at hn; contradiction)
    refine ⟨_, hr, ?_, hn⟩
    simp only [Route.walked, Bool.false_eq_true, if_false]
    rw [hsplit, List.foldlM_append, List.foldlM_append]
    have hstart : t.start ⟨base.startsWith "/", namesOf base ++ ["configs"] ++ [name], false⟩ =
        if base.startsWith "/" then [] else t.working := rfl
    rw [hstart, hroot.walk, ok_bind, List.foldlM_cons,
      enter_eq_append hroot.directory (by decide) (by decide)]
    simp only [ok_bind, List.foldlM_nil, List.foldlM_cons, pure_eq_ok]
    rw [enter_eq_append hdir hsize hdots]
    rfl

end ConfigRegistry.Blob
