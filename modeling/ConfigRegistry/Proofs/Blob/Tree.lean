import ConfigRegistry.Blob.FileTree
import ConfigRegistry.Proofs.Sequencing
import ConfigRegistry.Table

/-!
Trees in which every node lies in a directory. Making directories only adds directories, and files
come and go without a change to the directories, so a path that was walked once leads to the same
place ever after.
-/
namespace ConfigRegistry.Blob.FileTree

theorem node?_nil (t : FileTree) : t.node? [] = some .directory := by simp [node?]

theorem node?_set (t : FileTree) {p : Place} (n : FileNode) (hp : p ≠ []) (q : Place) :
    (t.set p n).node? q = if q = p then some n else t.node? q := by
  by_cases hq : q = []
  · subst q
    rw [if_neg (Ne.symm hp), node?_nil, node?_nil]
  · simp only [node?, set, if_neg hq, List.lookup_cons]
    by_cases h : q = p
    · simp [h]
    · have hne : (q == p) = false := by simpa using h
      rw [hne, Table.lookup_filter (· != p)]
      simp [h]

theorem set_set (t : FileTree) (p : Place) (n m : FileNode) : (t.set p n).set p m = t.set p m := by
  simp [set, List.filter_filter]

theorem node?_remove (t : FileTree) {p : Place} (hp : p ≠ []) (q : Place) :
    (t.remove p).node? q = if q = p then none else t.node? q := by
  by_cases hq : q = []
  · subst q
    rw [if_neg (Ne.symm hp), node?_nil, node?_nil]
  · simp only [node?, remove, if_neg hq]
    rw [Table.lookup_filter (· != p)]
    by_cases h : q = p <;> simp [h]

/-- Every node and the working directory lie in directories. -/
structure IsTree (t : FileTree) : Prop where
  parent : ∀ p name, t.node? (p ++ [name]) ≠ none → t.node? p = some .directory
  working : t.node? t.working = some .directory

/-- A later tree that has all directories of an earlier one. -/
structure KeepsDirectories (t t' : FileTree) : Prop where
  working : t'.working = t.working
  directory : ∀ p, t.node? p = some .directory → t'.node? p = some .directory

/-- A later tree that differs from an earlier one by new directories alone. -/
structure Grows (t t' : FileTree) : Prop where
  working : t'.working = t.working
  node : ∀ p, t'.node? p = t.node? p ∨ t.node? p = none ∧ t'.node? p = some .directory

theorem Grows.refl (t : FileTree) : Grows t t := ⟨rfl, fun _ => .inl rfl⟩

theorem Grows.trans {t t' t'' : FileTree} (h : Grows t t') (h' : Grows t' t'') :
    Grows t t'' where
  working := h'.working.trans h.working
  node p := by
    rcases h.node p with heq | ⟨hnone, hdir⟩
    · simpa only [heq] using h'.node p
    · rcases h'.node p with heq' | ⟨hnone', _⟩
      · exact .inr ⟨hnone, heq'.trans hdir⟩
      · rw [hdir] at hnone'
        contradiction

theorem Grows.keepsDirectories {t t' : FileTree} (h : Grows t t') : KeepsDirectories t t' where
  working := h.working
  directory p hp := by
    rcases h.node p with heq | ⟨hnone, _⟩
    · exact heq.trans hp
    · rw [hnone] at hp
      contradiction

/-- New directories leave every file alone and are no files themselves. -/
theorem Grows.file_iff {t t' : FileTree} (h : Grows t t') (p : Place) (data : ByteArray) :
    t'.node? p = some (.file data) ↔ t.node? p = some (.file data) := by
  rcases h.node p with heq | ⟨hnone, hdir⟩
  · rw [heq]
  · simp [hnone, hdir]

/-! Walking along names. -/

theorem enter_mono {t t' : FileTree} (h : KeepsDirectories t t') {p q : Place} {name : String}
    (hw : t.enter p name = .ok q) : t'.enter p name = .ok q := by
  unfold enter at hw ⊢
  cases hp : t.node? p with
  | none => simp [hp] at hw
  | some n =>
    cases n with
    | file data => simp [hp] at hw
    | directory =>
      rw [h.directory p hp]
      simpa only [hp] using hw

/-- A walk leads to the same place as long as no directory goes away. -/
theorem walk_mono {t t' : FileTree} (h : KeepsDirectories t t') {names : List String}
    {p q : Place} (hw : names.foldlM t.enter p = .ok q) : names.foldlM t'.enter p = .ok q := by
  induction names generalizing p with
  | nil => exact hw
  | cons name rest ih =>
    rw [List.foldlM_cons] at hw ⊢
    cases he : t.enter p name with
    | error fault => simp [he, bind, Except.bind] at hw
    | ok next =>
      rw [enter_mono h he]
      rw [he] at hw
      exact ih hw

theorem enter_eq_append {t : FileTree} {p : Place} {name : String}
    (hp : t.node? p = some .directory) (hsize : name.utf8ByteSize ≤ maxName)
    (hdots : isDots name = false) : t.enter p name = .ok (p ++ [name]) := by
  have hdot : name ≠ "." := by rintro rfl; simp [isDots] at hdots
  have hup : name ≠ ".." := by rintro rfl; simp [isDots] at hdots
  simp [enter, hp, hdot, hup, Nat.not_lt.mpr hsize]

/-- A name of one dot stays where it is. -/
theorem enter_dot {t : FileTree} {p q : Place} (hw : t.enter p "." = .ok q) :
    q = p ∧ t.node? p = some .directory := by
  unfold enter at hw
  cases hp : t.node? p with
  | none => simp [hp] at hw
  | some n =>
    cases n with
    | file data => simp [hp] at hw
    | directory =>
      rw [hp] at hw
      simp only [maxName] at hw
      split at hw
      · contradiction
      · simp only [if_true, Except.ok.injEq] at hw
        exact ⟨hw.symm, rfl⟩

/-- A walk goes only from a directory, by a name that is not too long. -/
theorem enter_ok {t : FileTree} {p q : Place} {name : String} (hw : t.enter p name = .ok q) :
    t.node? p = some .directory ∧ name.utf8ByteSize ≤ maxName ∧
      (isDots name = false → q = p ++ [name]) := by
  unfold enter at hw
  cases hp : t.node? p with
  | none => simp [hp] at hw
  | some n =>
    cases n with
    | file data => simp [hp] at hw
    | directory =>
      rw [hp] at hw
      by_cases hsize : maxName < name.utf8ByteSize
      · simp [hsize] at hw
      · refine ⟨rfl, Nat.not_lt.mp hsize, fun hdots => ?_⟩
        have h := enter_eq_append hp (Nat.not_lt.mp hsize) hdots
        unfold enter at h
        rw [hp] at h
        exact Except.ok.inj (hw.symm.trans h)

/-! Looking nodes up by their paths. -/

theorem Route.ofPath_ok {path : String} {r : Route} (h : Route.ofPath path = .ok r) :
    r = ⟨path.startsWith "/", namesOf path, path.endsWith "/"⟩ := by
  unfold Route.ofPath at h
  split at h
  · contradiction
  · split at h
    · contradiction
    · split at h
      · contradiction
      · exact (Except.ok.inj h).symm

/-- The names that lead to a node: behind a slash at the end stands one dot more. -/
def Route.walked (r : Route) : List String := if r.trailing then r.names ++ ["."] else r.names

/-- A path is found when it can be read, walked to its end, and something stands there. -/
theorem find_eq_ok_iff {t : FileTree} {path : String} {p : Place} {n : FileNode} :
    t.find path = .ok (p, n) ↔
      ∃ r, Route.ofPath path = .ok r ∧ r.walked.foldlM t.enter (t.start r) = .ok p ∧
        t.node? p = some n := by
  unfold find
  simp only [bind_eq_ok]
  constructor
  · rintro ⟨r, hr, q, hq, hn⟩
    cases hnode : t.node? q with
    | none => simp [hnode] at hn
    | some m =>
      simp only [hnode, pure_eq_ok, Except.ok.injEq, Prod.mk.injEq] at hn
      obtain ⟨rfl, rfl⟩ := hn
      exact ⟨r, hr, hq, hnode⟩
  · rintro ⟨r, hr, hq, hn⟩
    exact ⟨r, hr, p, hq, by simp [hn]⟩

/-- The same for the directory that a path ends in, and the name that it has there. -/
theorem findParent_eq_ok_iff {t : FileTree} {path : String} {p : Place} {last : String}
    {trailing : Bool} :
    t.findParent path = .ok (p, last, trailing) ↔
      ∃ r, Route.ofPath path = .ok r ∧ r.names.dropLast.foldlM t.enter (t.start r) = .ok p ∧
        t.node? p = some .directory ∧ last.utf8ByteSize ≤ maxName ∧
        last = r.names.getLast?.getD "." ∧ trailing = r.trailing := by
  unfold findParent
  simp only [bind_eq_ok]
  constructor
  · rintro ⟨r, hr, q, hq, hn⟩
    cases hnode : t.node? q with
    | none => simp [hnode] at hn
    | some m =>
      cases m with
      | file data => simp [hnode] at hn
      | directory =>
        simp only [hnode] at hn
        split at hn
        · simp at hn
        · next hsize =>
          simp only [pure_eq_ok, Except.ok.injEq, Prod.mk.injEq] at hn
          obtain ⟨rfl, rfl, rfl⟩ := hn
          exact ⟨r, hr, hq, hnode, Nat.not_lt.mp hsize, rfl, rfl⟩
  · rintro ⟨r, hr, hq, hn, hsize, rfl, rfl⟩
    exact ⟨r, hr, p, hq, by simp [hn, Nat.not_lt.mpr hsize]⟩

/-- The directory of a path is found again as long as no directory goes away. -/
theorem findParent_mono {t t' : FileTree} (h : KeepsDirectories t t') {path : String} {p : Place}
    {last : String} {trailing : Bool}
    (hfind : t.findParent path = .ok (p, last, trailing)) :
    t'.findParent path = .ok (p, last, trailing) := by
  obtain ⟨r, hr, hwalk, hp, hsize, hlast, htrailing⟩ := findParent_eq_ok_iff.mp hfind
  refine findParent_eq_ok_iff.mpr ⟨r, hr, ?_, h.directory p hp, hsize, hlast, htrailing⟩
  have hstart : t'.start r = t.start r := by simp only [start, h.working]
  rw [hstart]
  exact walk_mono h hwalk

/-- A node is found where the directory of its last name is. -/
theorem find_of_findParent {t : FileTree} {path : String} {p : Place} {last : String} {n : FileNode}
    (h : t.findParent path = .ok (p, last, false))
    (hdots : isDots last = false) (hnode : t.node? (p ++ [last]) = some n) :
    t.find path = .ok (p ++ [last], n) := by
  obtain ⟨r, hr, hwalk, hp, hsize, hlast, htrailing⟩ := findParent_eq_ok_iff.mp h
  have hnames : r.walked = r.names.dropLast ++ [last] := by
    rw [Route.walked, ← htrailing]
    cases hname : r.names.getLast? with
    | none =>
      rw [hname] at hlast
      subst hlast
      contradiction
    | some name =>
      rw [hname] at hlast
      obtain rfl : last = name := hlast
      obtain ⟨front, hfront⟩ := List.getLast?_eq_some_iff.mp hname
      simp [hfront]
  refine find_eq_ok_iff.mpr ⟨r, hr, ?_, hnode⟩
  rw [hnames, List.foldlM_append, hwalk, ok_bind, List.foldlM_cons,
    enter_eq_append hp hsize hdots]
  rfl

/-! What each operation does when it succeeds. -/

theorem makeDirectory_ok {t t' : FileTree} {path : String} (h : t.makeDirectory path = .ok t') :
    ∃ p last trailing, t.findParent path = .ok (p, last, trailing) ∧ isDots last = false ∧
      t.node? (p ++ [last]) = none ∧ t' = t.set (p ++ [last]) .directory := by
  unfold makeDirectory at h
  obtain ⟨⟨p, last, trailing⟩, hfind, h⟩ := bind_eq_ok.mp h
  cases hdots : isDots last with
  | true => simp [hdots] at h
  | false =>
    cases hnode : t.node? (p ++ [last]) with
    | some n => simp [hdots, hnode] at h
    | none =>
      simp only [hdots, hnode, Option.isSome_none, Bool.or_self, Bool.false_eq_true, if_false,
        pure_eq_ok, Except.ok.injEq] at h
      exact ⟨p, last, trailing, hfind, hdots, hnode, h.symm⟩

theorem write_ok {t t' : FileTree} {path : String} {data : ByteArray}
    (h : t.write path data = .ok t') :
    ∃ p last, t.findParent path = .ok (p, last, false) ∧ isDots last = false ∧
      t.node? (p ++ [last]) ≠ some .directory ∧ t' = t.set (p ++ [last]) (.file data) := by
  unfold write at h
  obtain ⟨⟨p, last, trailing⟩, hfind, h⟩ := bind_eq_ok.mp h
  cases hdots : isDots last with
  | true => simp [hdots] at h
  | false =>
    cases trailing with
    | true => simp [hdots] at h
    | false =>
      simp only [hdots, Bool.or_self, Bool.false_eq_true, if_false] at h
      split at h
      · simp at h
      · next hnode => exact ⟨p, last, hfind, hdots, hnode, (Except.ok.inj h).symm⟩

theorem removeFile_ok {t t' : FileTree} {path : String} (h : t.removeFile path = .ok t') :
    ∃ p last data, t.findParent path = .ok (p, last, false) ∧ isDots last = false ∧
      t.node? (p ++ [last]) = some (.file data) ∧ t' = t.remove (p ++ [last]) := by
  unfold removeFile at h
  obtain ⟨⟨p, last, trailing⟩, hfind, h⟩ := bind_eq_ok.mp h
  cases hdots : isDots last with
  | true => simp [hdots] at h
  | false =>
    simp only [hdots, Bool.false_eq_true, if_false] at h
    split at h
    · simp at h
    · simp at h
    · next data hnode =>
      cases trailing with
      | true => simp at h
      | false =>
        simp only [Bool.false_eq_true, if_false, pure_eq_ok, Except.ok.injEq] at h
        exact ⟨p, last, data, hfind, hdots, hnode, h.symm⟩

/-- A move takes the file away from its source and puts it at its target, which is not a
directory. -/
theorem rename_ok {t t' : FileTree} {source target : String}
    (h : t.rename source target = .ok t') :
    ∃ sp slast strailing tp tlast data, t.findParent source = .ok (sp, slast, strailing) ∧
      t.findParent target = .ok (tp, tlast, false) ∧ isDots slast = false ∧
      isDots tlast = false ∧ t.node? (sp ++ [slast]) = some (.file data) ∧
      t.node? (tp ++ [tlast]) ≠ some .directory ∧
      t' = (t.remove (sp ++ [slast])).set (tp ++ [tlast]) (.file data) := by
  unfold rename at h
  obtain ⟨⟨sp, slast, strailing⟩, hs, h⟩ := bind_eq_ok.mp h
  obtain ⟨⟨tp, tlast, trailing⟩, ht, h⟩ := bind_eq_ok.mp h
  cases hsdots : isDots slast with
  | true => simp [hsdots] at h
  | false =>
    cases htdots : isDots tlast with
    | true => simp [htdots] at h
    | false =>
      simp only [hsdots, htdots, Bool.or_self, Bool.false_eq_true, if_false] at h
      split at h
      · simp at h
      · simp at h
      · next data hnode =>
        cases trailing with
        | true => simp at h
        | false =>
          simp only [Bool.false_eq_true, if_false] at h
          split at h
          · simp at h
          · next htarget =>
            exact ⟨sp, slast, strailing, tp, tlast, data, hs, ht, hsdots, htdots, hnode, htarget,
              (Except.ok.inj h).symm⟩

theorem write_eq_ok {t : FileTree} {path : String} {data : ByteArray} {p : Place} {last : String}
    (hfind : t.findParent path = .ok (p, last, false)) (hdots : isDots last = false)
    (hnode : t.node? (p ++ [last]) ≠ some .directory) :
    t.write path data = .ok (t.set (p ++ [last]) (.file data)) := by
  unfold write
  rw [hfind, ok_bind]
  simp only [hdots, Bool.or_self, Bool.false_eq_true, if_false]
  rfl

theorem removeFile_eq_ok {t : FileTree} {path : String} {data : ByteArray} {p : Place}
    {last : String} (hfind : t.findParent path = .ok (p, last, false)) (hdots : isDots last = false)
    (hnode : t.node? (p ++ [last]) = some (.file data)) :
    t.removeFile path = .ok (t.remove (p ++ [last])) := by
  unfold removeFile
  rw [hfind, ok_bind]
  simp only [hdots, Bool.false_eq_true, if_false, hnode]
  rfl

/-! Trees stay trees. -/

theorem append_ne_nil (p : Place) (name : String) : p ++ [name] ≠ [] := by simp

theorem append_inj {p q : Place} {name other : String} (h : p ++ [name] = q ++ [other]) :
    p = q ∧ name = other := by
  have h' := List.append_inj' h rfl
  exact ⟨h'.1, List.singleton_inj.mp h'.2⟩

theorem grows_set {t : FileTree} {p : Place} (hp : p ≠ []) (hnode : t.node? p = none) :
    Grows t (t.set p .directory) where
  working := rfl
  node q := by
    rw [node?_set t _ hp]
    by_cases hq : q = p
    · subst q
      exact .inr ⟨hnode, if_pos rfl⟩
    · exact .inl (if_neg hq)

theorem IsTree.set {t : FileTree} (ht : t.IsTree) {p : Place} {name : String} {n : FileNode}
    (hp : t.node? p = some .directory) (hkeeps : KeepsDirectories t (t.set (p ++ [name]) n)) :
    (t.set (p ++ [name]) n).IsTree where
  parent q other hq := by
    rw [node?_set t _ (append_ne_nil p name)] at hq
    by_cases heq : q ++ [other] = p ++ [name]
    · rw [(append_inj heq).1]
      exact hkeeps.directory p hp
    · rw [if_neg heq] at hq
      exact hkeeps.directory q (ht.parent q other hq)
  working := hkeeps.directory _ ht.working

theorem keepsDirectories_set_file {t : FileTree} {p : Place} (data : ByteArray) (hp : p ≠ [])
    (hnode : t.node? p ≠ some .directory) : KeepsDirectories t (t.set p (.file data)) where
  working := rfl
  directory q hq := by
    rw [node?_set t _ hp, if_neg]
    · exact hq
    · rintro rfl
      exact hnode hq

theorem keepsDirectories_remove {t : FileTree} {p : Place} (hp : p ≠ [])
    (hnode : t.node? p ≠ some .directory) : KeepsDirectories t (t.remove p) where
  working := rfl
  directory q hq := by
    rw [node?_remove t hp, if_neg]
    · exact hq
    · rintro rfl
      exact hnode hq

theorem IsTree.remove {t : FileTree} (ht : t.IsTree) {p : Place} (hp : p ≠ [])
    (hnode : t.node? p ≠ some .directory) : (t.remove p).IsTree where
  parent q other hq := by
    rw [node?_remove t hp] at hq
    split at hq
    · contradiction
    · exact (keepsDirectories_remove hp hnode).directory q (ht.parent q other hq)
  working := (keepsDirectories_remove hp hnode).directory _ ht.working

theorem makeDirectory_grows {t t' : FileTree} {path : String} (ht : t.IsTree)
    (h : t.makeDirectory path = .ok t') : t'.IsTree ∧ Grows t t' := by
  obtain ⟨p, last, _, hfind, _, hnode, rfl⟩ := makeDirectory_ok h
  obtain ⟨_, _, _, hp, _⟩ := findParent_eq_ok_iff.mp hfind
  have hgrows := grows_set (append_ne_nil p last) hnode
  exact ⟨ht.set hp hgrows.keepsDirectories, hgrows⟩

/-- Making directories only adds directories, also when it fails half way. -/
theorem makeDirectories_grows (fuel : Nat) {t : FileTree} (ht : t.IsTree) (path : String) :
    (makeDirectories fuel t path).2.IsTree ∧ Grows t (makeDirectories fuel t path).2 := by
  induction fuel generalizing t path with
  | zero => exact ⟨ht, Grows.refl t⟩
  | succ fuel ih =>
    unfold makeDirectories
    split
    · exact ⟨ht, Grows.refl t⟩
    · split
      · next t' h => exact makeDirectory_grows ht h
      · split
        · exact ⟨ht, Grows.refl t⟩
        · split
          · exact ⟨ht, Grows.refl t⟩
          · split
            · exact ⟨ht, Grows.refl t⟩
            · next parent _ =>
              obtain ⟨ht', hgrows⟩ := ih ht parent
              split
              · next fault t' h => simpa only [h] using And.intro ht' hgrows
              · next t' h =>
                rw [h] at ht' hgrows
                split
                · next t'' h' =>
                  obtain ⟨ht'', hgrows'⟩ := makeDirectory_grows ht' h'
                  exact ⟨ht'', hgrows.trans hgrows'⟩
                · split
                  · exact ⟨ht', hgrows⟩
                  · exact ⟨ht', hgrows⟩

end ConfigRegistry.Blob.FileTree
