import ConfigRegistry.Proofs.Blob.Backends
import ConfigRegistry.Proofs.Blob.Calls
import ConfigRegistry.Proofs.Blob.Paths

/-!
Where the files of a directory lie. Whatever the file system does, every file that is asked for lies
inside the base, if the key has a name at all; a key of nothing but dots is no other place than the
base itself, and the file that is written first then lies beside the base.
-/
namespace ConfigRegistry.Blob

open FileTree

namespace FileSystem

variable {σ τ α : Type}

/-- The same result, and states that are related again. -/
def Alike (R : σ → τ → Prop) (r : α × σ) (q : α × τ) : Prop := r.1 = q.1 ∧ R r.2 q.2

theorem Alike.eq {R : σ → τ → Prop} {r : α × σ} {q : α × τ} (h : Alike R r q) :
    ∃ a s t, r = (a, s) ∧ q = (a, t) ∧ R s t :=
  ⟨r.1, r.2, q.2, rfl, Prod.ext h.1.symm rfl, h.2⟩

/-- Two file systems that cannot be told apart as long as only files under certain paths are asked
for. -/
structure Simulates (fs : FileSystem σ) (gs : FileSystem τ) (allowed : String → Prop)
    (R : σ → τ → Prop) : Prop where
  makeDirectories : ∀ path s t, R s t →
    Alike R (fs.makeDirectories path s) (gs.makeDirectories path t)
  create : ∀ path s t, allowed path → R s t → Alike R (fs.create path s) (gs.create path t)
  fill : ∀ path data s t, allowed path → R s t →
    Alike R (fs.fill path data s) (gs.fill path data t)
  sync : ∀ path s t, allowed path → R s t → Alike R (fs.sync path s) (gs.sync path t)
  rename : ∀ source target s t, allowed source → allowed target → R s t →
    Alike R (fs.rename source target s) (gs.rename source target t)
  removeFile : ∀ path s t, allowed path → R s t →
    Alike R (fs.removeFile path s) (gs.removeFile path t)
  exists? : ∀ path s t, allowed path → R s t → Alike R (fs.exists? path s) (gs.exists? path t)
  read : ∀ path s t, allowed path → R s t → Alike R (fs.read path s) (gs.read path t)

variable {fs : FileSystem σ} {gs : FileSystem τ} {allowed : String → Prop} {R : σ → τ → Prop}
  {base key path temporary mark : String} {data : ByteArray} {s : σ} {t : τ}

theorem Simulates.ensureParent (h : Simulates fs gs allowed R) (path : String) (hst : R s t) :
    Alike R (fs.ensureParent path s) (gs.ensureParent path t) := by
  unfold FileSystem.ensureParent
  cases FileTree.parentPath? path with
  | none => exact ⟨rfl, hst⟩
  | some parent => exact h.makeDirectories parent s t hst

theorem Simulates.draft (h : Simulates fs gs allowed R) (htemporary : allowed temporary)
    (data : ByteArray) (hst : R s t) :
    Alike R (fs.draft temporary data s) (gs.draft temporary data t) := by
  obtain ⟨created, s, t, hcreate, hcreate', hst⟩ := (h.create temporary s t htemporary hst).eq
  rw [FileSystem.draft, FileSystem.draft, hcreate, hcreate']
  cases created with
  | error fault => exact ⟨rfl, hst⟩
  | ok _ =>
    obtain ⟨filled, s, t, hfill, hfill', hst⟩ := (h.fill temporary data s t htemporary hst).eq
    simp only [hfill, hfill']
    cases filled with
    | error fault => exact ⟨rfl, hst⟩
    | ok _ =>
      obtain ⟨synced, s, t, hsync, hsync', hst⟩ := (h.sync temporary s t htemporary hst).eq
      simp only [hsync, hsync']
      cases synced with
      | error fault => exact ⟨rfl, hst⟩
      | ok _ => exact ⟨rfl, hst⟩

/-- A draft is written and moved alike in both, since it stands at allowed paths only. -/
theorem Simulates.deliver (h : Simulates fs gs allowed R) (htemporary : allowed temporary)
    (hpath : allowed path) (data : ByteArray) (hst : R s t) :
    Alike R (fs.deliver temporary path data s) (gs.deliver temporary path data t) := by
  obtain ⟨drafted, s, t, hdraft, hdraft', hst⟩ := (h.draft htemporary data hst).eq
  rw [FileSystem.deliver, FileSystem.deliver, hdraft, hdraft']
  cases drafted with
  | error message => exact ⟨rfl, hst⟩
  | ok _ =>
    obtain ⟨moved, s, t, hmove, hmove', hst⟩ :=
      (h.rename temporary path s t htemporary hpath hst).eq
    simp only [hmove, hmove']
    cases moved with
    | error fault => exact ⟨rfl, hst⟩
    | ok _ => exact ⟨rfl, hst⟩

/-- Storing an archive comes to the same in both. -/
theorem Simulates.put (h : Simulates fs gs allowed R) (hpath : allowed (Directory.join base key))
    (htemporary : allowed (Directory.temporaryPath (Directory.join base key) mark))
    (data : ByteArray) (hst : R s t) :
    Alike R (fs.put base key data mark s) (gs.put base key data mark t) := by
  unfold FileSystem.put
  split
  · obtain ⟨ensured, s, t, hensure, hensure', hst⟩ :=
      (h.ensureParent (Directory.join base key) hst).eq
    simp only [hensure, hensure']
    cases ensured with
    | error fault => exact ⟨rfl, hst⟩
    | ok _ =>
      obtain ⟨delivered, s, t, hdeliver, hdeliver', hst⟩ :=
        (h.deliver htemporary hpath data hst).eq
      simp only [hdeliver, hdeliver']
      cases delivered with
      | error message => exact ⟨rfl, (h.removeFile _ s t htemporary hst).2⟩
      | ok _ => exact ⟨rfl, hst⟩
  · exact ⟨rfl, hst⟩

theorem Simulates.get (h : Simulates fs gs allowed R) (hpath : allowed (Directory.join base key))
    (hst : R s t) : Alike R (fs.get base key s) (gs.get base key t) := by
  unfold FileSystem.get
  split
  · obtain ⟨found, s, t, hexists, hexists', hst⟩ := (h.exists? _ s t hpath hst).eq
    simp only [hexists, hexists']
    cases found with
    | false => exact ⟨rfl, hst⟩
    | true =>
      obtain ⟨content, s, t, hread, hread', hst⟩ := (h.read _ s t hpath hst).eq
      simp only [hread, hread']
      cases content with
      | error fault => exact ⟨rfl, hst⟩
      | ok _ => exact ⟨rfl, hst⟩
  · exact ⟨rfl, hst⟩

theorem Simulates.delete (h : Simulates fs gs allowed R)
    (hpath : allowed (Directory.join base key)) (hst : R s t) :
    Alike R (fs.delete base key s) (gs.delete base key t) := by
  unfold FileSystem.delete
  split
  · obtain ⟨found, s, t, hexists, hexists', hst⟩ := (h.exists? _ s t hpath hst).eq
    simp only [hexists, hexists']
    cases found with
    | false => exact ⟨rfl, hst⟩
    | true =>
      obtain ⟨removed, s, t, hremove, hremove', hst⟩ := (h.removeFile _ s t hpath hst).eq
      simp only [hremove, hremove']
      cases removed with
      | error fault => exact ⟨rfl, hst⟩
      | ok _ => exact ⟨rfl, hst⟩
  · exact ⟨rfl, hst⟩

theorem Simulates.contains (h : Simulates fs gs allowed R)
    (hpath : allowed (Directory.join base key)) (hst : R s t) :
    Alike R (fs.contains base key s) (gs.contains base key t) := by
  unfold FileSystem.contains
  split
  · obtain ⟨found, s, t, hexists, hexists', hst⟩ := (h.exists? _ s t hpath hst).eq
    simp only [hexists, hexists']
    exact ⟨rfl, hst⟩
  · exact ⟨rfl, hst⟩

/-! Taking notes. -/

def noted (paths : List String) (s : σ × List String) (r : α × σ) : α × σ × List String :=
  (r.1, r.2, s.2 ++ paths)

def noting (fs : FileSystem σ) : FileSystem (σ × List String) where
  makeDirectories path s := noted [] s (fs.makeDirectories path s.1)
  create path s := noted [path] s (fs.create path s.1)
  fill path data s := noted [path] s (fs.fill path data s.1)
  sync path s := noted [path] s (fs.sync path s.1)
  rename source target s := noted [source, target] s (fs.rename source target s.1)
  removeFile path s := noted [path] s (fs.removeFile path s.1)
  exists? path s := noted [path] s (fs.exists? path s.1)
  read path s := noted [path] s (fs.read path s.1)

def Notes (allowed : String → Prop) (s : σ × List String) (t : σ) : Prop :=
  s.1 = t ∧ ∀ path ∈ s.2, allowed path

theorem alike_noted {s : σ × List String} {t : σ} (hs : Notes allowed s t) {paths : List String}
    (hpaths : ∀ path ∈ paths, allowed path) (r : α × σ) :
    Alike (Notes allowed) (noted paths s r) r :=
  ⟨rfl, rfl, fun path hpath => (List.mem_append.mp hpath).elim (hs.2 path) (hpaths path)⟩

/-- Taking notes changes nothing else, and notes are taken of nothing else. -/
theorem noting_simulates (fs : FileSystem σ) (allowed : String → Prop) :
    Simulates fs.noting fs allowed (Notes allowed) where
  makeDirectories path s t hs := hs.1 ▸ alike_noted hs (by simp) _
  create path s t hpath hs := hs.1 ▸ alike_noted hs (by simpa using hpath) _
  fill path data s t hpath hs := hs.1 ▸ alike_noted hs (by simpa using hpath) _
  sync path s t hpath hs := hs.1 ▸ alike_noted hs (by simpa using hpath) _
  rename source target s t hsource htarget hs :=
    hs.1 ▸ alike_noted hs (by simp [hsource, htarget]) _
  removeFile path s t hpath hs := hs.1 ▸ alike_noted hs (by simpa using hpath) _
  exists? path s t hpath hs := hs.1 ▸ alike_noted hs (by simpa using hpath) _
  read path s t hpath hs := hs.1 ▸ alike_noted hs (by simpa using hpath) _

/-- The paths of all files that are asked for when an archive is stored, read, removed or looked
for. -/
def asked (fs : FileSystem σ) (base key : String) (data : ByteArray) (mark : Uuid) (s : σ) :
    List String :=
  (fs.noting.put base key data mark.render (s, [])).2.2 ++
    (fs.noting.get base key (s, [])).2.2 ++ (fs.noting.delete base key (s, [])).2.2 ++
    (fs.noting.contains base key (s, [])).2.2

/-- All paths that a store asks for under such a key lie inside its base. -/
theorem asked_inside {key : String} (hkey : Directory.isKey key = true)
    (h : base = "" ∨ Named key) (fs : FileSystem σ) (data : ByteArray) (mark : Uuid) (s : σ) :
    ∀ path ∈ fs.asked base key data mark s, Inside base path := by
  have hpath := (inside_join_iff hkey).mpr h
  have htemporary := (inside_temporaryPath_iff mark).mpr hpath
  have hnoting := fs.noting_simulates (Inside base)
  have hnone : Notes (Inside base) (s, []) s := ⟨rfl, by simp⟩
  have hput := (hnoting.put hpath htemporary data hnone).2.2
  have hget := (hnoting.get hpath hnone).2.2
  have hdelete := (hnoting.delete hpath hnone).2.2
  have hcontains := (hnoting.contains hpath hnone).2.2
  intro path hmem
  rw [asked, List.mem_append, List.mem_append, List.mem_append] at hmem
  rcases hmem with ((hmem | hmem) | hmem) | hmem
  · exact hput path hmem
  · exact hget path hmem
  · exact hdelete path hmem
  · exact hcontains path hmem

theorem join_mem_asked {key : String} (hkey : Directory.isKey key = true) (fs : FileSystem σ)
    (base : String) (data : ByteArray) (mark : Uuid) (s : σ) :
    Directory.join base key ∈ fs.asked base key data mark s := by
  refine List.mem_append_right _ ?_
  rw [FileSystem.contains, if_pos hkey]
  exact List.mem_singleton_self _

/-- A text that is no key is refused, and nothing is asked for. A key leads to files inside the
base, whatever the file system does and whether they are final ones or written first, exactly if it
has a name or the base is the working directory. The operations of a directory ask for the same
files of its tree. -/
theorem files_confined (fs : FileSystem σ) (base key : String) (data : ByteArray) (mark : Uuid)
    (s : σ) :
    (Directory.isKey key = false → fs.put base key data mark.render s = (.error invalidKey, s) ∧
      fs.get base key s = (.error invalidKey, s) ∧
      fs.delete base key s = (.error invalidKey, s) ∧
      fs.contains base key s = (.error invalidKey, s) ∧ fs.asked base key data mark s = []) ∧
    (Directory.isKey key = true →
      ((∀ path ∈ fs.asked base key data mark s, Inside base path) ↔ base = "" ∨ Named key)) ∧
    ∀ t : FileTree,
      onTree.put base key data mark.render t =
        ((Directory.put ⟨base, t⟩ key data mark.render).1,
          (Directory.put ⟨base, t⟩ key data mark.render).2.tree) ∧
      onTree.get base key t = (Directory.get ⟨base, t⟩ key, t) ∧
      onTree.delete base key t = (match Directory.delete ⟨base, t⟩ key with
        | .ok (removed, d) => (.ok removed, d.tree)
        | .error fault => (.error fault, t)) ∧
      onTree.contains base key t = (Directory.contains ⟨base, t⟩ key, t) := by
  refine ⟨fun hkey => ?_, fun hkey => ⟨fun hinside => ?_, fun h => ?_⟩, fun t => ?_⟩
  · have hnone : ¬ Directory.isKey key = true := by rw [hkey]; decide
    simp only [asked, FileSystem.put, FileSystem.get, FileSystem.delete, FileSystem.contains,
      if_neg hnone, List.append_nil, and_self]
  · exact (inside_join_iff hkey).mp (hinside _ (join_mem_asked hkey fs base data mark s))
  · exact asked_inside hkey h fs data mark s
  · exact ⟨put_onTree t base key data mark.render, get_onTree t base key, delete_onTree t base key,
      contains_onTree t base key⟩

end FileSystem

/-! A key of one dot. -/

theorem join_dot : Directory.join "/srv" "." = "/srv/." := by
  have hends : "/srv".endsWith "/" = false := by
    rw [endsWith_slash]
    decide
  rw [Directory.join, hends]
  rfl

theorem temporaryPath_dot (mark : String) :
    Directory.temporaryPath (Directory.join "/srv" ".") mark = "/srv.tmp-" ++ mark := by
  rw [join_dot, Directory.temporaryPath, Directory.withExtension, ← String.toList_inj]
  simp [FileTree.dropTrailing, Directory.stem, FileTree.isDots]

theorem isKey_dot : Directory.isKey "." = true := by
  refine isKey_iff.mpr ⟨by decide, rfl, ?_⟩
  rw [startsWith_slash]
  decide

/-- The path of the dot is another one of the base. -/
theorem find_join_dot :
    served.find (Directory.join "/srv" ".") = .ok (["srv"], .directory) := by
  have hroute : Route.ofPath (Directory.join "/srv" ".") = .ok ⟨true, ["srv", "."], false⟩ := by
    have hbase : "/srv" = slashed 1 := rfl
    have hstarts : ".".startsWith "/" = false := (isKey_iff.mp isKey_dot).2.2
    have hends : "/srv/.".endsWith "/" = false := by
      rw [endsWith_slash]
      decide
    rw [ofPath_eq_ok (by simp [join_dot]) (by simp [join_dot]) (by rw [join_dot]; decide),
      namesOf_join, startsWith_join _ hstarts, join_dot, hends, hbase, namesOf_slashed,
      startsWith_slashed Nat.one_pos, namesOf_dot]
    rfl
  exact find_eq_ok_iff.mpr ⟨_, hroute, rfl, rfl⟩

theorem not_named_dot : ¬ Named "." := by
  simp [Named, namesOf_dot]

/-- A dot is taken for a key. It is found, as the base is, and a file that is written for it first
lies beside the base. -/
theorem dot_not_confined : Directory.isKey "." = true ∧
    Directory.contains ⟨"/srv", served⟩ "." = .ok true ∧
    Directory.join "/srv" "." ∈ FileSystem.onTree.asked "/srv" "." .empty
      ⟨List.replicate 16 7, List.length_replicate⟩ served ∧
    ¬ Inside "/srv" (Directory.join "/srv" ".") ∧
    ∀ mark : Uuid,
      Directory.temporaryPath (Directory.join "/srv" ".") mark.render = "/srv.tmp-" ++ mark.render ∧
      ¬ Inside "/srv" (Directory.temporaryPath (Directory.join "/srv" ".") mark.render) := by
  have hfound : Directory.contains ⟨"/srv", served⟩ "." = .ok true := by
    rw [Directory.contains, Directory.path, if_pos isKey_dot, ok_bind, FileTree.exists?,
      find_join_dot]
    rfl
  have houtside : ¬ Inside "/srv" (Directory.join "/srv" ".") := by
    rw [inside_join_iff isKey_dot, not_or]
    exact ⟨by decide, not_named_dot⟩
  refine ⟨isKey_dot, hfound, FileSystem.join_mem_asked isKey_dot _ _ _ _ _, houtside,
    fun mark => ?_⟩
  exact ⟨temporaryPath_dot mark.render, fun h => houtside ((inside_temporaryPath_iff mark).mp h)⟩

end ConfigRegistry.Blob
