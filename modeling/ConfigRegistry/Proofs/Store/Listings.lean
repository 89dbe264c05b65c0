import Mathlib.Data.List.Sort
import ConfigRegistry.Proofs.Pages
import ConfigRegistry.Proofs.Store.Lives

/-!
Listings of workspaces. A listing holds the versions of its workspace once each, the newest first,
and of two versions of one moment the one with the greater identifier. Its pages hold it from
beginning to end, and in whatever order the records are kept, it is the same.
-/
namespace ConfigRegistry

/-! The order of versions. -/

namespace Time.Instant

variable {a b c : Instant}

theorem isBefore_iff :
    a.isBefore b = true ↔ a.seconds < b.seconds ∨ a.seconds = b.seconds ∧ a.nanos < b.nanos := by
  simp [isBefore]

theorem isBefore_irrefl (a : Instant) : a.isBefore a = false := by
  simp [isBefore]

theorem isBefore_trans (h : a.isBefore b = true) (h' : b.isBefore c = true) :
    a.isBefore c = true := by
  rw [isBefore_iff] at *
  omega

theorem isBefore_trichotomy (a b : Instant) :
    a.isBefore b = true ∨ a = b ∨ b.isBefore a = true := by
  have hext : a = b ↔ a.seconds = b.seconds ∧ a.nanos = b.nanos := by
    cases a
    cases b
    simp
  rw [hext, isBefore_iff, isBefore_iff]
  omega

end Time.Instant

namespace Version

variable {u v w : Version}

/-- The version was created later than the other, or at the same moment and has the greater
identifier. -/
def Newer (v w : Version) : Prop :=
  w.createdAt.isBefore v.createdAt = true ∨ v.createdAt = w.createdAt ∧ w.id < v.id

instance (v w : Version) : Decidable (v.Newer w) :=
  inferInstanceAs (Decidable (_ ∨ _))

theorem precedes_iff :
    v.precedes w = true ↔
      w.createdAt.isBefore v.createdAt = true ∨ v.createdAt = w.createdAt ∧ w.id ≤ v.id := by
  simp [precedes]

theorem precedes_total (v w : Version) : (v.precedes w || w.precedes v) = true := by
  rw [Bool.or_eq_true, precedes_iff, precedes_iff]
  rcases Time.Instant.isBefore_trichotomy v.createdAt w.createdAt with hbefore | hsame | hafter
  · exact .inr (.inl hbefore)
  · rcases String.le_total w.id v.id with hid | hid
    · exact .inl (.inr ⟨hsame, hid⟩)
    · exact .inr (.inr ⟨hsame.symm, hid⟩)
  · exact .inl (.inl hafter)

theorem precedes_trans (h : u.precedes v = true) (h' : v.precedes w = true) :
    u.precedes w = true := by
  rw [precedes_iff] at *
  rcases h with hbefore | ⟨hsame, hid⟩
  · rcases h' with hbefore' | ⟨hsame', _⟩
    · exact .inl (Time.Instant.isBefore_trans hbefore' hbefore)
    · exact .inl (hsame' ▸ hbefore)
  · rcases h' with hbefore' | ⟨hsame', hid'⟩
    · exact .inl (hsame ▸ hbefore')
    · exact .inr ⟨hsame.trans hsame', String.le_trans hid' hid⟩

/-- Of two versions with identifiers of their own, the one that precedes is the newer one. -/
theorem newer_of_precedes (h : v.precedes w = true) (hid : v.id ≠ w.id) : v.Newer w := by
  rcases precedes_iff.mp h with hbefore | ⟨hsame, hle⟩
  · exact .inl hbefore
  · exact .inr ⟨hsame, Std.lt_of_le_of_ne hle hid.symm⟩

theorem not_newer_self (v : Version) : ¬ v.Newer v := by
  rintro (hbefore | ⟨_, hid⟩)
  · rw [Time.Instant.isBefore_irrefl] at hbefore
    contradiction
  · exact String.lt_irrefl _ hid

theorem Newer.trans (h : u.Newer v) (h' : v.Newer w) : u.Newer w := by
  rcases h with hbefore | ⟨hsame, hid⟩
  · rcases h' with hbefore' | ⟨hsame', _⟩
    · exact .inl (Time.Instant.isBefore_trans hbefore' hbefore)
    · exact .inl (hsame' ▸ hbefore)
  · rcases h' with hbefore' | ⟨hsame', hid'⟩
    · exact .inl (hsame ▸ hbefore')
    · exact .inr ⟨hsame.trans hsame', String.lt_trans hid' hid⟩

instance : Std.Irrefl Newer := ⟨not_newer_self⟩

instance : Std.Antisymm Newer :=
  ⟨fun v _ h h' => absurd (h.trans h') (not_newer_self v)⟩

end Version

/-! Records that are told apart by their names. -/

namespace Table

variable {α : Type} {t : Table α} {name : String} {a : α}

def Distinct (t : Table α) : Prop := (t.entries.map Prod.fst).Nodup

theorem Distinct.erase (h : t.Distinct) (name : String) : (t.erase name).Distinct :=
  h.sublist (List.filter_sublist.map Prod.fst)

theorem map_fst_place (name : String) (a : α) (l : List (String × α)) :
    (place name a l).map Prod.fst =
      if name ∈ l.map Prod.fst then l.map Prod.fst else l.map Prod.fst ++ [name] := by
  induction l with
  | nil => rfl
  | cons e rest ih =>
    by_cases hkey : e.1 = name
    · simp [place, hkey]
    · simp only [place, if_neg hkey, List.map_cons, ih, List.mem_cons, Ne.symm hkey, false_or]
      split <;> rfl

theorem Distinct.insert (h : t.Distinct) (name : String) (a : α) : (t.insert name a).Distinct := by
  rw [Distinct, Table.insert, map_fst_place]
  split
  · exact h
  · next hnew => exact (List.nodup_append_comm).mp (List.nodup_cons.mpr ⟨hnew, h⟩)

theorem Distinct.get?_eq_some_iff (h : t.Distinct) :
    t.get? name = some a ↔ (name, a) ∈ t.entries := lookup_eq_some_iff_mem h

end Table

namespace Versions

variable {vs vs' : Versions} {workspace : String} {size : Option UInt32}

/-- Every record lies under its own identifier and nowhere else. -/
structure Filed (vs : Versions) : Prop where
  keyed : vs.Keyed
  distinct : vs.Distinct

theorem Effect.distinct {op : Operation} {reply : Reply} (heffect : Effect vs op reply vs')
    (h : vs.Distinct) : vs'.Distinct := by
  cases heffect with
  | same _ => exact h
  | creates _ _ => exact h.insert ..
  | deletes _ => exact h.erase _
  | moves _ _ _ => exact h.insert ..

/-- Whatever is done to a store that starts empty, its records are filed. -/
theorem Runs.filed {log : List Deed} (h : Runs log vs) : vs.Filed := by
  constructor
  · exact h.tracked.keyed
  · induction h with
    | start => exact List.nodup_nil
    | performs _ op ih => exact (perform_effect _ op).distinct ih

theorem Filed.mem_values_iff (h : vs.Filed) {v : Version} :
    v ∈ vs.values ↔ vs.get? v.id = some v := by
  constructor
  · intro hmem
    obtain ⟨⟨id, w⟩, hentry, rfl⟩ := List.mem_map.mp hmem
    have hget : vs.get? id = some w := h.distinct.get?_eq_some_iff.mpr hentry
    rwa [h.keyed id w hget]
  · intro hget
    exact List.mem_map.mpr ⟨_, h.distinct.get?_eq_some_iff.mp hget, rfl⟩

theorem Filed.nodup_ids (h : vs.Filed) : (vs.values.map (·.id)).Nodup := by
  have hnames : vs.values.map (·.id) = vs.entries.map Prod.fst := by
    rw [Table.values, List.map_map]
    refine List.map_congr_left fun e he => ?_
    exact h.keyed e.1 e.2 (h.distinct.get?_eq_some_iff.mpr he)
  rw [hnames]
  exact h.distinct

theorem Filed.mem_listing_iff (h : vs.Filed) {v : Version} :
    v ∈ vs.listing workspace ↔ vs.get? v.id = some v ∧ v.workspace = workspace := by
  rw [listing, List.mem_mergeSort, List.mem_filter, h.mem_values_iff, beq_iff_eq]

/-- A listing goes from newer to older versions. -/
theorem Filed.pairwise_listing (h : vs.Filed) (workspace : String) :
    (vs.listing workspace).Pairwise Version.Newer := by
  have hids : (vs.listing workspace).Pairwise fun v w => v.id ≠ w.id := by
    have hkept : ((vs.values.filter (·.workspace == workspace)).map (·.id)).Nodup :=
      h.nodup_ids.sublist (List.filter_sublist.map _)
    have hsorted := ((List.mergeSort_perm _ Version.precedes).map _).nodup_iff.mpr hkept
    exact List.pairwise_map.mp hsorted
  have hprecedes : (vs.listing workspace).Pairwise fun v w => v.precedes w = true := by
    apply List.pairwise_mergeSort
    · intro u v w
      exact Version.precedes_trans
    · exact Version.precedes_total
  exact (hprecedes.and hids).imp fun hboth => Version.newer_of_precedes hboth.1 hboth.2

theorem length_listing_le (vs : Versions) (workspace : String) :
    (vs.listing workspace).length ≤ vs.size := by
  rw [listing, List.length_mergeSort]
  refine Nat.le_trans (List.length_filter_le ..) ?_
  rw [Table.values, List.length_map]
  exact Nat.le_refl _

/-- Two stores that know the same records list them alike, in whatever order they keep them. -/
theorem Filed.listing_eq (h : vs.Filed) (h' : vs'.Filed) (hsame : ∀ id, vs'.get? id = vs.get? id)
    (workspace : String) : vs'.listing workspace = vs.listing workspace := by
  refine (h'.pairwise_listing workspace).eq_of_mem_iff (h.pairwise_listing workspace) fun v => ?_
  rw [h.mem_listing_iff, h'.mem_listing_iff, hsame]

def numbered (vs : Versions) (workspace : String) (size : Option UInt32) (n : UInt32) :
    Page Version := vs.page workspace (.clamp (some n) size)

/-- The pages are a way through the versions of a workspace: they hold each of them once and no
other version, the newest first. All but the last are full, behind the last there is nothing, and
all say how many versions there are. -/
structure Traversed (vs : Versions) (workspace : String) (size : Option UInt32)
    (pages : List (Page Version)) : Prop where
  holds : ∀ v, v ∈ pages.flatMap (·.items) ↔ vs.get? v.id = some v ∧ v.workspace = workspace
  once : (pages.flatMap (·.items)).Nodup
  newestFirst : (pages.flatMap (·.items)).Pairwise Version.Newer
  full : ∀ p ∈ pages.dropLast, p.items.length = Page.capacity size
  beyond : ∀ n : UInt32, pages.length < n.toNat → (vs.numbered workspace size n).items = []
  counted : ∀ n : UInt32, (vs.numbered workspace size n).position.items.toNat =
    (pages.flatMap (·.items)).length

/-- The pages of a listing, put together, are the listing in its order. -/
theorem Filed.traversed (h : vs.Filed) (hsize : vs.size < UInt32.size)
    {pages : List (Page Version)} (hpages : Page.Follows (vs.numbered workspace size) 1 pages) :
    vs.Traversed workspace size pages := by
  have hall : (vs.listing workspace).length < UInt32.size :=
    Nat.lt_of_le_of_lt (length_listing_le vs workspace) hsize
  have hcovers := Page.Follows.covers hall hpages
  have hitems : pages.flatMap (·.items) = vs.listing workspace := hcovers.items
  have hnewer := h.pairwise_listing workspace
  constructor
  · intro v
    rw [hitems, h.mem_listing_iff]
  · rw [hitems]
    exact hnewer.nodup
  · rw [hitems]
    exact hnewer
  · exact hcovers.full
  · intro n hn
    exact hcovers.beyond hn
  · intro n
    rw [hitems]
    exact Page.count_numbered (Nat.lt_trans hall (by decide)) size n

/-- The latest version of a workspace opens its first page. -/
theorem latest?_eq_head? (vs : Versions) (workspace : String) (size : Option UInt32) :
    vs.latest? workspace = (vs.numbered workspace size 1).items.head? := by
  have hitems : (vs.numbered workspace size 1).items =
      ((vs.listing workspace).drop 0).take (Page.capacity size) := by
    have hone : 0 < (1 : UInt32).toNat := by decide
    have hstart := Page.items_numbered (vs.listing workspace) size hone
    rwa [UInt32.toNat_one, Nat.sub_self, Nat.zero_mul] at hstart
  have hroom : Page.capacity size ≠ 0 := Nat.ne_of_gt (Page.capacity_pos size)
  rw [hitems, List.drop_zero, List.head?_take, if_neg hroom, latest?]

theorem latest?_eq_none_iff (hall : (vs.listing workspace).length < UInt64.size)
    (size : Option UInt32) (n : UInt32) :
    vs.latest? workspace = none ↔ (vs.numbered workspace size n).position.items = 0 := by
  have hcount : (vs.numbered workspace size n).position.items.toNat =
    (vs.listing workspace).length := Page.count_numbered hall size n
  rw [latest?, List.head?_eq_none_iff, ← UInt64.toNat_inj, hcount, UInt64.toNat_zero,
    List.length_eq_zero_iff]

/-- Whoever follows the links through the pages of a workspace, from the first one on, comes to an
end and has been through its versions. The first version on the way is the latest of the workspace,
which has none exactly if it has no versions. And none of this depends on the order in which the
records are kept. -/
theorem pages_partition (h : vs.Filed) (hsize : vs.size < UInt32.size) (workspace : String)
    (size : Option UInt32) :
    (∃ pages, Page.Follows (vs.numbered workspace size) 1 pages) ∧
    (∀ pages, Page.Follows (vs.numbered workspace size) 1 pages →
      vs.Traversed workspace size pages) ∧
    vs.latest? workspace = (vs.numbered workspace size 1).items.head? ∧
    (vs.latest? workspace = none ↔ (vs.numbered workspace size 1).position.items = 0) ∧
    ∀ vs' : Versions, vs'.Filed → (∀ id, vs'.get? id = vs.get? id) →
      vs'.latest? workspace = vs.latest? workspace ∧
        ∀ o, vs'.page workspace o = vs.page workspace o := by
  have hall : (vs.listing workspace).length < UInt32.size :=
    Nat.lt_of_le_of_lt (length_listing_le vs workspace) hsize
  have hone : 0 < (1 : UInt32).toNat := by decide
  refine ⟨?_, fun pages hpages => h.traversed hsize hpages, ?_, ?_, ?_⟩
  · obtain ⟨pages, hfollows, _⟩ := Page.exists_covers hall size hone
    exact ⟨pages, hfollows⟩
  · exact latest?_eq_head? vs workspace size
  · exact latest?_eq_none_iff (Nat.lt_trans hall (by decide)) size 1
  · intro vs' h' hsame
    have hlisting := h.listing_eq h' hsame workspace
    constructor
    · rw [latest?, latest?, hlisting]
    · intro o
      rw [page, page, hlisting]

/-! Two versions of one moment, a later one, and one of another workspace. -/

def plainVersion (suffix workspace : String) (second : Int) : Version :=
  .create suffix workspace ⟨true, false, .api, none⟩ ⟨second, 0⟩

def fourVersions : List Operation :=
  [("b", "ws-1", 10), ("a", "ws-1", 10), ("d", "ws-1", 12), ("c", "ws-2", 11)].map
    fun (suffix, workspace, second) =>
      .create suffix workspace ⟨true, false, .api, none⟩ ⟨second, 0⟩

/-- Three versions of one workspace, two of them made at once, next to one of another. -/
theorem pages_of_fourVersions :
    let vs := (performAll fourVersions).2
    vs.Filed ∧ vs.size < UInt32.size ∧
      ∃ pages, Page.Follows (vs.numbered "ws-1" (some 2)) 1 pages ∧
        vs.Traversed "ws-1" (some 2) pages ∧
        pages.flatMap (·.items) = [plainVersion "d" "ws-1" 12, plainVersion "b" "ws-1" 10,
          plainVersion "a" "ws-1" 10] := by
  intro vs
  have hfiled : vs.Filed := (runs_performAll fourVersions).filed
  have hsize : vs.size < UInt32.size := by decide +kernel
  have hentries : vs.entries = [("cv-b", plainVersion "b" "ws-1" 10),
      ("cv-a", plainVersion "a" "ws-1" 10), ("cv-d", plainVersion "d" "ws-1" 12),
      ("cv-c", plainVersion "c" "ws-2" 11)] := by decide +kernel
  obtain ⟨⟨pages, hpages⟩, htraversed, _⟩ := pages_partition hfiled hsize "ws-1" (some 2)
  have hthrough := htraversed pages hpages
  have hnewer : [plainVersion "d" "ws-1" 12, plainVersion "b" "ws-1" 10,
      plainVersion "a" "ws-1" 10].Pairwise Version.Newer := by decide
  refine ⟨hfiled, hsize, pages, hpages, hthrough,
    hthrough.newestFirst.eq_of_mem_iff hnewer fun v => ?_⟩
  rw [hthrough.holds, hfiled.distinct.get?_eq_some_iff, hentries]
  constructor
  · rintro ⟨hmem, hworkspace⟩
    simp only [List.mem_cons, List.not_mem_nil, or_false, Prod.mk.injEq] at hmem
    rcases hmem with ⟨_, rfl⟩ | ⟨_, rfl⟩ | ⟨_, rfl⟩ | ⟨_, rfl⟩
    · simp
    · simp
    · simp
    · exact absurd hworkspace (by decide)
  · intro hmem
    simp only [List.mem_cons, List.not_mem_nil, or_false] at hmem
    rcases hmem with rfl | rfl | rfl
    · decide
    · decide
    · decide

end Versions

end ConfigRegistry
