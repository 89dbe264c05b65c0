import ConfigRegistry.Proofs.Service.Births
import ConfigRegistry.Proofs.Service.Exclusion

/-!
An uploaded version has its archive. The archive is stored before the record says so, under the lock
of the version; while a call is between the two, nobody else stores an archive of the version, and
nobody removes one unless the record is gone.
-/
namespace ConfigRegistry.Service.System

/-- The archive of a version is that of the one call that moved it out of its pending status. -/
structure StoredBy (maxSize : Nat) (s : System) (id : String) (data : ByteArray)
    (caller : Nat) : Prop where
  call : ∃ stage, s.tasks[caller]? = some ⟨.upload id data, stage⟩
  size : data.size ≤ maxSize
  settled : ∃ e, s.history.filter (·.settles id) = [e] ∧ e.caller = caller
  archive : s.world.blobs.archive? id = some data

/-- What is known of records and archives while calls are under way. -/
structure Storing (maxSize : Nat) (s : System) : Prop where
  pending : ∀ id v, s.world.versions.get? id = some v → v.status = .pending →
    s.history.filter (·.settles id) = []
  storing : ∀ caller call stage id v, s.At caller call stage → stage.stored? = some id →
    s.world.versions.get? id = some v → v.status = .pending
  stored : ∀ caller g id data v, s.At caller (.upload id data) (.markUploaded g id) →
    s.world.versions.get? id = some v → s.world.blobs.archive? id = some data
  clearing : ∀ caller call stage id, s.At caller call stage → stage.Clears id →
    s.world.versions.get? id = none
  uploaded : ∀ id v, s.world.versions.get? id = some v → v.status = .uploaded →
    ∃ data caller, s.StoredBy maxSize id data caller

/-- All that holds after every run. -/
structure Invariant (maxSize : Nat) (s : System) : Prop where
  orderly : s.Orderly maxSize
  locked : s.Locked
  births : s.Births
  storing : s.Storing maxSize

variable {s s' : System} {maxSize : Nat} {id : String}

theorem storing_start (blobs : Blob.Store) : (start blobs).Storing maxSize where
  pending id v h := by simp [start] at h
  storing caller call stage id v h := by simp [start, At] at h
  stored caller g id data v h := by simp [start, At] at h
  clearing caller call stage id h := by simp [start, At] at h
  uploaded id v h := by simp [start] at h

/-! Calls that begin or are given up. -/

theorem Storing.begun (hs : s.Storing maxSize) (call : Call) :
    (s.begun maxSize call).Storing maxSize := by
  have hopens := opening_opens maxSize call
  refine ⟨hs.pending, ?_, ?_, ?_, ?_⟩
  · intro caller call' stage id v hat hid
    rcases at_begun.mp hat with hat | ⟨_, _, rfl⟩
    · exact hs.storing caller call' stage id v hat hid
    · rw [(Opens.traceless hopens id).1] at hid
      contradiction
  · intro caller g id data v hat
    rcases at_begun.mp hat with hat | ⟨_, _, hstage⟩
    · exact hs.stored caller g id data v hat
    · rw [← hstage] at hopens
      exact absurd (Opens.traceless hopens id).1 (by simp [Stage.stored?])
  · intro caller call' stage id hat hid
    rcases at_begun.mp hat with hat | ⟨_, _, rfl⟩
    · exact hs.clearing caller call' stage id hat hid
    · exact absurd hid (Opens.traceless hopens id).2
  · intro id v hv hup
    obtain ⟨data, caller, ⟨stage, hcall⟩, hsize, hsettled, harchive⟩ := hs.uploaded id v hv hup
    refine ⟨data, caller, ⟨stage, ?_⟩, hsize, hsettled, harchive⟩
    exact (List.getElem?_append_left (List.getElem?_eq_some_iff.mp hcall).1).trans hcall

/-- Who called does not change. -/
theorem call_set {caller other : Nat} {call call' : Call} {stage stage' : Option Stage}
    {stage'' : Stage} (h : s.At caller call stage'')
    (h' : s.tasks[other]? = some ⟨call', stage'⟩) :
    ∃ next, (s.tasks.set caller ⟨call, stage⟩)[other]? = some ⟨call', next⟩ := by
  by_cases ho : other = caller
  · subst ho
    obtain ⟨rfl, _⟩ := Task.mk.inj (Option.some.inj (h.symm.trans h'))
    exact ⟨stage, by simp [h.lt]⟩
  · exact ⟨stage', by simpa [List.getElem?_set_ne (Ne.symm ho)] using h'⟩

theorem Storing.abandoned {caller : Nat} {call : Call} {stage : Stage}
    (hs : s.Storing maxSize) (h : s.At caller call stage) :
    (s.abandoned caller call stage).Storing maxSize := by
  obtain ⟨hversions, hblobs⟩ := abandon_same s.world caller stage
  refine ⟨?_, ?_, ?_, ?_, ?_⟩
  · intro id v hv
    exact hs.pending id v (hversions ▸ hv)
  · intro other call' stage' id v hat hid hv
    exact hs.storing other call' stage' id v ((at_abandoned h).mp hat).2 hid (hversions ▸ hv)
  · intro other g id data v hat hv
    have harchive := hs.stored other g id data v ((at_abandoned h).mp hat).2 (hversions ▸ hv)
    exact hblobs ▸ harchive
  · intro other call' stage' id hat hid
    exact hversions ▸ hs.clearing other call' stage' id ((at_abandoned h).mp hat).2 hid
  · intro id v hv hup
    obtain ⟨data, other, ⟨_, hcall⟩, hsize, hsettled, harchive⟩ :=
      hs.uploaded id v (hversions ▸ hv) hup
    exact ⟨data, other, call_set h hcall, hsize, hsettled, hblobs ▸ harchive⟩

/-! Steps. -/

theorem settles_eq_false {e : Entry} (h : e.before.get? id = e.after.get? id) :
    e.settles id = false := by
  unfold Entry.settles
  rw [h]
  cases e.after.get? id with
  | none => rfl
  | some v => cases hstatus : v.status <;> simp [hstatus]

theorem filter_settles_of_same (history : List Entry) {e : Entry}
    (h : e.before.get? id = e.after.get? id) :
    (history ++ [e]).filter (·.settles id) = history.filter (·.settles id) := by
  simp [settles_eq_false h]

section

variable {c : Circumstance} {call : Call} {stage : Stage} (hs : s.Invariant maxSize)
  (h : s.At c.caller call stage)
include hs h

/-- Only one call is storing an archive of a version. -/
theorem stored_unique {other : Nat} {call' : Call} {stage' : Stage}
    (h' : s.At other call' stage') (hid : stage.stored? = some id)
    (hid' : stage'.stored? = some id) : other = c.caller := by
  obtain ⟨g, hg, hgid⟩ := (hs.orderly.serves _ _ _ h).guarded hid
  obtain ⟨g', hg', hgid'⟩ := (hs.orderly.serves _ _ _ h').guarded hid'
  exact hs.locked.exclusive h' h hg' hg (hgid'.trans hgid.symm)

/-- A version with a trace has had its record before if it has it after the step. -/
theorem record_before {v : Version} (ht : s.Traced id)
    (hv : (s.advanced c call stage).world.versions.get? id = some v) :
    ∃ w, s.world.versions.get? id = some w ∧
      (w = v ∨ stage.stored? = some id ∧ (step s.world c stage).stage.stored? = none) := by
  have hchange := (step_moves s.world c stage).record id
  have hv' : (step s.world c stage).world.versions.get? id = some v := hv
  rw [hv'] at hchange
  cases hold : s.world.versions.get? id with
  | none =>
    rw [hold] at hchange
    cases hchange with
    | created hstage hid =>
      subst hstage hid
      exact absurd ht (hs.births.untraced hs.orderly h)
  | some w =>
    rw [hold] at hchange
    cases hchange with
    | same _ => exact ⟨v, rfl, .inl rfl⟩
    | settled hstage hdone _ _ _ => exact ⟨w, rfl, .inr ⟨hstage, hdone⟩⟩

/-- While a version is pending, no step has settled it. -/
theorem pending_advanced {v : Version}
    (hv : (s.advanced c call stage).world.versions.get? id = some v)
    (hpending : v.status = .pending) :
    (s.advanced c call stage).history.filter (·.settles id) = [] := by
  have hchange := (step_moves s.world c stage).record id
  have hv' : (step s.world c stage).world.versions.get? id = some v := hv
  rw [hv'] at hchange
  cases hold : s.world.versions.get? id with
  | none =>
    rw [hold] at hchange
    cases hchange with
    | created hstage hid =>
      subst hstage hid
      have huntraced := hs.births.untraced hs.orderly h
      refine List.filter_eq_nil_iff.mpr fun e he hsettles => ?_
      rcases List.mem_append.mp he with he | he
      · exact huntraced (.settled he hsettles)
      · obtain rfl := List.mem_singleton.mp he
        simp [Entry.settles, entry, hold] at hsettles
  | some w =>
    rw [hold] at hchange
    cases hchange with
    | same _ =>
      refine (filter_settles_of_same s.history ?_).trans (hs.storing.pending id v hold hpending)
      exact hold.trans hv'.symm
    | settled _ _ _ hsettled _ => exact absurd hpending hsettled

/-- A version that somebody stores to is pending for as long as its record is there. -/
theorem storing_advanced {other : Nat} {call' : Call} {stage' : Stage} {v : Version}
    (hat : (s.advanced c call stage).At other call' stage') (hid : stage'.stored? = some id)
    (hv : (s.advanced c call stage).world.versions.get? id = some v) : v.status = .pending := by
  have hmoves := step_moves s.world c stage
  have hat := (at_advanced h).mp hat
  split at hat
  · obtain ⟨_, rfl⟩ := hat
    rcases hmoves.stored_of_stored hs.orderly.sane hid with hstored | ⟨hsame, w, hw, hpending⟩
    · obtain ⟨w, hw, rfl | ⟨_, hdone⟩⟩ := record_before hs h (.storing h hstored) hv
      · exact hs.storing.storing _ _ _ id w h hstored hw
      · rw [hdone] at hid
        contradiction
    · have hv' : (step s.world c stage).world.versions.get? id = some v := hv
      rw [hsame, hw] at hv'
      exact Option.some.inj hv' ▸ hpending
  · next hne =>
    obtain ⟨w, hw, rfl | ⟨hstored, _⟩⟩ := record_before hs h (.storing hat hid) hv
    · exact hs.storing.storing _ _ _ id w hat hid hw
    · exact absurd (stored_unique hs h hat hstored hid) hne

theorem clearing_advanced {other : Nat} {call' : Call} {stage' : Stage}
    (hat : (s.advanced c call stage).At other call' stage') (hid : stage'.Clears id) :
    (s.advanced c call stage).world.versions.get? id = none := by
  have hat := (at_advanced h).mp hat
  split at hat
  · obtain ⟨_, rfl⟩ := hat
    exact ((step_moves s.world c stage).erased_of_clears hid).2
  · cases hv : (s.advanced c call stage).world.versions.get? id with
    | none => rfl
    | some v =>
      obtain ⟨w, hw, _⟩ := record_before hs h (.clearing hat hid) hv
      rw [hs.storing.clearing _ _ _ id hat hid] at hw
      contradiction

/-- A step leaves the archive of a version with a record alone, unless it stores that archive. -/
theorem archive_advanced (hmark : '/' ∉ c.mark.toList) {v : Version}
    (hv : s.world.versions.get? id = some v) :
    (s.advanced c call stage).world.blobs.archive? id = s.world.blobs.archive? id ∨
      ∃ g key data, stage = .storeArchive g id key data ∧
        (step s.world c stage).stage = .markUploaded g id ∧
        (s.advanced c call stage).world.blobs.archive? id = some data := by
  have hchange := (step_moves s.world c stage).archive hs.orderly.sane
    (hs.orderly.serves _ _ _ h) hmark id
  show (step s.world c stage).world.blobs.archive? id = _ ∨ ∃ g key data, _ ∧ _ ∧
    (step s.world c stage).world.blobs.archive? id = _
  generalize s.world.blobs.archive? id = before at hchange
  generalize (step s.world c stage).world.blobs.archive? id = after at hchange
  cases hchange with
  | same _ => exact .inl rfl
  | stored _ hstage hnext => exact .inr ⟨_, _, _, hstage, hnext, rfl⟩
  | cleared _ hclears =>
    rw [hs.storing.clearing _ _ _ id h hclears] at hv
    contradiction

/-- An upload that is about to mark its version has its data in the store. -/
theorem stored_advanced (hmark : '/' ∉ c.mark.toList) {other : Nat} {g : Guard}
    {data : ByteArray} {v : Version}
    (hat : (s.advanced c call stage).At other (.upload id data) (.markUploaded g id))
    (hv : (s.advanced c call stage).world.versions.get? id = some v) :
    (s.advanced c call stage).world.blobs.archive? id = some data := by
  have hwhere := (at_advanced h).mp hat
  split at hwhere
  · obtain ⟨rfl, hnext⟩ := hwhere
    have hserves := hs.orderly.serves _ _ _ h
    obtain ⟨key, stored, rfl, harchive⟩ := (step_moves s.world c stage).stored_of_markUploaded
      hs.orderly.sane hserves hmark hnext.symm
    obtain ⟨_, rfl⟩ := Call.upload.inj hserves.1
    exact harchive
  · next hne =>
    obtain ⟨w, hw, _⟩ := record_before hs h (.storing hwhere rfl) hv
    have hold := hs.storing.stored _ _ _ _ _ hwhere hw
    rcases archive_advanced hs h hmark hw with hsame | ⟨g', key, stored, hstage, _⟩
    · exact hsame.trans hold
    · exact absurd (stored_unique hs h hwhere (hstage ▸ rfl) rfl) hne

/-- A version that counts as uploaded has the archive of the one upload that settled it. -/
theorem uploaded_advanced (hmark : '/' ∉ c.mark.toList) {v : Version}
    (hv : (s.advanced c call stage).world.versions.get? id = some v)
    (hup : v.status = .uploaded) :
    ∃ data caller, (s.advanced c call stage).StoredBy maxSize id data caller := by
  have hchange := (step_moves s.world c stage).record id
  have hv' : (step s.world c stage).world.versions.get? id = some v := hv
  rw [hv'] at hchange
  cases hold : s.world.versions.get? id with
  | none =>
    rw [hold] at hchange
    cases hchange with
    | created hstage _ =>
      subst hstage
      obtain ⟨_, _, _, _, _, _, rfl⟩ := hs.orderly.serves _ _ _ h
      contradiction
  | some w =>
    have hunstored : stage.stored? = some id → w.status = .pending :=
      fun hid => hs.storing.storing _ _ _ id w h hid hold
    rw [hold] at hchange
    cases hchange with
    | same _ =>
      -- an uploaded version keeps its archive, since an upload stores only while it is pending
      obtain ⟨data, caller, ⟨_, hcall⟩, hsize, hsettled, harchive⟩ :=
        hs.storing.uploaded id v hold hup
      refine ⟨data, caller, call_set h hcall, hsize, ?_, ?_⟩
      · rw [advanced, filter_settles_of_same _ (hold.trans hv'.symm)]
        exact hsettled
      · rcases archive_advanced hs h hmark hold with hsame | ⟨_, _, _, hstage, _⟩
        · exact hsame.trans harchive
        · rw [hunstored (hstage ▸ rfl)] at hup
          contradiction
    | settled hstored hdone hpending hsettled huploaded =>
      obtain ⟨g, rfl⟩ := huploaded hup
      obtain ⟨data, key, rfl, hsize, _⟩ := hs.orderly.serves _ _ _ h
      refine ⟨data, c.caller, call_set h h, hsize, ?_, ?_⟩
      · refine ⟨s.entry c (.markUploaded g id), ?_, rfl⟩
        rw [advanced, List.filter_append, hs.storing.pending id w hold hpending]
        simp [Entry.settles, entry, hold, hv', hpending, hsettled]
      · rcases archive_advanced hs h hmark hold with hsame | ⟨_, _, _, hstage, _⟩
        · exact hsame.trans (hs.storing.stored _ _ _ _ _ h hold)
        · contradiction

theorem Invariant.advanced_storing (hmark : '/' ∉ c.mark.toList) :
    (s.advanced c call stage).Storing maxSize where
  pending _ _ hv hpending := pending_advanced hs h hv hpending
  storing _ _ _ _ _ hat hid hv := storing_advanced hs h hat hid hv
  stored _ _ _ _ _ hat hv := stored_advanced hs h hmark hat hv
  clearing _ _ _ _ hat hid := clearing_advanced hs h hat hid
  uploaded _ _ hv hup := uploaded_advanced hs h hmark hv hup

end

/-! Runs. -/

theorem Invariant.changes (hs : s.Invariant maxSize) (h : s.Changes maxSize s') :
    s'.Invariant maxSize where
  orderly := hs.orderly.changes h
  locked := hs.locked.changes h
  births := hs.births.changes hs.orderly h
  storing := by
    cases h with
    | begins call _ => exact hs.storing.begun call
    | advances c h hmark => exact hs.advanced_storing h (slash_not_mem_mark hmark)
    | abandons h => exact hs.storing.abandoned h

theorem Reaches.invariant (h : s.Reaches maxSize s') (hs : s.Invariant maxSize) :
    s'.Invariant maxSize := h.induction hs fun ht hchange => ht.changes hchange

theorem Reachable.invariant (h : s.Reachable maxSize) : s.Invariant maxSize := by
  obtain ⟨blobs, hopened, hreaches⟩ := h
  exact hreaches.invariant ⟨orderly_start hopened, locked_start blobs, births_start blobs,
    storing_start blobs⟩

/-- Steps are only added to a run, and callers stay who they are. -/
theorem Changes.remembers (h : s.Changes maxSize s') :
    s.history <+: s'.history ∧ ∀ (caller : Nat) (call : Call) (stage : Option Stage),
      s.tasks[caller]? = some ⟨call, stage⟩ →
        ∃ next, s'.tasks[caller]? = some ⟨call, next⟩ := by
  cases h with
  | begins call _ =>
    refine ⟨List.prefix_rfl, fun caller call' stage hcall => ⟨stage, ?_⟩⟩
    exact (List.getElem?_append_left (List.getElem?_eq_some_iff.mp hcall).1).trans hcall
  | advances c h _ => exact ⟨List.prefix_append _ _, fun _ _ _ hcall => call_set h hcall⟩
  | abandons h => exact ⟨List.prefix_rfl, fun _ _ _ hcall => call_set h hcall⟩

theorem Reaches.remembers (h : s.Reaches maxSize s') :
    s.history <+: s'.history ∧ ∀ (caller : Nat) (call : Call) (stage : Option Stage),
      s.tasks[caller]? = some ⟨call, stage⟩ →
        ∃ next, s'.tasks[caller]? = some ⟨call, next⟩ := by
  induction h with
  | refl => exact ⟨List.prefix_rfl, fun _ _ stage hcall => ⟨stage, hcall⟩⟩
  | step _ hchange ih =>
    obtain ⟨hpast, hcalls⟩ := hchange.remembers
    refine ⟨ih.1.trans hpast, fun caller call stage hcall => ?_⟩
    obtain ⟨next, hnext⟩ := ih.2 caller call stage hcall
    exact hcalls caller call next hnext

/-- A call removed the record of a version, as an administrator asked. -/
def DeletedSince (s s' : System) (id : String) : Prop :=
  ∃ e ∈ s'.history.drop s.history.length, e.removes id = true ∧
    ∃ subject stage, s'.tasks[e.caller]? = some ⟨.delete subject id, stage⟩ ∧
      subject.role.allows .delete = true

/-- The record of an uploaded version stays as it is until somebody removes it. -/
theorem Changes.uploaded_kept (hs : s.Invariant maxSize) (h : s.Changes maxSize s') {v : Version}
    (hv : s.world.versions.get? id = some v) (hup : v.status = .uploaded) :
    s'.world.versions.get? id = some v ∨ s.DeletedSince s' id := by
  cases h with
  | begins call _ => exact .inl hv
  | abandons _ =>
    next stage _ =>
    cases stage <;> exact .inl hv
  | advances c h hmark =>
    next call stage =>
    have hstep : s.Changes maxSize (s.advanced c call stage) := .advances c h hmark
    have hchange := (step_moves s.world c stage).record id
    rw [hv] at hchange
    cases hnew : (step s.world c stage).world.versions.get? id with
    | some w =>
      rw [hnew] at hchange
      cases hchange with
      | same _ => exact .inl hnew
      | settled _ _ hpending _ _ =>
        rw [hup] at hpending
        contradiction
    | none =>
      rw [hnew] at hchange
      cases hchange with
      | erased hstage =>
        subst hstage
        obtain ⟨subject, rfl, hallowed⟩ := hs.orderly.serves _ _ _ h
        obtain ⟨next, hnext⟩ := hstep.remembers.2 _ _ _ h
        refine .inr ⟨s.entry c (.removeRecord id), by simp [advanced], ?_, ?_⟩
        · simp [Entry.removes, entry, Table.contains, hv, hnew]
        · exact ⟨subject, next, hnext, hallowed⟩

theorem DeletedSince.remembered {t u : System} (h : s.DeletedSince t id)
    (hchange : t.Changes maxSize u) : s.DeletedSince u id := by
  obtain ⟨e, he, hremoves, subject, stage, hcall, hallowed⟩ := h
  obtain ⟨⟨more, hmore⟩, hcalls⟩ := hchange.remembers
  obtain ⟨next, hnext⟩ := hcalls _ _ _ hcall
  refine ⟨e, ?_, hremoves, subject, next, hnext, hallowed⟩
  rw [← hmore, List.drop_append]
  exact List.mem_append_left _ he

theorem DeletedSince.earlier {t u : System} (h : t.DeletedSince u id)
    (hpast : s.history <+: t.history) : s.DeletedSince u id := by
  obtain ⟨e, he, hrest⟩ := h
  refine ⟨e, ?_, hrest⟩
  have hlength := hpast.length_le
  have hdrop : u.history.drop t.history.length =
      (u.history.drop s.history.length).drop (t.history.length - s.history.length) := by
    rw [List.drop_drop]
    congr 1
    omega
  rw [hdrop] at he
  exact List.mem_of_mem_drop he

theorem Reaches.uploaded_kept (hs : s.Invariant maxSize) (h : s.Reaches maxSize s') {v : Version}
    (hv : s.world.versions.get? id = some v) (hup : v.status = .uploaded) :
    s'.world.versions.get? id = some v ∨ s.DeletedSince s' id := by
  induction h with
  | refl => exact .inl hv
  | step h hchange ih =>
    rcases ih with hkept | hdeleted
    · rcases hchange.uploaded_kept (h.invariant hs) hkept hup with hkept | hdeleted
      · exact .inl hkept
      · exact .inr (hdeleted.earlier h.remembers.1)
    · exact .inr (hdeleted.remembered hchange)

/-- The one call that settled a version is found again later in the run. -/
theorem StoredBy.unique {data data' : ByteArray} {caller caller' : Nat}
    (h : s.StoredBy maxSize id data caller) (h' : s'.StoredBy maxSize id data' caller')
    (hreaches : s.Reaches maxSize s') : data' = data ∧ caller' = caller := by
  obtain ⟨⟨more, hmore⟩, hcalls⟩ := hreaches.remembers
  obtain ⟨stage, hcall⟩ := h.call
  obtain ⟨e, he, rfl⟩ := h.settled
  obtain ⟨e', he', rfl⟩ := h'.settled
  rw [← hmore, List.filter_append, he, List.singleton_append, List.cons.injEq] at he'
  obtain ⟨rfl, _⟩ := he'
  obtain ⟨next, hnext⟩ := hcalls _ _ _ hcall
  obtain ⟨stage', hcall'⟩ := h'.call
  rw [hnext, Option.some.injEq, Task.mk.injEq, Call.upload.injEq] at hcall'
  exact ⟨hcall'.1.2.symm, rfl⟩

/-- In every run an uploaded version has the archive of the one upload that moved it out of its
pending status, an archive of at most the greatest size, and so it stays until an administrator
deletes the version. -/
theorem uploaded_is_stored (h : s.Reachable maxSize) {v : Version}
    (hv : s.world.versions.get? id = some v) (hup : v.status = .uploaded) :
    ∃ data caller, v.id = id ∧ s.StoredBy maxSize id data caller ∧
      ∀ s', s.Reaches maxSize s' →
        (s'.world.versions.get? id = some v ∧ s'.StoredBy maxSize id data caller) ∨
          s.DeletedSince s' id := by
  have hs := h.invariant
  obtain ⟨data, caller, hstored⟩ := hs.storing.uploaded id v hv hup
  refine ⟨data, caller, hs.orderly.sane.keyed id v hv, hstored, fun s' hreaches => ?_⟩
  rcases hreaches.uploaded_kept hs hv hup with hkept | hdeleted
  · obtain ⟨data', caller', hstored'⟩ :=
      (hreaches.invariant hs).storing.uploaded id v hkept hup
    obtain ⟨rfl, rfl⟩ := hstored.unique hstored' hreaches
    exact .inl ⟨hkept, hstored'⟩
  · exact .inr hdeleted

/-! Two uploads of one version that take turns. -/

/-- A version is created, and two callers upload to it; the first of them goes first. -/
def rivals : System :=
  (created "a").staged 4 [.upload "cv-a" ⟨#[1, 2]⟩, .upload "cv-a" ⟨#[3]⟩] [1, 2, 1, 1, 1, 2, 2]

theorem rivals_reachable : rivals.Reachable 4 :=
  ⟨.empty, .memory, reaches_created "a" (by simp [Call.drawn?]) _⟩

theorem rivals_uploaded : rivals.Reachable 4 ∧ ∃ v, rivals.world.versions.get? "cv-a" = some v ∧
    v.status = .uploaded ∧ ∃ data caller, v.id = "cv-a" ∧
      rivals.StoredBy 4 "cv-a" data caller ∧ ∀ s', rivals.Reaches 4 s' →
        (s'.world.versions.get? "cv-a" = some v ∧ s'.StoredBy 4 "cv-a" data caller) ∨
          rivals.DeletedSince s' "cv-a" :=
  ⟨rivals_reachable, _, rfl, rfl, uploaded_is_stored rivals_reachable rfl rfl⟩

end ConfigRegistry.Service.System
