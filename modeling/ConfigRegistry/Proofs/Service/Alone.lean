import ConfigRegistry.Proofs.Service.Keeping

/-!
What calls by themselves end with when nothing is out of order: a creation with its version, a
look-up with the record, a download with the archive, and the first upload of an archive with an
uploaded version.
-/
namespace ConfigRegistry.Service

def Ends (e : Setting) (fuel : Nat) (w : World) (s : Stage) (w' : World)
    (answer : Except Failure Answer) : Prop :=
  ∀ events, ∃ events', runFrom e fuel w s events = ⟨w', answer, events'⟩

variable {e : Setting} {w w' : World} {s s' : Stage} {answer : Except Failure Answer}
  {fuel maxSize : Nat} {v : Version} {id : String} {data : ByteArray}

theorem ends_done (e : Setting) (fuel : Nat) (w : World) (answer : Except Failure Answer) :
    Ends e fuel w (.done answer) w answer := by
  intro events
  cases fuel <;> exact ⟨events, rfl⟩

theorem ends_step (hs : ∀ answer, s ≠ .done answer) {o : Outcome}
    (hstep : step w (e.circumstance 0 s) s = o) (h : Ends e fuel o.world o.stage w' answer) :
    Ends e (fuel + 1) w s w' answer := by
  intro events
  obtain ⟨events', hrun⟩ := h (events ++ o.events)
  refine ⟨events', ?_⟩
  rw [runFrom]
  · rw [hstep]
    exact hrun
  · exact hs

theorem run_of_ends (opening : Opening) (h : Ends e maxSteps w opening.1 w' answer) :
    (run e w opening).world = w' ∧ (run e w opening).answer = answer := by
  obtain ⟨events, hrun⟩ := h opening.2
  rw [run, hrun]
  exact ⟨rfl, rfl⟩

theorem permitted_of_allows {subject : Subject} {action : Action}
    (h : subject.role.allows action = true) (next : Stage) :
    permitted subject action next = (next, []) := by
  simp [permitted, Subject.authorize, h]

/-- Users of every kind may create, look up and download versions. -/
theorem allows_ofUsername (username : String) (siteAdmins : List String) (action : Action)
    (h : action ≠ .delete) :
    (Subject.ofUsername username siteAdmins).role.allows action = true := by
  unfold Subject.ofUsername
  split
  · rfl
  · simpa [Role.allows] using h

section

variable (he : e.outages = .none)
include he

theorem circumstance_none (caller : Nat) (s : Stage) :
    e.circumstance caller s = ⟨caller, e.now, e.mark, none, none⟩ := by
  have hstore : s.storeAccess?.bind e.outages.ofStore = none := by
    rw [he]
    cases s.storeAccess? <;> rfl
  have hblob : s.blobAccess?.bind e.outages.blobFault? = none := by
    rw [he]
    cases s.blobAccess? <;> rfl
  simp only [Setting.circumstance, hstore, hblob]

/-- A creation ends with its version if nobody drew the identifier before. -/
theorem run_create_alone {subject : Subject} (hallowed : subject.role.allows .create = true)
    {suffix workspace : String} {options : Version.Options} {now : Time.Instant}
    (hfresh : w.versions.get? (Version.create suffix workspace options now).id = none) :
    (run e w (create subject suffix workspace options now)).answer =
        .ok (.version (Version.create suffix workspace options now)) ∧
      (run e w (create subject suffix workspace options now)).world = { w with
        versions := w.versions.insert (Version.create suffix workspace options now).id
          (Version.create suffix workspace options now) } := by
  rw [create, permitted_of_allows hallowed]
  generalize Version.create suffix workspace options now = v at hfresh
  have hnew : w.versions.create v = (.ok (), w.versions.insert v.id v) := by
    simp [Versions.create, Table.contains, hfresh]
  have hends : Ends e maxSteps w (.createRecord v) { w with versions := w.versions.insert v.id v }
      (.ok (.version v)) := by
    refine ends_step (by simp) rfl ?_
    simp only [step, circumstance_none he, changed, hnew]
    exact ends_done e _ _ _
  obtain ⟨hworld, hanswer⟩ := run_of_ends (.createRecord v, []) hends
  exact ⟨hanswer, hworld⟩

/-- A look-up ends with the record. -/
theorem run_get_alone {subject : Subject} (hallowed : subject.role.allows .get = true)
    (hv : w.versions.get? id = some v) :
    (run e w (get subject id)).answer = .ok (.version v) := by
  have hfound : found subject .get id v = (.done (.ok (.version v)), []) := by
    simp [found, Subject.authorize, Purpose.action, hallowed]
  have hends : Ends e maxSteps w (.lookUp subject .get id) w (.ok (.version v)) := by
    refine ends_step (by simp) rfl ?_
    simp only [step, circumstance_none he, accessed, hv, hfound]
    exact ends_done e _ _ _
  exact (run_of_ends (get subject id) hends).2

/-- A download ends with the archive. -/
theorem run_download_alone {subject : Subject} (hallowed : subject.role.allows .download = true)
    (hhas : w.Has v data) : (run e w (download subject v.id)).answer = .ok (.archive data) := by
  obtain ⟨key, hkey, harchive⟩ :
      ∃ key, Blob.keyOf v.id = .ok key ∧ (w.blobs.get key).1 = .ok data := by
    have harchive := hhas.archive
    unfold Blob.Store.archive? at harchive
    cases hkey : Blob.keyOf v.id with
    | error fault => simp [hkey] at harchive
    | ok key => exact ⟨key, rfl, toOption_eq_some.mp (by simpa [hkey] using harchive)⟩
  have hfound : found subject .download v.id v = (.fetchArchive v.id key, []) := by
    simp [found, Subject.authorize, Purpose.action, hallowed, hkey]
  have hfetch : step w (e.circumstance 0 (.fetchArchive v.id key)) (.fetchArchive v.id key) =
      ⟨w, .done (.ok (.archive data)), (w.blobs.get key).2⟩ := by
    cases hget : w.blobs.get key with
    | mk result events =>
      obtain rfl : result = .ok data := by simpa [hget] using harchive
      simp only [step, circumstance_none he, hget]
  have hends : Ends e maxSteps w (.lookUp subject .download v.id) w (.ok (.archive data)) := by
    refine ends_step (by simp) rfl ?_
    simp only [step, circumstance_none he, accessed, hhas.record, hfound]
    exact ends_step (by simp) hfetch (ends_done e _ _ _)
  exact (run_of_ends (download subject v.id) hends).2

/-- The first upload of an archive ends with the version uploaded, if nobody holds its lock and the
archives take the new one. -/
theorem run_upload_alone (hsize : data.size ≤ maxSize) (hw : w.Sane) (hbounded : w.locks.Bounded)
    (hmark : '/' ∉ e.mark.toList) (hpending : v.status = .pending) (hid : Blob.isId v.id = true)
    (hrecord : w.versions.get? v.id = some v)
    (hfree : w.locks.Unheld v.id)
    (hput : ∀ key, Blob.keyOf v.id = .ok key → (w.blobs.put key data e.mark).1 = .ok ()) :
    ∃ moved, moved.id = v.id ∧ moved.status = .uploaded ∧
      (run e w (upload maxSize v.id data)).answer = .ok (.version moved) ∧
      (run e w (upload maxSize v.id data)).world.Has moved data := by
  obtain ⟨moved, hmoved⟩ : ∃ moved, v.transition .uploaded e.now = (.ok (), moved) := by
    simp [Version.transition, Version.Status.canBecome, Version.Status.isTerminal, hpending]
  have hmovedTo := (Version.transition_eq_ok hmoved).2.2
  have hstatus := congrArg Version.status hmovedTo
  have hmovedId : moved.id = v.id := by
    rw [hmovedTo]
    rfl
  have hkey := Blob.keyOf_eq_ok_iff.mpr ⟨hid, rfl⟩
  generalize "configs/" ++ Blob.archiveName v.id = key at hkey
  cases henter : w.locks.enter v.id 0 with
  | mk number locks =>
    have hholds := hfree.enter hbounded henter
    cases hstore : w.blobs.put key data e.mark with
    | mk result rest =>
      obtain ⟨blobs, events⟩ := rest
      have hok := hput key hkey
      rw [hstore] at hok
      subst hok
      have harchive : blobs.archive? v.id = some data := by
        obtain ⟨_, ⟨_, harchive⟩ | ⟨⟨_, hfault⟩, _⟩⟩ :=
          Blob.Store.put_archive? hw.sound data hkey hmark hstore
        · exact harchive
        · contradiction
      have hends : Ends e maxSteps w (.enterLock v.id data)
          ⟨w.versions.insert v.id moved, blobs, locks.release v.id number⟩
          (.ok (.version moved)) := by
        refine ends_step (by simp) rfl ?_
        simp only [step, circumstance_none he, henter, hholds, if_true]
        refine ends_step (by simp) rfl ?_
        simp only [step, circumstance_none he, accessed, hrecord, hpending, ne_eq,
          not_true_eq_false, if_false, hkey]
        refine ends_step (by simp) rfl ?_
        simp only [step, circumstance_none he, hstore]
        refine ends_step (by simp) rfl ?_
        simp only [step, circumstance_none he, changed, Versions.transition, hrecord, hmoved,
          Except.map, finish]
        exact ends_done e _ _ _
      have hopening : upload maxSize v.id data = (.enterLock v.id data, []) :=
        if_neg (Nat.not_lt.mpr hsize)
      rw [hopening]
      obtain ⟨hworld, hanswer⟩ := run_of_ends (.enterLock v.id data, []) hends
      refine ⟨moved, hmovedId, hstatus, hanswer, ?_⟩
      rw [hworld]
      exact ⟨by simp [hmovedId], hmovedId ▸ harchive⟩

end

end ConfigRegistry.Service
