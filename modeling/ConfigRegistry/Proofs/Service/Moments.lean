import ConfigRegistry.Proofs.Service.Storing

/-!
The records at all moments of a run. They change with steps alone, so that the records before every
step and the records now are all that there ever were. A version that was uploaded at a moment has
an uploaded record at every later moment at which it has one.
-/
namespace ConfigRegistry

def Versions.Uploaded (vs : Versions) (id : String) : Prop :=
  (vs.get? id).map (·.status) = some .uploaded

instance (vs : Versions) (id : String) : Decidable (vs.Uploaded id) :=
  inferInstanceAs (Decidable (_ = _))

theorem Versions.uploaded_iff {vs : Versions} {id : String} :
    vs.Uploaded id ↔ ∃ v, vs.get? id = some v ∧ v.status = .uploaded := Option.map_eq_some_iff

namespace Service

theorem Entry.settles_iff {e : Entry} {id : String} :
    e.settles id = true ↔ ∃ v v', e.before.get? id = some v ∧ v.status = .pending ∧
      e.after.get? id = some v' ∧ v'.status ≠ .pending := by
  unfold settles
  cases e.before.get? id <;> cases e.after.get? id <;> simp

namespace System

/-- The records at all moments so far, the oldest first. -/
def moments (s : System) : List Versions := s.history.map (·.before) ++ [s.world.versions]

/-- The version has not been uploaded at any moment. -/
def NeverUploaded (s : System) (id : String) : Prop := ∀ m ∈ s.moments, ¬ m.Uploaded id

/-- What is known of the past of versions. -/
structure Dated (s : System) : Prop where
  linked : ∀ e ∈ s.history, e.after ∈ s.moments
  settled : ∀ id, ∀ m ∈ s.moments, m.Uploaded id → s.history.filter (·.settles id) ≠ []
  kept : ∀ id, ∀ m ∈ s.moments, m.Uploaded id →
    ∀ v, s.world.versions.get? id = some v → v.status = .uploaded
  unsettled : ∀ caller call stage id, s.At caller call stage → stage.stored? = some id →
    s.history.filter (·.settles id) = []

variable {s s' : System} {maxSize : Nat} {id : String}

theorem mem_moments_now (s : System) : s.world.versions ∈ s.moments :=
  List.mem_append_right _ (List.mem_singleton.mpr rfl)

theorem dated_start (blobs : Blob.Store) : (start blobs).Dated where
  linked e h := by simp [start] at h
  settled id m hm hup := by
    obtain rfl : m = Table.empty := by simpa [moments, start] using hm
    simp [Versions.Uploaded] at hup
  kept id m _ _ v hv := by simp [start] at hv
  unsettled caller call stage id h := by simp [start, At] at h

/-! Calls that begin or are given up. -/

theorem Dated.begun (hs : s.Dated) (call : Call) : (s.begun maxSize call).Dated := by
  refine ⟨hs.linked, hs.settled, hs.kept, fun caller call' stage id hat hid => ?_⟩
  rcases at_begun.mp hat with hat | ⟨_, _, rfl⟩
  · exact hs.unsettled caller call' stage id hat hid
  · rw [(Opens.traceless (opening_opens maxSize call) id).1] at hid
    contradiction

theorem moments_abandoned (s : System) (caller : Nat) (call : Call) (stage : Stage) :
    (s.abandoned caller call stage).moments = s.moments := by
  simp only [moments, abandoned, (abandon_same s.world caller stage).1]

theorem Dated.abandoned {caller : Nat} {call : Call} {stage : Stage} (hs : s.Dated)
    (h : s.At caller call stage) : (s.abandoned caller call stage).Dated := by
  have hsame := moments_abandoned s caller call stage
  have hversions : (s.abandoned caller call stage).world.versions = s.world.versions :=
    (abandon_same s.world caller stage).1
  refine ⟨fun e he => hsame ▸ hs.linked e he, ?_, ?_, ?_⟩
  · intro id m hm
    exact hs.settled id m (hsame ▸ hm)
  · intro id m hm hup v hv
    exact hs.kept id m (hsame ▸ hm) hup v (hversions ▸ hv)
  · intro other call' stage' id hat hid
    exact hs.unsettled other call' stage' id ((at_abandoned h).mp hat).2 hid

/-! Steps. -/

theorem moments_advanced (s : System) (c : Circumstance) (call : Call) (stage : Stage) :
    (s.advanced c call stage).moments =
      s.moments ++ [(s.advanced c call stage).world.versions] := by
  simp [moments, advanced, entry]

/-- Who settles a version was storing an archive of it, and is done with that. -/
theorem stored_of_settles {c : Circumstance} {stage : Stage}
    (hsettles : (s.entry c stage).settles id = true) :
    stage.stored? = some id ∧ (step s.world c stage).stage.stored? = none := by
  obtain ⟨v, v', hv, hpending, hv', hsettled⟩ := Entry.settles_iff.mp hsettles
  have hbefore : s.world.versions.get? id = some v := hv
  have hafter : (step s.world c stage).world.versions.get? id = some v' := hv'
  have hchange := (step_moves s.world c stage).record id
  rw [hbefore, hafter] at hchange
  cases hchange with
  | same _ => exact absurd hpending hsettled
  | settled hstored hdone _ _ _ => exact ⟨hstored, hdone⟩

section

variable {c : Circumstance} {call : Call} {stage : Stage} (hs : s.Invariant maxSize)
  (h : s.At c.caller call stage)
include hs

/-- A version is settled once. -/
theorem filter_settles_advanced (hsettled : s.history.filter (·.settles id) ≠ []) :
    (s.advanced c call stage).history.filter (·.settles id) =
      s.history.filter (·.settles id) := by
  have hno : (s.entry c stage).settles id = false := by
    refine Bool.eq_false_iff.mpr fun hsettles => ?_
    obtain ⟨v, _, hv, hpending, _⟩ := Entry.settles_iff.mp hsettles
    exact hsettled (hs.storing.pending id v hv hpending)
  simp [advanced, hno]

include h

/-- A version is uploaded after a step only if it was before, or if the step is the end of an upload
that found it pending. -/
theorem uploaded_before (hup : (s.advanced c call stage).world.versions.Uploaded id) :
    s.world.versions.Uploaded id ∨
      (∃ g, stage = .markUploaded g id) ∧
        ∃ v, s.world.versions.get? id = some v ∧ v.status = .pending := by
  obtain ⟨v, hv, hstatus⟩ := Versions.uploaded_iff.mp hup
  have hchange := (step_moves s.world c stage).record id
  have hv' : (step s.world c stage).world.versions.get? id = some v := hv
  rw [hv'] at hchange
  generalize hold : s.world.versions.get? id = old at hchange
  cases hchange with
  | same _ => exact .inl (Versions.uploaded_iff.mpr ⟨v, hold, hstatus⟩)
  | created hstage _ =>
    subst hstage
    obtain ⟨_, _, _, _, _, _, rfl⟩ := hs.orderly.serves _ _ _ h
    contradiction
  | settled _ _ hpending _ huploaded => exact .inr ⟨huploaded hstatus, _, rfl, hpending⟩

/-- A version that was uploaded at some moment was settled in a step. -/
theorem settled_advanced (hd : s.Dated) {m : Versions} (hm : m ∈ (s.advanced c call stage).moments)
    (hup : m.Uploaded id) : (s.advanced c call stage).history.filter (·.settles id) ≠ [] := by
  have hkept : s.history.filter (·.settles id) ≠ [] →
      (s.advanced c call stage).history.filter (·.settles id) ≠ [] := by
    intro hsettled
    rwa [filter_settles_advanced hs hsettled]
  rw [moments_advanced] at hm
  rcases List.mem_append.mp hm with hm | hm
  · exact hkept (hd.settled id m hm hup)
  · obtain rfl := List.mem_singleton.mp hm
    rcases uploaded_before hs h hup with hold | ⟨_, v, hv, hpending⟩
    · exact hkept (hd.settled id _ (mem_moments_now s) hold)
    · obtain ⟨v', hv', hstatus⟩ := Versions.uploaded_iff.mp hup
      have hsettles : (s.entry c stage).settles id = true :=
        Entry.settles_iff.mpr ⟨v, v', hv, hpending, hv', by simp [hstatus]⟩
      simp [advanced, hsettles]

/-- A version that was uploaded at some moment is uploaded for as long as its record is there. -/
theorem kept_advanced (hd : s.Dated) {m : Versions} (hm : m ∈ (s.advanced c call stage).moments)
    (hup : m.Uploaded id) {v : Version}
    (hv : (s.advanced c call stage).world.versions.get? id = some v) : v.status = .uploaded := by
  rw [moments_advanced] at hm
  rcases List.mem_append.mp hm with hm | hm
  · obtain ⟨e, he⟩ := List.exists_mem_of_ne_nil _ (hd.settled id m hm hup)
    obtain ⟨he, hsettles⟩ := List.mem_filter.mp he
    obtain ⟨w, hw, hwhere⟩ := record_before hs h (.settled he hsettles) hv
    have hstatus := hd.kept id m hm hup w hw
    rcases hwhere with rfl | ⟨hstored, _⟩
    · exact hstatus
    · rw [hs.storing.storing _ _ _ id w h hstored hw] at hstatus
      contradiction
  · obtain rfl := List.mem_singleton.mp hm
    obtain ⟨w, hw, hstatus⟩ := Versions.uploaded_iff.mp hup
    exact Option.some.inj (hv.symm.trans hw) ▸ hstatus

/-- While a call stores an archive of a version, nobody settles the version. -/
theorem unsettled_advanced (hd : s.Dated) {other : Nat} {call' : Call} {stage' : Stage}
    (hat : (s.advanced c call stage).At other call' stage') (hid : stage'.stored? = some id) :
    (s.advanced c call stage).history.filter (·.settles id) = [] := by
  have hwhere := (at_advanced h).mp hat
  have hbefore : s.history.filter (·.settles id) = [] := by
    split at hwhere
    · obtain ⟨_, rfl⟩ := hwhere
      rcases (step_moves s.world c stage).stored_of_stored hs.orderly.sane hid with
        hstored | ⟨_, v, hv, hpending⟩
      · exact hd.unsettled _ _ _ id h hstored
      · exact hs.storing.pending id v hv hpending
    · exact hd.unsettled _ _ _ id hwhere hid
  have hno : (s.entry c stage).settles id = false := by
    refine Bool.eq_false_iff.mpr fun hsettles => ?_
    obtain ⟨hstored, hdone⟩ := stored_of_settles hsettles
    split at hwhere
    · rw [← hwhere.2, hid] at hdone
      contradiction
    · next hne => exact hne (stored_unique hs h hwhere hstored hid)
  simp [advanced, hbefore, hno]

theorem Dated.advanced (hd : s.Dated) : (s.advanced c call stage).Dated where
  linked e he := by
    rw [moments_advanced]
    rcases List.mem_append.mp he with he | he
    · exact List.mem_append_left _ (hd.linked e he)
    · obtain rfl := List.mem_singleton.mp he
      exact List.mem_append_right _ (List.mem_singleton.mpr rfl)
  settled _ _ hm hup := settled_advanced hs h hd hm hup
  kept _ _ hm hup _ hv := kept_advanced hs h hd hm hup hv
  unsettled _ _ _ _ hat hid := unsettled_advanced hs h hd hat hid

end

theorem Dated.changes (hd : s.Dated) (hs : s.Invariant maxSize) (h : s.Changes maxSize s') :
    s'.Dated := by
  cases h with
  | begins call _ => exact hd.begun call
  | advances c h _ => exact hd.advanced hs h
  | abandons h => exact hd.abandoned h

end System

end Service

end ConfigRegistry
