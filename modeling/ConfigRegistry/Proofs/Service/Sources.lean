import ConfigRegistry.Proofs.Service.Moments

/-!
Where archives come from. An archive that nobody put there before the run is that of an upload: of
the one that made its version uploaded, or, as long as the version has never been uploaded, of one
that stored its archive and did not come to say so in the record.
-/
namespace ConfigRegistry.Service.System

/-- What has become of an upload that stored its archive but did not say so: it is about to, it
failed, or it was given up. -/
inductive Unfinished (id : String) : Option Stage → Prop
  | marking (g : Guard) : Unfinished id (some (.markUploaded g id))
  | failed (f : Failure) : Unfinished id (some (.failed f))
  | givenUp : Unfinished id none

/-- The archive is that of a call that has not made the version uploaded. -/
structure LeftBy (maxSize : Nat) (s : System) (id : String) (data : ByteArray)
    (caller : Nat) : Prop where
  call : ∃ stage, s.tasks[caller]? = some ⟨.upload id data, stage⟩ ∧ Unfinished id stage
  size : data.size ≤ maxSize

/-- The archive is that of the call that made the version uploaded. -/
structure MarkedBy (maxSize : Nat) (s : System) (id : String) (data : ByteArray)
    (caller : Nat) : Prop where
  call : ∃ stage, s.tasks[caller]? = some ⟨.upload id data, stage⟩
  size : data.size ≤ maxSize
  settled : ∃ e, s.history.filter (·.settles id) = [e] ∧ e.caller = caller ∧ e.after.Uploaded id

/-- Where the archive of a version comes from, in a run that started with some archives. -/
inductive Source (blobs : Blob.Store) (maxSize : Nat) (s : System) (id : String)
    (data : ByteArray) : Prop
  | marked (caller : Nat) (h : s.MarkedBy maxSize id data caller)
  | left (caller : Nat) (h : s.LeftBy maxSize id data caller) (hnever : s.NeverUploaded id)
  | original (h : blobs.archive? id = some data) (hnever : s.NeverUploaded id)

def Sourced (blobs : Blob.Store) (maxSize : Nat) (s : System) : Prop :=
  ∀ id data, s.world.blobs.archive? id = some data → s.Source blobs maxSize id data

variable {blobs : Blob.Store} {s s' : System} {maxSize : Nat} {id : String} {data : ByteArray}
  {caller : Nat} {call : Call} {stage : Stage}

theorem sourced_start (blobs : Blob.Store) : (start blobs).Sourced blobs maxSize := by
  intro id data h
  refine .original h fun m hm hup => ?_
  obtain rfl : m = Table.empty := by simpa [moments, start] using hm
  simp [Versions.Uploaded] at hup

/-! Calls that begin or are given up. -/

theorem task_begun {task : Task} (h : s.tasks[caller]? = some task) :
    (s.begun maxSize call).tasks[caller]? = some task :=
  (List.getElem?_append_left (List.getElem?_eq_some_iff.mp h).1).trans h

theorem Source.begun (h : s.Source blobs maxSize id data) :
    (s.begun maxSize call).Source blobs maxSize id data := by
  cases h with
  | marked other h =>
    obtain ⟨⟨stage, hcall⟩, hsize, hsettled⟩ := h
    exact .marked other ⟨⟨stage, task_begun hcall⟩, hsize, hsettled⟩
  | left other h hnever =>
    obtain ⟨⟨stage, hcall, hunfinished⟩, hsize⟩ := h
    exact .left other ⟨⟨stage, task_begun hcall, hunfinished⟩, hsize⟩ hnever
  | original h hnever => exact .original h hnever

/-- Leaving moves no archive, so each of them keeps its source. -/
theorem Source.abandoned (hat : s.At caller call stage) (h : s.Source blobs maxSize id data) :
    (s.abandoned caller call stage).Source blobs maxSize id data := by
  have hkept : s.NeverUploaded id → (s.abandoned caller call stage).NeverUploaded id :=
    fun hnever m hm => hnever m (moments_abandoned s caller call stage ▸ hm)
  cases h with
  | marked other h =>
    obtain ⟨⟨stage', hcall⟩, hsize, hsettled⟩ := h
    exact .marked other ⟨call_set hat hcall, hsize, hsettled⟩
  | left other h hnever =>
    obtain ⟨⟨stage', hcall, hunfinished⟩, hsize⟩ := h
    refine .left other ⟨?_, hsize⟩ (hkept hnever)
    by_cases ho : other = caller
    · subst ho
      obtain ⟨rfl, _⟩ := Task.mk.inj (Option.some.inj (hat.symm.trans hcall))
      exact ⟨none, by simp [System.abandoned, hat.lt], .givenUp⟩
    · refine ⟨stage', ?_, hunfinished⟩
      simpa [System.abandoned, List.getElem?_set_ne (Ne.symm ho)] using hcall
  | original h hnever => exact .original h (hkept hnever)

/-! Steps. -/

theorem NeverUploaded.advanced {c : Circumstance} (h : s.NeverUploaded id)
    (hnow : ¬ (s.advanced c call stage).world.versions.Uploaded id) :
    (s.advanced c call stage).NeverUploaded id := by
  intro m hm
  rw [moments_advanced] at hm
  rcases List.mem_append.mp hm with hm | hm
  · exact h m hm
  · exact List.mem_singleton.mp hm ▸ hnow

/-- An upload that is about to say so either says so or fails. -/
theorem Unfinished.step {w : World} {c : Circumstance} (h : Unfinished id (some stage))
    (hnow : ¬ (step w c stage).world.versions.Uploaded id) :
    Unfinished id (some (step w c stage).stage) := by
  cases h with
  | failed f => exact .failed f
  | marking g =>
    generalize hw : (Service.step w c (.markUploaded g id)).world = w' at hnow
    generalize hs : (Service.step w c (.markUploaded g id)).stage = s'
    have hmoves := step_moves w c (.markUploaded g id)
    rw [hw, hs] at hmoves
    cases hmoves with
    | ends _ hheld _ => contradiction
    | leaves f _ => exact .failed f
    | marks htransition =>
      obtain ⟨v, _, _, _, rfl, rfl⟩ := Versions.transition_eq_ok htransition
      refine absurd (Versions.uploaded_iff.mpr ⟨v.movedTo .uploaded c.now, ?_, rfl⟩) hnow
      simp [World.released]

section

variable {c : Circumstance} (hs : s.Invariant maxSize) (hat : s.At c.caller call stage)
include hs hat

theorem MarkedBy.advanced (h : s.MarkedBy maxSize id data caller) :
    (s.advanced c call stage).MarkedBy maxSize id data caller := by
  obtain ⟨⟨_, hcall⟩, hsize, e, he, hcaller, hup⟩ := h
  refine ⟨call_set hat hcall, hsize, e, ?_, hcaller, hup⟩
  rw [filter_settles_advanced hs (by simp [he]), he]

omit hs in
theorem LeftBy.advanced (h : s.LeftBy maxSize id data caller)
    (hnow : ¬ (s.advanced c call stage).world.versions.Uploaded id) :
    (s.advanced c call stage).LeftBy maxSize id data caller := by
  obtain ⟨⟨stage', hcall, hunfinished⟩, hsize⟩ := h
  refine ⟨?_, hsize⟩
  by_cases ho : caller = c.caller
  · subst ho
    obtain ⟨rfl, rfl⟩ := Task.mk.inj (Option.some.inj (hat.symm.trans hcall))
    exact ⟨_, by simp [System.advanced, hat.lt], hunfinished.step hnow⟩
  · refine ⟨stage', ?_, hunfinished⟩
    simpa [System.advanced, List.getElem?_set_ne (Ne.symm ho)] using hcall

/-- An archive that a step leaves alone keeps its source, unless the step makes the version
uploaded: then it is the archive of the call that takes the step. -/
theorem Source.advanced (harchive : s.world.blobs.archive? id = some data)
    (h : s.Source blobs maxSize id data) :
    (s.advanced c call stage).Source blobs maxSize id data := by
  by_cases hnow : (s.advanced c call stage).world.versions.Uploaded id
  · rcases uploaded_before hs hat hnow with hold | ⟨⟨g, rfl⟩, v, hv, hpending⟩
    · cases h with
      | marked other h => exact .marked other (h.advanced hs hat)
      | left _ _ hnever => exact absurd hold (hnever _ (mem_moments_now s))
      | original _ hnever => exact absurd hold (hnever _ (mem_moments_now s))
    · obtain ⟨data', _, rfl, hsize, _⟩ := hs.orderly.serves _ _ _ hat
      have hdata := hs.storing.stored _ _ _ _ _ hat hv
      obtain rfl : data' = data := Option.some.inj (hdata.symm.trans harchive)
      obtain ⟨v', hv', hstatus⟩ := Versions.uploaded_iff.mp hnow
      have hsettles : (s.entry c (.markUploaded g id)).settles id = true :=
        Entry.settles_iff.mpr ⟨v, v', hv, hpending, hv', by simp [hstatus]⟩
      refine .marked c.caller ⟨call_set hat hat, hsize,
        s.entry c (.markUploaded g id), ?_, rfl, hnow⟩
      simp [System.advanced, hs.storing.pending id v hv hpending, hsettles]
  · cases h with
    | marked other h => exact .marked other (h.advanced hs hat)
    | left other h hnever => exact .left other (h.advanced hat hnow) (hnever.advanced hnow)
    | original h hnever => exact .original h (hnever.advanced hnow)

/-- A step that stores an archive is one of an upload, and the version was never uploaded. -/
theorem Source.stored (hd : s.Dated) {g : Guard} {key : String}
    (hstage : stage = .storeArchive g id key data)
    (hnext : (step s.world c stage).stage = .markUploaded g id) :
    (s.advanced c call stage).Source blobs maxSize id data := by
  subst hstage
  obtain ⟨rfl, hsize, _⟩ := hs.orderly.serves _ _ _ hat
  have hunsettled := hd.unsettled _ _ _ id hat rfl
  have hnever : s.NeverUploaded id := fun m hm hup => hd.settled id m hm hup hunsettled
  have hsame : (s.advanced c (.upload id data) (.storeArchive g id key data)).world.versions =
      s.world.versions := versions_storeArchive s.world c g id key data
  refine .left c.caller ⟨⟨_, ?_, .marking g⟩, hsize⟩ (hnever.advanced ?_)
  · simp [System.advanced, hat.lt, hnext]
  · exact hsame ▸ hnever _ (mem_moments_now s)

theorem Sourced.advanced (hsourced : s.Sourced blobs maxSize) (hd : s.Dated)
    (hmark : '/' ∉ c.mark.toList) : (s.advanced c call stage).Sourced blobs maxSize := by
  intro id data harchive
  have hchange := (step_moves s.world c stage).archive hs.orderly.sane
    (hs.orderly.serves _ _ _ hat) hmark id
  have hnew : (step s.world c stage).world.blobs.archive? id = some data := harchive
  rw [hnew] at hchange
  generalize hold : s.world.blobs.archive? id = old at hchange
  cases hchange with
  | same _ => exact (hsourced id data hold).advanced hs hat hold
  | stored _ hstage hnext => exact Source.stored hs hat hd hstage hnext

end

theorem Sourced.changes (hsourced : s.Sourced blobs maxSize) (hd : s.Dated)
    (hs : s.Invariant maxSize) (h : s.Changes maxSize s') : s'.Sourced blobs maxSize := by
  cases h with
  | begins call _ => exact fun id data harchive => (hsourced id data harchive).begun
  | advances c hat hmark => exact hsourced.advanced hs hat hd (slash_not_mem_mark hmark)
  | abandons hat =>
    intro id data harchive
    exact (hsourced id data ((abandon_same _ _ _).2 ▸ harchive)).abandoned hat

end ConfigRegistry.Service.System
