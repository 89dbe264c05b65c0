import ConfigRegistry.Service.Run

/-!
Failures in other words. A failure of the machinery has a text that is not for clients; here the
same call is run twice, and what is out of order differs in such texts alone. Both runs lead to the
same world, and to answers that differ in such texts at most.
-/
namespace ConfigRegistry

/-- A failure and itself, told in other words if it is one whose details are hidden from clients. -/
inductive Failure.Reworded : Failure → Failure → Prop
  | same (f : Failure) : Reworded f f
  | database (fault fault' : DatabaseFault) : Reworded (.database fault) (.database fault')
  | storage (m m' : String) : Reworded (.storage m) (.storage m')
  | internal (m m' : String) : Reworded (.internal m) (.internal m')
  | unexpected (causes causes' : List String) : Reworded (.unexpected causes) (.unexpected causes')

/-- A fault of a store of archives and itself, told in other words if it is not about the key. -/
inductive Blob.Fault.Reworded : Blob.Fault → Blob.Fault → Prop
  | same (fault : Blob.Fault) : Reworded fault fault
  | uploadFailed (m m' : String) : Reworded (.uploadFailed m) (.uploadFailed m')
  | downloadFailed (m m' : String) : Reworded (.downloadFailed m) (.downloadFailed m')
  | deleteFailed (m m' : String) : Reworded (.deleteFailed m) (.deleteFailed m')
  | io (m m' : String) : Reworded (.io m) (.io m')
  | config (m m' : String) : Reworded (.config m) (.config m')

inductive Store.Outage.Reworded : Store.Outage → Store.Outage → Prop
  | same (outage : Store.Outage) : Reworded outage outage
  | fail {f f' : Failure} (h : f.Reworded f') : Reworded (.fail f) (.fail f')

inductive Blob.Outage.Reworded : Blob.Outage → Blob.Outage → Prop
  | same (outage : Blob.Outage) : Reworded outage outage
  | fail {fault fault' : Blob.Fault} (h : fault.Reworded fault') :
      Reworded (.fail fault) (.fail fault')

/-- The same accesses are out of order in the same ways, told in other words. -/
structure Outages.Reworded (o o' : Outages) : Prop where
  store : ∀ access, Option.Rel Store.Outage.Reworded (o.ofStore access) (o'.ofStore access)
  blobs : ∀ access, Option.Rel Blob.Outage.Reworded (o.ofBlobs access) (o'.ofBlobs access)
  tokens : Option.Rel Failure.Reworded o.tokens o'.tokens

/-- Two results that are the same, or failures that differ in their words. -/
inductive Failure.RewordedResult {α : Type} : Except Failure α → Except Failure α → Prop
  | ok (a : α) : RewordedResult (.ok a) (.ok a)
  | error {f f' : Failure} (h : f.Reworded f') : RewordedResult (.error f) (.error f')

open Failure (RewordedResult)

theorem Failure.RewordedResult.refl {α : Type} (x : Except Failure α) : RewordedResult x x := by
  cases x with
  | ok a => exact .ok a
  | error f => exact .error (.same f)

/-- Faults in other words are failures in other words. -/
theorem Blob.Fault.Reworded.toFailure {fault fault' : Blob.Fault} (h : fault.Reworded fault') :
    fault.toFailure.Reworded fault'.toFailure := by
  cases h with
  | same => exact .same _
  | uploadFailed m m' => exact .storage m m'
  | downloadFailed m m' => exact .storage m m'
  | deleteFailed m m' => exact .storage m m'
  | io m m' => exact .storage _ _
  | config m m' => exact .internal m m'

theorem Outages.Reworded.blobFault? {o o' : Outages} (h : o.Reworded o') (access : Blob.Access) :
    Option.Rel Blob.Fault.Reworded (o.blobFault? access) (o'.blobFault? access) := by
  have hblobs := h.blobs access
  unfold Outages.blobFault?
  generalize o.ofBlobs access = outage at hblobs
  generalize o'.ofBlobs access = outage' at hblobs
  cases hblobs with
  | none => exact .none
  | @some outage _ hrel =>
    cases hrel with
    | fail hfault => exact .some hfault
    | same =>
      cases outage with
      | fail fault => exact .some (.same fault)
      | pause times => exact .none
      | hang => exact .none

namespace Service

variable {c : Circumstance} {store' : Option Store.Outage} {blob' : Option Blob.Fault} {w : World}
  {s s' : Stage}

/-- Two stages of one call that differ in the words of a failure at most. -/
inductive Stage.Reworded : Stage → Stage → Prop
  | same (s : Stage) : Reworded s s
  | markErrored (g : Guard) (id : String) {cause cause' : Failure} (h : cause.Reworded cause') :
      Reworded (.markErrored g id cause) (.markErrored g id cause')
  | done {answer answer' : Except Failure Answer} (h : RewordedResult answer answer') :
      Reworded (.done answer) (.done answer')

theorem Stage.Reworded.failed {f f' : Failure} (h : f.Reworded f') :
    Stage.Reworded (.failed f) (.failed f') := .done (.error h)

/-- Two outcomes with one world, and with stages that differ in the words of a failure at most. -/
structure Outcome.Reworded (o o' : Outcome) : Prop where
  world : o'.world = o.world
  stage : o.stage.Reworded o'.stage

theorem Outcome.Reworded.refl (o : Outcome) : o.Reworded o := ⟨rfl, .same _⟩

theorem reworded_accessed {α : Type} {outage outage' : Option Store.Outage}
    (h : Option.Rel Store.Outage.Reworded outage outage') (missing : α) (a : Except Failure α) :
    RewordedResult (accessed outage missing a) (accessed outage' missing a) := by
  cases h with
  | none => exact .refl _
  | some hrel =>
    cases hrel with
    | same outage => exact .refl _
    | fail hfail => exact .error hfail

theorem reworded_effected {α : Type} {outage outage' : Option Store.Outage}
    (h : Option.Rel Store.Outage.Reworded outage outage') (a : Except Failure α) :
    RewordedResult (effected outage a) (effected outage' a) := by
  cases h with
  | none => exact .refl _
  | some hrel =>
    cases hrel with
    | same outage => exact .refl _
    | fail hfail => exact .error hfail

/-- Two changes that leave the same records, and that fail in other words at most. -/
inductive RewordedChange {α : Type} :
    Except Failure α × Versions → Except Failure α × Versions → Prop
  | same (a : Except Failure α × Versions) : RewordedChange a a
  | error {f f' : Failure} (h : f.Reworded f') (vs : Versions) :
      RewordedChange (.error f, vs) (.error f', vs)

theorem reworded_changed {α : Type} {outage outage' : Option Store.Outage}
    (h : Option.Rel Store.Outage.Reworded outage outage') (vs : Versions)
    (a : Except Failure α × Versions) :
    RewordedChange (changed outage vs a) (changed outage' vs a) := by
  cases h with
  | none => exact .same _
  | some hrel =>
    cases hrel with
    | same outage => exact .same _
    | fail hfail => exact .error hfail vs

theorem reworded_finish (w : World) (g : Guard) {answer answer' : Except Failure Answer}
    (h : RewordedResult answer answer') (events events' : List Log.Event) :
    (finish w g answer events).Reworded (finish w g answer' events') := ⟨rfl, .done h⟩

/-! Steps. -/

/-- A failed fetch leads to the same stage in any wording. -/
theorem reworded_fetchArchive {id key : String}
    (hblob : Option.Rel Blob.Fault.Reworded c.blob blob') :
    (step w c (.fetchArchive id key)).Reworded
      (step w { c with store := store', blob := blob' } (.fetchArchive id key)) := by
  simp only [step]
  generalize c.blob = blob at hblob
  cases hblob with
  | none => exact .refl _
  | some hfault =>
    cases hfault with
    | same fault => exact .refl _
    | _ => exact ⟨rfl, .failed (Blob.Fault.Reworded.toFailure (by constructor))⟩

theorem reworded_storeArchive {g : Guard} {id key : String} {data : ByteArray}
    (hblob : Option.Rel Blob.Fault.Reworded c.blob blob') :
    (step w c (.storeArchive g id key data)).Reworded
      (step w { c with store := store', blob := blob' } (.storeArchive g id key data)) := by
  simp only [step]
  generalize c.blob = blob at hblob
  cases hblob with
  | none => exact .refl _
  | some hfault => exact ⟨rfl, .markErrored g id (.storage _ _)⟩

theorem reworded_removeArchive {key : String}
    (hblob : Option.Rel Blob.Fault.Reworded c.blob blob') : (step w c (.removeArchive key)).Reworded
      (step w { c with store := store', blob := blob' } (.removeArchive key)) := by
  simp only [step]
  generalize c.blob = blob at hblob
  cases hblob with
  | none => exact .refl _
  | some hfault => exact .refl _

/-- A step in other words leads to the same world, and to the same stage in other words. -/
theorem step_reworded (w : World) (hstore : Option.Rel Store.Outage.Reworded c.store store')
    (hblob : Option.Rel Blob.Fault.Reworded c.blob blob') (hs : s.Reworded s') :
    (step w c s).Reworded (step w { c with store := store', blob := blob' } s') := by
  cases hs with
  | done h => exact ⟨rfl, .done h⟩
  | markErrored g id h =>
    next cause cause' =>
    have hchange := reworded_changed hstore w.versions (w.versions.transition id .errored c.now)
    simp only [step]
    generalize changed c.store _ _ = x at hchange
    generalize changed store' _ _ = y at hchange
    cases hchange with
    | same =>
      obtain ⟨outcome, versions⟩ := x
      cases outcome with
      | ok found => exact reworded_finish _ g (.error h) _ _
      | error _ => exact reworded_finish _ g (.error h) _ _
    | error _ versions => exact reworded_finish _ g (.error h) _ _
  | same =>
    cases s with
    | createRecord v =>
      have hchange := reworded_changed hstore w.versions (w.versions.create v)
      simp only [step]
      generalize changed c.store _ _ = x at hchange
      generalize changed store' _ _ = y at hchange
      cases hchange with
      | same => exact .refl _
      | error hf versions => exact ⟨rfl, .failed hf⟩
    | listRecords workspace o =>
      have heffect := reworded_effected hstore (.ok (w.versions.page workspace o))
      simp only [step]
      generalize effected c.store _ = x at heffect
      generalize effected store' _ = y at heffect
      cases heffect with
      | ok page => exact .refl _
      | error hf => exact ⟨rfl, .failed hf⟩
    | latestRecord workspace =>
      have haccess := reworded_accessed hstore none (.ok (w.versions.latest? workspace))
      simp only [step]
      generalize accessed c.store _ _ = x at haccess
      generalize accessed store' _ _ = y at haccess
      cases haccess with
      | ok found => exact .refl _
      | error hf => exact ⟨rfl, .failed hf⟩
    | lookUp subject purpose id =>
      have haccess := reworded_accessed hstore none (.ok (w.versions.get? id))
      simp only [step]
      generalize accessed c.store _ _ = x at haccess
      generalize accessed store' _ _ = y at haccess
      cases haccess with
      | ok found => exact .refl _
      | error hf => exact ⟨rfl, .failed hf⟩
    | fetchArchive id key => exact reworded_fetchArchive hblob
    | removeRecord id =>
      have haccess := reworded_accessed hstore false (.ok (w.versions.contains id))
      simp only [step]
      generalize accessed c.store _ _ = x at haccess
      generalize accessed store' _ _ = y at haccess
      cases haccess with
      | ok found => exact .refl _
      | error hf => exact ⟨rfl, .failed hf⟩
    | removeArchive key => exact reworded_removeArchive hblob
    | enterLock id data => exact .refl _
    | awaitLock g data => exact .refl _
    | checkPending g data =>
      have haccess := reworded_accessed hstore none (.ok (w.versions.get? g.id))
      simp only [step]
      generalize accessed c.store _ _ = x at haccess
      generalize accessed store' _ _ = y at haccess
      cases haccess with
      | ok found => exact .refl _
      | error hf => exact reworded_finish w g (.error hf) _ _
    | storeArchive g id key data => exact reworded_storeArchive hblob
    | markUploaded g id =>
      have hchange := reworded_changed hstore w.versions (w.versions.transition id .uploaded c.now)
      simp only [step]
      generalize changed c.store _ _ = x at hchange
      generalize changed store' _ _ = y at hchange
      cases hchange with
      | same => exact .refl _
      | error hf versions => exact reworded_finish _ g (.error hf) _ _
    | markErrored g id cause =>
      have hchange := reworded_changed hstore w.versions (w.versions.transition id .errored c.now)
      simp only [step]
      generalize changed c.store _ _ = x at hchange
      generalize changed store' _ _ = y at hchange
      cases hchange with
      | same => exact .refl _
      | error _ versions => exact .refl _
    | done answer => exact .refl _

/-! Runs. -/

theorem storeAccess?_reworded (h : s.Reworded s') : s'.storeAccess? = s.storeAccess? := by
  cases h with
  | _ => rfl

theorem blobAccess?_reworded (h : s.Reworded s') : s'.blobAccess? = s.blobAccess? := by
  cases h with
  | _ => rfl

theorem rel_bind {α β : Type} {R : β → β → Prop} {f f' : α → Option β}
    (h : ∀ a, Option.Rel R (f a) (f' a)) (x : Option α) : Option.Rel R (x.bind f) (x.bind f') := by
  cases x with
  | none => exact .none
  | some a => exact h a

/-- A step of a call by itself, while the same things are out of order in other words. -/
theorem step_circumstance_reworded {e : Setting} {outages' : Outages}
    (houtages : e.outages.Reworded outages') (w : World) (h : s.Reworded s') :
    (step w (e.circumstance 0 s) s).Reworded
      (step w ({ e with outages := outages' }.circumstance 0 s') s') := by
  have hstore : Option.Rel Store.Outage.Reworded (e.circumstance 0 s).store
      (s'.storeAccess?.bind outages'.ofStore) := by
    rw [storeAccess?_reworded h]
    exact rel_bind houtages.store s.storeAccess?
  have hblob : Option.Rel Blob.Fault.Reworded (e.circumstance 0 s).blob
      (s'.blobAccess?.bind outages'.blobFault?) := by
    rw [blobAccess?_reworded h]
    exact rel_bind houtages.blobFault? s.blobAccess?
  exact step_reworded w hstore hblob h

/-- Two results with one world, and with answers that differ in the words of a failure at most. -/
structure Result.Reworded (r r' : Result) : Prop where
  world : r'.world = r.world
  answer : RewordedResult r.answer r'.answer

/-- Runs that differ in the wording of their outages go the same way; only what they log differs. -/
theorem runFrom_reworded {e : Setting} {outages' : Outages}
    (houtages : e.outages.Reworded outages') (fuel : Nat) (w : World) (h : s.Reworded s')
    (events events' : List Log.Event) :
    (runFrom e fuel w s events).Reworded
      (runFrom { e with outages := outages' } fuel w s' events') := by
  induction fuel generalizing w s s' events events' with
  | zero =>
    cases h with
    | same s =>
      cases s with
      | done answer => exact ⟨rfl, .refl answer⟩
      | _ => exact ⟨rfl, .refl _⟩
    | markErrored g id h => exact ⟨rfl, .refl _⟩
    | done h => exact ⟨rfl, h⟩
  | succ fuel ih =>
    have hstep := step_circumstance_reworded houtages w h
    have hnext : ∀ more more', (runFrom e fuel (step w (e.circumstance 0 s) s).world
        (step w (e.circumstance 0 s) s).stage more).Reworded
          (runFrom { e with outages := outages' } fuel
            (step w ({ e with outages := outages' }.circumstance 0 s') s').world
            (step w ({ e with outages := outages' }.circumstance 0 s') s').stage more') := by
      intro more more'
      rw [hstep.world]
      exact ih _ hstep.stage more more'
    cases h with
    | same s =>
      cases s with
      | done answer => exact ⟨rfl, .refl answer⟩
      | _ => exact hnext _ _
    | markErrored g id h => exact hnext _ _
    | done h => exact ⟨rfl, h⟩

/-- A call by itself leads to the same world and to the same answer in other words. -/
theorem run_reworded {e : Setting} {outages' : Outages} (houtages : e.outages.Reworded outages')
    (w : World) (opening : Opening) :
    (run e w opening).Reworded (run { e with outages := outages' } w opening) :=
  runFrom_reworded houtages maxSteps w (.same opening.1) opening.2 opening.2

end Service

end ConfigRegistry
