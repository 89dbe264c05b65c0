import ConfigRegistry.Proofs.Service.Alone
import ConfigRegistry.Proofs.Service.Completion
import ConfigRegistry.Proofs.Service.Removals

/-!
Deletions. A deletion that runs by itself takes away one record and, if the store of archives lets
go of it, its archive; or it fails and takes nothing away. Once it has succeeded, no later call ends
with anything of the version, whatever the calls do that were under way.
-/
namespace ConfigRegistry.Service

/-- What comes of removing an archive: the result, and the archives after it. -/
def Setting.removal (e : Setting) (blobs : Blob.Store) (key : String) :
    Except Blob.Fault Unit × Blob.Store :=
  match e.outages.blobFault? .delete with
  | some fault => (.error fault, blobs)
  | none => ((blobs.delete key).1, (blobs.delete key).2.1)

/-- All that a deletion needs: a record, an administrator, and records that can be accessed. -/
structure Setting.Deletes (e : Setting) (w : World) (subject : Subject) (id : String) : Prop where
  record : ∃ v, w.versions.get? id = some v
  admin : subject.role = .admin
  found : e.outages.ofStore .get = none
  removed : e.outages.ofStore .delete = none

/-- A record is gone, and its archive if that was removed; all else is as before. -/
structure World.Drops (w : World) (e : Setting) (id : String) (w' : World) : Prop where
  record : w'.versions.get? id = none
  records : ∀ other, other ≠ id → w'.versions.get? other = w.versions.get? other
  archive : ∃ key, Blob.keyOf id = .ok key ∧
    ((e.removal w.blobs key).1 = .ok () → w'.blobs.archive? id = none) ∧
    ((e.removal w.blobs key).1 ≠ .ok () → w'.blobs.archive? id = w.blobs.archive? id)
  archives : ∀ other, other ≠ id → w'.blobs.archive? other = w.blobs.archive? other
  bytes : Blob.Store.KeepsBytes [Blob.archiveName id] w.blobs w'.blobs

variable {e : Setting} {w w' : World} {c : Circumstance} {s s' : Stage} {subject : Subject}
  {id key : String} {fuel maxSize : Nat}

theorem role_eq_admin_iff {r : Role} : r.allows .delete = true ↔ r = .admin := by
  cases r <;> decide

/-! Deletions by themselves. -/

theorem step_removeArchive (w : World) (c : Circumstance) (key : String)
    (hblob : c.blob = e.outages.blobFault? .delete) :
    ∃ events, step w c (.removeArchive key) =
      ⟨{ w with blobs := (e.removal w.blobs key).2 }, .done (.ok .deleted), events⟩ := by
  simp only [step, hblob, Setting.removal]
  cases e.outages.blobFault? .delete with
  | some fault => exact ⟨_, rfl⟩
  | none =>
    cases w.blobs.delete key with
    | mk result rest => cases result <;> exact ⟨_, rfl⟩

/-- With all that it needs a deletion succeeds. -/
theorem run_delete_of_deletes (h : e.Deletes w subject id) (hkeyed : w.versions.Keyed)
    (hkey : Blob.keyOf id = .ok key) :
    (run e w (delete subject id)).answer = .ok .deleted ∧
      (run e w (delete subject id)).world =
        { w with versions := w.versions.erase id, blobs := (e.removal w.blobs key).2 } := by
  obtain ⟨v, hv⟩ := h.record
  have hget : (e.circumstance 0 (.lookUp subject .delete id)).store = none := h.found
  have hdelete : (e.circumstance 0 (.removeRecord id)).store = none := h.removed
  have hcontains : w.versions.contains id = true := Versions.contains_iff.mpr ⟨v, hv⟩
  have hfound : found subject .delete id v = (.removeRecord id, []) := by
    simp [found, Subject.authorize, Purpose.action, role_eq_admin_iff.mpr h.admin, hkeyed id v hv]
  have hends : Ends e maxSteps w (.lookUp subject .delete id)
      { w with versions := w.versions.erase id, blobs := (e.removal w.blobs key).2 }
      (.ok .deleted) := by
    refine ends_step (by simp) rfl ?_
    simp only [step, hget, accessed, hv, hfound]
    refine ends_step (by simp) rfl ?_
    simp only [step, hdelete, accessed, hcontains, hkey]
    obtain ⟨events, hlast⟩ := step_removeArchive (e := e)
      { w with versions := w.versions.erase id } (e.circumstance 0 (.removeArchive key)) key rfl
    exact ends_step (by simp) hlast (ends_done e _ _ _)
  exact (run_of_ends (delete subject id) hends).symm

/-- An access that is out of order, or has nothing to find, finds nothing. -/
theorem accessed_missing {α : Type} {outage : Option Store.Outage} {missing a : α}
    (h : outage ≠ none ∨ a = missing) :
    (∃ f, accessed outage missing (.ok a) = .error f) ∨
      accessed outage missing (.ok a) = .ok missing := by
  cases outage with
  | none =>
    obtain rfl := h.resolve_left fun hne => hne rfl
    exact .inr rfl
  | some o =>
    cases o with
    | fail f => exact .inl ⟨f, rfl⟩
    | missing => exact .inr rfl
    | hang => exact .inr rfl

theorem ends_lookUp_missing (fuel : Nat) (subject : Subject)
    (h : e.outages.ofStore .get ≠ none ∨ w.versions.get? id = none) :
    ∃ f, Ends e (fuel + 1) w (.lookUp subject .delete id) w (.error f) := by
  have hget : (e.circumstance 0 (.lookUp subject .delete id)).store = e.outages.ofStore .get := rfl
  obtain ⟨f, hstep⟩ : ∃ f, step w (e.circumstance 0 (.lookUp subject .delete id))
      (.lookUp subject .delete id) = ⟨w, .failed f, []⟩ := by
    simp only [step, hget]
    rcases accessed_missing h with ⟨f, hf⟩ | hnone
    · exact ⟨f, by rw [hf]⟩
    · exact ⟨Versions.missing id, by rw [hnone]⟩
  exact ⟨f, ends_step (by simp) hstep (ends_done e _ w _)⟩

theorem ends_removeRecord_missing (fuel : Nat) (w : World) (id : String)
    (h : e.outages.ofStore .delete ≠ none) :
    ∃ f, Ends e (fuel + 1) w (.removeRecord id) w (.error f) := by
  have hdelete : (e.circumstance 0 (.removeRecord id)).store = e.outages.ofStore .delete := rfl
  obtain ⟨f, hstep⟩ : ∃ f, step w (e.circumstance 0 (.removeRecord id)) (.removeRecord id) =
      ⟨w, .failed f, []⟩ := by
    simp only [step, hdelete]
    rcases accessed_missing (.inl h) with ⟨f, hf⟩ | hnone
    · exact ⟨f, by rw [hf]⟩
    · exact ⟨Versions.missing id, by rw [hnone]⟩
  exact ⟨f, ends_step (by simp) hstep (ends_done e _ w _)⟩

/-- Without something that it needs a deletion fails and changes nothing. -/
theorem run_delete_of_not_deletes (h : ¬ e.Deletes w subject id) (hkeyed : w.versions.Keyed) :
    ∃ f, (run e w (delete subject id)).answer = .error f ∧
      (run e w (delete subject id)).world = w := by
  suffices hends : ∃ f, Ends e maxSteps w (.lookUp subject .delete id) w (.error f) by
    obtain ⟨f, hends⟩ := hends
    exact ⟨f, (run_of_ends (delete subject id) hends).symm⟩
  by_cases hmissing : e.outages.ofStore .get ≠ none ∨ w.versions.get? id = none
  · exact ends_lookUp_missing _ subject hmissing
  · rw [not_or, not_not] at hmissing
    obtain ⟨hfirst, hrecord⟩ := hmissing
    obtain ⟨v, hv⟩ := Option.ne_none_iff_exists'.mp hrecord
    have hget : (e.circumstance 0 (.lookUp subject .delete id)).store = none := hfirst
    by_cases hadmin : subject.role = .admin
    · have hsecond : e.outages.ofStore .delete ≠ none := fun hdelete =>
        h ⟨⟨v, hv⟩, hadmin, hfirst, hdelete⟩
      have hfound : found subject .delete id v = (.removeRecord id, []) := by
        simp [found, Subject.authorize, Purpose.action, role_eq_admin_iff.mpr hadmin,
          hkeyed id v hv]
      obtain ⟨f, hends⟩ := ends_removeRecord_missing 6 w id hsecond
      refine ⟨f, ends_step (by simp) rfl ?_⟩
      simp only [step, hget, accessed, hv, hfound]
      exact hends
    · have hdenied : subject.role.allows .delete = false := by
        rw [← Bool.not_eq_true, role_eq_admin_iff]
        exact hadmin
      have hfound : found subject .delete id v =
          (.done (.error Subject.denied), [Subject.denialEvent]) := by
        simp [found, Subject.authorize, Purpose.action, hdenied, Stage.failed]
      refine ⟨Subject.denied, ends_step (by simp) rfl ?_⟩
      simp only [step, hget, accessed, hv, hfound]
      exact ends_done e _ w _

/-- Removing takes one archive away if it succeeds, and else none. -/
theorem Setting.removal_archive? (e : Setting) {blobs : Blob.Store} (hsound : blobs.Sound)
    (hkey : Blob.keyOf id = .ok key) :
    blobs.KeepsOthers (e.removal blobs key).2 id [] ∧
      ((e.removal blobs key).1 = .ok () ∧ (e.removal blobs key).2.archive? id = none ∨
        (∃ fault, (e.removal blobs key).1 = .error fault) ∧
          (e.removal blobs key).2.archive? id = blobs.archive? id) := by
  unfold removal
  cases e.outages.blobFault? .delete with
  | some fault => exact ⟨⟨hsound, fun _ _ => rfl, .refl _ _⟩, .inr ⟨⟨fault, rfl⟩, rfl⟩⟩
  | none =>
    cases hdelete : blobs.delete key with
    | mk result rest => exact Blob.Store.delete_archive? hsound hkey hdelete

theorem World.drops_erased (hw : w.Sane) (hkey : Blob.keyOf id = .ok key) :
    w.Drops e id
      { w with versions := w.versions.erase id, blobs := (e.removal w.blobs key).2 } := by
  obtain ⟨hothers, hown⟩ := e.removal_archive? hw.sound hkey
  refine ⟨by simp, fun other hne => by simp [hne], ⟨key, hkey, ?_⟩, hothers.other, hothers.bytes⟩
  rcases hown with ⟨hok, hnone⟩ | ⟨⟨fault, hfault⟩, hsame⟩
  · exact ⟨fun _ => hnone, fun hne => absurd hok hne⟩
  · refine ⟨fun hok => ?_, fun _ => hsame⟩
    rw [hfault] at hok
    contradiction

/-! Deletions in runs. -/

def Stage.Deletes : Stage → Prop
  | .lookUp _ .delete _ | .removeRecord _ | .removeArchive _ | .done _ => True
  | _ => False

theorem Moves.deletes (h : Moves w c s w' s') (hs : s.Deletes) : s'.Deletes := by
  cases h with
  | _ => trivial

/-- A step of a deletion does not depend on who makes it, nor when. -/
theorem step_deletes (hs : s.Deletes) {c' : Circumstance} (hstore : c.store = c'.store)
    (hblob : c.blob = c'.blob) : step w c s = step w c' s := by
  cases s with
  | lookUp _ _ _ => simp only [step, hstore]
  | removeRecord _ => simp only [step, hstore]
  | removeArchive _ => simp only [step, hblob]
  | done _ => rfl
  | _ => contradiction

namespace System

variable {t : System} {caller : Nat} {call : Call} {stage : Stage}

/-- A deletion that runs by itself is a run of the system. -/
theorem reaches_runFrom (e : Setting) (maxSize : Nat) (hs : stage.Deletes)
    (hat : t.At caller call stage) (hfuel : stage.toil ≤ fuel) (events : List Log.Event) :
    ∃ u, t.Reaches maxSize u ∧ u.world = (runFrom e fuel t.world stage events).world ∧
      u.tasks.length = t.tasks.length ∧
      u.At caller call (.done (runFrom e fuel t.world stage events).answer) := by
  induction fuel generalizing t stage events with
  | zero =>
    cases stage with
    | done answer => exact ⟨t, .refl, rfl, rfl, hat⟩
    | _ => simp [Stage.toil] at hfuel
  | succ fuel ih =>
    by_cases hdone : ∃ answer, stage = .done answer
    · obtain ⟨answer, rfl⟩ := hdone
      exact ⟨t, .refl, rfl, rfl, hat⟩
    · have hopen : ∀ answer, stage ≠ .done answer := fun answer h => hdone ⟨answer, h⟩
      -- A call by itself is caller 0; here the same step is taken by the caller that it has among
      -- the others.
      let c : Circumstance :=
        { e.circumstance caller stage with mark := (Uuid.ofRandom []).render }
      have hmoves := step_moves t.world c stage
      have hsame : step t.world (e.circumstance 0 stage) stage = step t.world c stage :=
        step_deletes hs rfl rfl
      have hchange : t.Changes maxSize (t.advanced c call stage) := .advances c hat ⟨_, rfl⟩
      have hat' : (t.advanced c call stage).At caller call (step t.world c stage).stage :=
        (at_advanced hat).mpr (by simp [c, Setting.circumstance])
      have htoil : (step t.world c stage).stage.toil ≤ fuel := by
        rcases hmoves.toil hopen with hless | ⟨g, hg, _⟩
        · omega
        · cases stage with
          | awaitLock _ _ => exact hs.elim
          | _ => contradiction
      obtain ⟨u, hreaches, hworld, hlength, hend⟩ := ih (hmoves.deletes hs) hat' htoil
        (events ++ (step t.world c stage).events)
      have hlength' : (t.advanced c call stage).tasks.length = t.tasks.length := List.length_set
      refine ⟨u, (Reaches.step .refl hchange).trans hreaches, ?_, hlength.trans hlength', ?_⟩
      · rw [runFrom, hsame]
        · exact hworld
        · exact hopen
      · rw [runFrom, hsame]
        · exact hend
        · exact hopen

/-- All versions are created with random parts as they are drawn. -/
def Made (s : System) : Prop :=
  ∀ task ∈ s.tasks, ∀ suffix, task.call.drawn? = some suffix →
    ∃ draws, suffix = ResourceId.suffix draws

theorem Made.isId_of_born (hmade : t.Made) (h : t.Born id) : Blob.isId id = true := by
  obtain ⟨caller, suffix, ⟨task, htask, hdrawn⟩, rfl, _⟩ := h
  obtain ⟨draws, rfl⟩ := hmade task (List.mem_of_getElem? htask) suffix hdrawn
  exact isId_make draws

/-- A deletion by itself succeeds exactly if it finds a record, its subject is an administrator and
the records can be accessed. It then takes away that record, and its archive if the store of
archives lets go of it, and nothing else; if it fails, nothing at all. Its run is a run of the
system; and once a deletion of a version has succeeded in any run, the version has no record ever
after, and no call that begins later ends with the version, its archive or its deletion. -/
theorem deleted_for_good (h : t.Reachable maxSize) (hmade : t.Made) (e : Setting)
    (subject : Subject) (id : String) :
    ((run e t.world (delete subject id)).answer = .ok .deleted ∧
          e.Deletes t.world subject id ∧
          t.world.Drops e id (run e t.world (delete subject id)).world ∨
        (∃ f, (run e t.world (delete subject id)).answer = .error f) ∧
          ¬ e.Deletes t.world subject id ∧
          t.world.Alike (run e t.world (delete subject id)).world) ∧
      (∃ u, t.Reaches maxSize u ∧ u.world = (run e t.world (delete subject id)).world ∧
        u.tasks.length = t.tasks.length + 1 ∧
        u.At t.tasks.length (.delete subject id)
          (.done (run e t.world (delete subject id)).answer)) ∧
      ∀ u caller subject', t.Reaches maxSize u →
        u.At caller (.delete subject' id) (.done (.ok .deleted)) →
        ∀ u', u.Reaches maxSize u' → u'.world.versions.get? id = none ∧
          ∀ later call answer, u.tasks.length ≤ later → u'.At later call (.done (.ok answer)) →
            answer.Spares id (u.Held maxSize u') call := by
  have hcleared := h.cleared
  have hsane := hcleared.orderly.sane
  refine ⟨?_, ?_, ?_⟩
  · by_cases hdeletes : e.Deletes t.world subject id
    · obtain ⟨v, hv⟩ := hdeletes.record
      have hborn : t.Born id := hcleared.births.born id (.record (by simp [hv]))
      have hkey := Blob.keyOf_eq_ok_iff.mpr ⟨hmade.isId_of_born hborn, rfl⟩
      obtain ⟨hanswer, hworld⟩ := run_delete_of_deletes hdeletes hsane.keyed hkey
      refine .inl ⟨hanswer, hdeletes, ?_⟩
      rw [hworld]
      exact World.drops_erased hsane hkey
    · obtain ⟨f, hanswer, hworld⟩ := run_delete_of_not_deletes hdeletes hsane.keyed
      refine .inr ⟨⟨f, hanswer⟩, hdeletes, ?_⟩
      rw [hworld]
      exact .refl t.world
  · have hbegun : t.Changes maxSize (t.begun maxSize (.delete subject id)) :=
      .begins _ fun _ hdrawn => by contradiction
    have hat : (t.begun maxSize (.delete subject id)).At t.tasks.length (.delete subject id)
        (.lookUp subject .delete id) := at_begun.mpr (.inr ⟨rfl, rfl, rfl⟩)
    have hstage : (Stage.lookUp subject .delete id).Deletes := trivial
    have htoil : (Stage.lookUp subject .delete id).toil ≤ maxSteps := by
      simp [Stage.toil, maxSteps]
    obtain ⟨u, hreaches, hworld, hlength, hend⟩ :=
      reaches_runFrom e maxSize hstage hat htoil []
    refine ⟨u, (Reaches.step .refl hbegun).trans hreaches, hworld, ?_, hend⟩
    rw [hlength, begun, List.length_append, List.length_singleton]
  · intro u caller subject' hreaches hanswered u' hreaches'
    have hforgets := (hreaches.cleared hcleared).forgets hanswered hreaches'
    exact ⟨hforgets.gone.absent, fun later call answer hlater hat =>
      hforgets.avoids later call _ hlater hat⟩

/-! A deletion that comes between the check and the upload of an archive. -/

def doomedId : String := ResourceId.make Version.idKind (ResourceId.suffix (List.replicate 16 0))

/-- The version is created, and an upload has found it pending. -/
def doomed : System :=
  (created (ResourceId.suffix (List.replicate 16 0))).staged 4 [.upload doomedId ⟨#[1, 2]⟩] [1, 1]

def plainSetting : Setting := ⟨.none, ⟨0, 0⟩, (Uuid.ofRandom []).render⟩

theorem doomed_reachable : doomed.Reachable 4 :=
  ⟨.empty, .memory, reaches_created _ (by simp [Call.drawn?]) _⟩

theorem doomed_made : doomed.Made := by
  intro task htask suffix hdrawn
  have hcalls : doomed.tasks.map (·.call.drawn?) =
    [some (ResourceId.suffix (List.replicate 16 0)), none] := rfl
  have hmem : task.call.drawn? ∈ doomed.tasks.map (·.call.drawn?) := List.mem_map_of_mem htask
  rw [hcalls, hdrawn] at hmem
  simp only [List.mem_cons, Option.some.injEq, List.not_mem_nil, or_false, reduceCtorEq] at hmem
  exact ⟨_, hmem⟩

theorem doomed_deletes :
    plainSetting.Deletes doomed.world ⟨"ada", .admin⟩ doomedId where
  record := ⟨_, rfl⟩
  admin := rfl
  found := rfl
  removed := rfl

/-- The deletion succeeds, and the version has no record ever after, whatever the upload does. -/
theorem doomed_for_good :
    doomed.Reachable 4 ∧ doomed.Made ∧
      (run plainSetting doomed.world (delete ⟨"ada", .admin⟩ doomedId)).answer = .ok .deleted ∧
      doomed.world.Drops plainSetting doomedId
        (run plainSetting doomed.world (delete ⟨"ada", .admin⟩ doomedId)).world ∧
      ∃ u, doomed.Reaches 4 u ∧
        u.At 2 (.delete ⟨"ada", .admin⟩ doomedId) (.done (.ok .deleted)) ∧
        ∀ u', u.Reaches 4 u' → u'.world.versions.get? doomedId = none := by
  obtain ⟨hends, ⟨u, hreaches, _, _, hat⟩, hfinal⟩ :=
    deleted_for_good doomed_reachable doomed_made plainSetting ⟨"ada", .admin⟩ doomedId
  rcases hends with ⟨hanswer, _, hdrops⟩ | ⟨_, hnot, _⟩
  · rw [hanswer] at hat
    exact ⟨doomed_reachable, doomed_made, hanswer, hdrops, u, hreaches, hat,
      fun u' h => (hfinal u 2 _ hreaches hat u' h).1⟩
  · exact absurd doomed_deletes hnot

end System

end ConfigRegistry.Service
