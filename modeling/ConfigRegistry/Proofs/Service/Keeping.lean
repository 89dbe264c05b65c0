import ConfigRegistry.Proofs.Service.Births
import ConfigRegistry.Proofs.Service.Exclusion
import ConfigRegistry.Proofs.Service.Running

/-!
A version that is settled keeps its record and its archive until it is deleted, whatever else is
done. Only a call that found it pending stores an archive of it, and only a call that removed its
record removes its archive.
-/
namespace ConfigRegistry.Service

structure World.Has (w : World) (v : Version) (data : ByteArray) : Prop where
  record : w.versions.get? v.id = some v
  archive : w.blobs.archive? v.id = some data

/-- The call is neither about to store the archive of a version nor about to remove it. -/
structure Stage.Spares (s : Stage) (id : String) : Prop where
  stored : s.stored? ≠ some id
  clears : ¬ s.Clears id

theorem Opens.spares {maxSize : Nat} {call : Call} {stage : Stage} (h : Opens maxSize call stage)
    (id : String) : stage.Spares id := by
  cases h with
  | _ => exact ⟨nofun, fun ⟨_, h, _⟩ => by contradiction⟩

variable {maxSize : Nat} {w w' : World} {c : Circumstance} {call : Call} {s s' : Stage}
  {v : Version} {data : ByteArray}

/-- A step takes the record of a settled version away or leaves the version as it is. -/
theorem Moves.keeps (h : Moves w c s w' s') (hw : w.Sane) (hs : s.Serves maxSize call)
    (hmark : '/' ∉ c.mark.toList) (hsettled : v.status ≠ .pending) (hspares : s.Spares v.id)
    (hhas : w.Has v data) :
    w'.versions.get? v.id = none ∨ w'.Has v data ∧ s'.Spares v.id := by
  have hrecord : w'.versions.get? v.id = none ∨ w'.versions.get? v.id = some v := by
    have hchange := h.record v.id
    rw [hhas.record] at hchange
    generalize w'.versions.get? v.id = after at hchange
    cases hchange with
    | same _ => exact .inr rfl
    | erased _ => exact .inl rfl
    | settled hstored _ _ _ _ => exact absurd hstored hspares.stored
  have harchive : w'.blobs.archive? v.id = some data := by
    have hchange := h.archive hw hs hmark v.id
    rw [hhas.archive] at hchange
    generalize w'.blobs.archive? v.id = after at hchange
    cases hchange with
    | same _ => rfl
    | stored _ hstage _ => exact absurd (hstage ▸ rfl) hspares.stored
    | cleared _ hclears => exact absurd hclears hspares.clears
  rcases hrecord with hnone | hsame
  · exact .inl hnone
  · refine .inr ⟨⟨hsame, harchive⟩, ?_, ?_⟩
    · intro hid
      rcases h.stored_of_stored hw hid with hstored | ⟨_, found, hfound, hpending⟩
      · exact hspares.stored hstored
      · rw [hhas.record] at hfound
        exact hsettled (Option.some.inj hfound ▸ hpending)
    · intro hclears
      rw [(h.erased_of_clears hclears).2] at hsame
      contradiction

/-- A call by itself deletes a settled version or leaves it as it is. -/
theorem run_keeps (e : Setting) (hmark : '/' ∉ e.mark.toList) (hw : w.Sane) (maxSize : Nat)
    (call : Call) (hsettled : v.status ≠ .pending) (hhas : w.Has v data) :
    (run e w (call.opening maxSize)).world.versions.get? v.id = none ∨
      (run e w (call.opening maxSize)).world.Has v data := by
  let P (w : World) (s : Stage) : Prop :=
    (w.Sane ∧ s.Serves maxSize call) ∧
      (w.versions.get? v.id = none ∧ (∀ v, s ≠ .createRecord v) ∨ w.Has v data ∧ s.Spares v.id)
  have hstep : ∀ (w : World) (s : Stage) (c : Circumstance), c.mark = e.mark → P w s →
      P (step w c s).world (step w c s).stage := by
    rintro w s c hc ⟨hserves, hkept⟩
    rw [← hc] at hmark
    have hmoves := step_moves w c s
    refine ⟨step_orderly c hmark hserves, ?_⟩
    rcases hkept with ⟨hnone, hcreate⟩ | ⟨hhas, hspares⟩
    · exact .inl ⟨hmoves.absent (fun v hv => absurd hv (hcreate v)) hnone, hmoves.not_createRecord⟩
    · rcases hmoves.keeps hserves.1 hserves.2 hmark hsettled hspares hhas with hnone | hkept
      · exact .inl ⟨hnone, hmoves.not_createRecord⟩
      · exact .inr hkept
  have hopens := opening_opens maxSize call
  obtain ⟨_, _, ⟨hnone, _⟩ | ⟨hkept, _⟩⟩ := run_induction e w (call.opening maxSize) hstep
    ⟨⟨hw, hopens.serves⟩, .inr ⟨hhas, hopens.spares v.id⟩⟩
  · exact .inl hnone
  · exact .inr hkept

/-! The table of locks. -/

theorem Moves.bounded (h : Moves w c s w' s') (hw : w.locks.Bounded) : w'.locks.Bounded := by
  rcases h.locks_cases with ⟨hsame, _⟩ | ⟨g, _, _, henter, _⟩ | ⟨_, _, _, hsame, _⟩ |
    ⟨_, _, hrelease, _⟩
  · exact hsame ▸ hw
  · exact (Locks.enter_spec hw henter).1
  · exact hsame ▸ hw
  · rw [hrelease]
    exact Locks.bounded_sweep (Locks.bounded_modify hw _ _) _

theorem abandon_bounded (hw : w.locks.Bounded) (caller : Nat) (s : Stage) :
    (abandon w caller s).locks.Bounded := by
  rcases System.abandon_cases w caller s with ⟨_, _, hsame⟩ | ⟨g, _, habandon⟩ | ⟨g, _, hrelease⟩
  · exact hsame ▸ hw
  · rw [habandon]
    exact (Locks.abandon_spec caller g.number hw).1
  · rw [hrelease]
    exact Locks.bounded_sweep (Locks.bounded_modify hw _ _) _

theorem run_bounded (e : Setting) (opening : Opening) (hw : w.locks.Bounded) :
    (run e w opening).world.locks.Bounded := by
  obtain ⟨_, hrun⟩ := run_induction e (P := fun w _ => w.locks.Bounded) w opening
    (fun w s c _ h => (step_moves w c s).bounded h) hw
  exact hrun

/-! Runs. -/

namespace System

variable {t t' : System}

/-- A settled version with its archive, and no call that is about to store or remove that. -/
structure Holds (t : System) (v : Version) (data : ByteArray) : Prop where
  has : t.world.Has v data
  spares : ∀ caller call stage, t.At caller call stage → stage.Spares v.id

/-- A change deletes a settled version or leaves it as it is. -/
theorem Holds.changes (ht : t.Holds v data) (horderly : t.Orderly maxSize)
    (hsettled : v.status ≠ .pending) (h : t.Changes maxSize t') :
    t'.world.versions.get? v.id = none ∨ t'.Holds v data := by
  cases h with
  | begins call _ =>
    refine .inr ⟨ht.has, fun caller call' stage hat => ?_⟩
    rcases at_begun.mp hat with hat | ⟨_, _, rfl⟩
    · exact ht.spares caller call' stage hat
    · exact (opening_opens maxSize call).spares v.id
  | advances c h hmark =>
    next call stage =>
    have hmoves := step_moves t.world c stage
    rcases hmoves.keeps horderly.sane (horderly.serves _ _ _ h) (slash_not_mem_mark hmark) hsettled
      (ht.spares _ _ _ h) ht.has with hnone | ⟨hhas, hspares⟩
    · exact .inl hnone
    · refine .inr ⟨hhas, fun caller call' stage' hat => ?_⟩
      have hat := (at_advanced h).mp hat
      split at hat
      · exact hat.2 ▸ hspares
      · exact ht.spares caller call' stage' hat
  | abandons h =>
    next caller call stage =>
    obtain ⟨hversions, hblobs⟩ := abandon_same t.world caller stage
    refine .inr ⟨⟨?_, ?_⟩, fun other call' stage' hat => ?_⟩
    · exact (congrArg (Table.get? · v.id) hversions).trans ht.has.record
    · exact (congrArg (Blob.Store.archive? · v.id) hblobs).trans ht.has.archive
    · exact ht.spares other call' stage' ((at_abandoned h).mp hat).2

end System

end ConfigRegistry.Service
