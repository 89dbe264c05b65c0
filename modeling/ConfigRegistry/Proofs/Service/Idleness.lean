import ConfigRegistry.Proofs.Service.Completion
import ConfigRegistry.Proofs.Service.Keeping

/-!
Calls by themselves as runs of the system. Only an upload enters a lock; where nobody holds it, or
for any other call, a call by itself takes its steps to its end, as the only call of a system does.
Where nobody is at a lock at all, nobody is afterwards. Nothing of the kind is said of an upload by
itself beside an upload that holds its lock: it would have to wait for that one.
-/
namespace ConfigRegistry.Service

/-- Nobody holds a lock of the table or queues for one. -/
structure Locks.Idle (l : Locks) : Prop where
  proper : l.Proper
  vacant : ∀ g caller, ¬ l.Has g caller

theorem Locks.Idle.unheld {l : Locks} (h : l.Idle) (id : String) : l.Unheld id := by
  intro number htable
  rw [Option.eq_none_iff_forall_ne_some]
  intro caller hholder
  exact h.vacant ⟨id, number⟩ caller ⟨htable, Mutex.mem_members.mpr (.inl hholder)⟩

theorem Stage.toil_le (s : Stage) : s.toil ≤ maxSteps := by
  cases s with
  | _ => simp [Stage.toil, maxSteps]

theorem Moves.not_enterLock {w w' : World} {c : Circumstance} {s s' : Stage}
    (h : Moves w c s w' s') (id : String) (data : ByteArray) : s' ≠ .enterLock id data := by
  intro hnext
  cases h with
  | _ => contradiction

namespace System

variable {s : System} {w : World} {call : Call} {stage : Stage} {fuel maxSize : Nat}

/-- There is one call; it does not queue, and nobody holds the lock that it is about to enter. -/
structure Single (s : System) (call : Call) (stage : Stage) : Prop where
  tasks : s.tasks = [⟨call, some stage⟩]
  bounded : s.world.locks.Bounded
  outside : stage.awaited? = none
  free : ∀ id data, stage = .enterLock id data → s.world.locks.Unheld id

theorem Single.at (hs : s.Single call stage) : s.At 0 call stage := by
  rw [At, hs.tasks]
  rfl

/-- The only call takes a step, and gets a lock that it enters at once. -/
theorem Single.advanced (hs : s.Single call stage) {c : Circumstance} (hc : c.caller = 0) :
    (s.advanced c call stage).Single call (step s.world c stage).stage where
  tasks := by
    change s.tasks.set c.caller _ = _
    rw [hs.tasks, hc]
    rfl
  bounded := (step_moves s.world c stage).bounded hs.bounded
  outside := by
    rcases (step_moves s.world c stage).locks_cases with
      ⟨_, _, hawaited⟩ | ⟨g, data, rfl, henter, _⟩ | ⟨g, hg, _⟩ | ⟨_, _, _, _, hawaited⟩
    · rw [hawaited]
      exact hs.outside
    · generalize (step s.world c (.enterLock g.id data)).world.locks = locks at henter
      have hholds := (hs.free g.id data rfl).enter hs.bounded henter
      simp only [step, henter, hholds, if_true]
      rfl
    · rw [hs.outside] at hg
      contradiction
    · exact hawaited
  free id data hstage := absurd hstage ((step_moves s.world c stage).not_enterLock id data)

/-- By itself the only call goes where it goes in the system, and comes to its end. -/
theorem Single.reaches_runFrom (hs : s.Single call stage) (e : Setting)
    (hmark : ∃ u : Uuid, e.mark = u.render) (hfuel : stage.toil ≤ fuel)
    (events : List Log.Event) :
    ∃ t, s.Reaches maxSize t ∧ t.world = (runFrom e fuel s.world stage events).world ∧
      t.tasks = [⟨call, some (.done (runFrom e fuel s.world stage events).answer)⟩] := by
  -- on the fuel, which the toil that is left never exceeds; out of fuel, the call is done
  induction fuel generalizing s stage events with
  | zero =>
    cases stage with
    | done answer => exact ⟨s, .refl, rfl, hs.tasks⟩
    | _ => simp [Stage.toil] at hfuel
  | succ fuel ih =>
    by_cases hdone : ∃ answer, stage = .done answer
    · obtain ⟨answer, rfl⟩ := hdone
      exact ⟨s, .refl, rfl, hs.tasks⟩
    · have hopen : ∀ answer, stage ≠ .done answer := fun answer h => hdone ⟨answer, h⟩
      let c := e.circumstance 0 stage
      have hchange : s.Changes maxSize (s.advanced c call stage) := .advances c hs.at hmark
      have htoil : (step s.world c stage).stage.toil ≤ fuel := by
        rcases (step_moves s.world c stage).toil hopen with hless | ⟨g, hg, _⟩
        · omega
        · rw [hs.outside] at hg
          contradiction
      obtain ⟨t, hreaches, hend⟩ :=
        ih (hs.advanced rfl) htoil (events ++ (step s.world c stage).events)
      refine ⟨t, (Reaches.step .refl hchange).trans hreaches, ?_⟩
      rw [runFrom]
      · exact hend
      · exact hopen

/-- Where nobody holds the lock that it enters, a call by itself is a run of the system to the end
of that call. -/
theorem reaches_run (hbounded : w.locks.Bounded) (call : Call)
    (hfree : ∀ id data, call = .upload id data → w.locks.Unheld id) (e : Setting)
    (hmark : ∃ u : Uuid, e.mark = u.render) (maxSize : Nat) :
    ∃ t, Reaches maxSize ⟨w, [], []⟩ t ∧ t.world = (run e w (call.opening maxSize)).world ∧
      t.tasks = [⟨call, some (.done (run e w (call.opening maxSize)).answer)⟩] := by
  have hbegins : Changes maxSize ⟨w, [], []⟩ (begun ⟨w, [], []⟩ maxSize call) :=
    .begins call fun _ _ task htask => absurd htask List.not_mem_nil
  have hopens := opening_opens maxSize call
  have hsingle : (begun ⟨w, [], []⟩ maxSize call).Single call (call.opening maxSize).1 := by
    refine ⟨rfl, hbounded, hopens.outside.2, fun id data hstage => hfree id data ?_⟩
    rw [hstage] at hopens
    cases hopens with
    | uploads _ => rfl
  obtain ⟨t, hreaches, hend⟩ :=
    hsingle.reaches_runFrom e hmark (Stage.toil_le _) (call.opening maxSize).2
  exact ⟨t, (Reaches.step .refl hbegins).trans hreaches, hend⟩

/-! Locks that nobody is at. -/

theorem locked_of_idle (h : w.locks.Idle) : (⟨w, [], []⟩ : System).Locked where
  bounded := h.proper.bounded
  held caller call stage g hat := by simp [At] at hat
  awaited caller call stage g hat := by simp [At] at hat

theorem attended_of_idle (h : w.locks.Idle) : (⟨w, [], []⟩ : System).Attended :=
  ⟨h.proper, fun g caller hhas => absurd hhas (h.vacant g caller)⟩

/-- Once no call is under way nobody is at a lock. -/
theorem Attended.idle (hs : s.Attended) (hquiet : s.Quiet) : s.world.locks.Idle where
  proper := hs.proper
  vacant g caller hhas := by
    obtain ⟨call, stage, hat, huses⟩ := hs.attended g caller hhas
    obtain ⟨answer, rfl⟩ := hquiet caller call stage hat
    exact Stage.not_uses rfl rfl g huses

/-- After calls that all came to an end nobody is at a lock if nobody was before. -/
theorem Reaches.idle (h : Reaches maxSize ⟨w, [], []⟩ s) (hw : w.locks.Idle) (hquiet : s.Quiet) :
    s.world.locks.Idle := by
  have hboth : s.Locked ∧ s.Attended := by
    apply h.induction ⟨locked_of_idle hw, attended_of_idle hw⟩
    rintro t u ⟨hlocked, hattended⟩ hchange
    exact ⟨hlocked.changes hchange, hattended.changes hlocked hchange⟩
  exact hboth.2.idle hquiet

end System

/-- A call by itself leaves nobody at a lock if nobody was at one. -/
theorem run_idle {w : World} (h : w.locks.Idle) (e : Setting)
    (hmark : ∃ u : Uuid, e.mark = u.render) (maxSize : Nat) (call : Call) :
    (run e w (call.opening maxSize)).world.locks.Idle := by
  obtain ⟨t, hreaches, hworld, htasks⟩ := System.reaches_run h.proper.bounded call
    (fun id _ _ => h.unheld id) e hmark maxSize
  have hquiet : t.Quiet := by
    intro caller call' stage hat
    rw [System.At, htasks] at hat
    cases caller with
    | zero => exact ⟨_, (Option.some.inj (Task.mk.inj (Option.some.inj hat)).2).symm⟩
    | succ caller => simp at hat
  rw [← hworld]
  exact hreaches.idle h hquiet

end ConfigRegistry.Service
