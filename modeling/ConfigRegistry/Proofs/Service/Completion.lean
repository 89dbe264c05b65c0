import ConfigRegistry.Proofs.Service.Occupancy
import ConfigRegistry.Proofs.Service.Storing

/-!
Runs in which every caller waits for its answer. A step brings a call nearer to its end, unless the
call stays in the queue of a lock; and a lock with a queue has a holder, who can take a step. So
every such run can be continued until all calls have ended, and then no lock is left in the table.
-/
namespace ConfigRegistry.Service

def Regime.closed (r : Regime) : Regime := { r with begins := fun _ => False }

/-- How many steps a call has before it at most, apart from those in which it stays in a queue. -/
def Stage.toil : Stage → Nat
  | .done _ => 0
  | .createRecord _ | .listRecords _ _ | .latestRecord _ | .fetchArchive _ _ | .removeArchive _ => 1
  | .markUploaded _ _ | .markErrored _ _ _ => 1
  | .removeRecord _ | .storeArchive _ _ _ _ => 2
  | .lookUp _ _ _ | .checkPending _ _ => 3
  | .awaitLock _ _ => 4
  | .enterLock _ _ => 5

def Task.toil (task : Task) : Nat := (task.stage.map Stage.toil).getD 0

theorem Stage.toil_pos {s : Stage} (h : ∀ answer, s ≠ .done answer) : 0 < s.toil := by
  cases s with
  | done answer => exact absurd rfl (h answer)
  | _ => simp [Stage.toil]

/-- Every step brings a call nearer to its end, unless the call is done or stays in a queue. -/
theorem Moves.toil {w w' : World} {c : Circumstance} {s s' : Stage} (h : Moves w c s w' s')
    (hdone : ∀ answer, s ≠ .done answer) :
    s'.toil < s.toil ∨ ∃ g, s.awaited? = some g ∧ s' = s := by
  cases h with
  | rests answer => exact absurd rfl (hdone answer)
  | ends answer _ _ => exact .inl (Stage.toil_pos hdone)
  | leaves f h => exact .inl (Stage.toil_pos hdone)
  | waits g data => exact .inr ⟨g, rfl, rfl⟩
  | _ => exact .inl (by simp [Stage.toil, Stage.failed])

/-- A call that was given its lock while it queued goes on. -/
theorem step_of_holds {w : World} {c : Circumstance} {s : Stage} {g : Guard}
    (hg : s.awaited? = some g) (hholds : w.locks.holds g.number c.caller = true) :
    (step w c s).stage.toil < s.toil := by
  cases s with
  | awaitLock g' data =>
    obtain rfl : g' = g := Option.some.inj hg
    simp [step, hholds, Stage.toil]
  | _ => contradiction

namespace System

def Quiet (s : System) : Prop :=
  ∀ caller call stage, s.At caller call stage → ∃ answer, stage = .done answer

/-- The locks are those of the calls under way, and each lock of the table has a holder. -/
structure Staffed (s : System) : Prop where
  locked : s.Locked
  attended : s.Attended
  manned : s.world.locks.Manned

variable {s t : System} {maxSize : Nat} {r : Regime} {log : List Pace}

/-- A run in which no calls begin is one in which calls may begin. -/
theorem Runs.of_closed (h : s.Runs maxSize r.closed log t) : s.Runs maxSize r log t := by
  induction h with
  | refl => exact .refl
  | begins _ call hcall _ _ => exact hcall.elim
  | advances _ c hat hmark hmeets ih => exact .advances ih c hat hmark hmeets

theorem Runs.orderly (h : s.Runs maxSize r log t) (hs : s.Orderly maxSize) :
    t.Orderly maxSize := h.reaches.induction hs fun ht hchange => ht.changes hchange

/-! The locks of a run. -/

/-- Before any call, with no lock in the table. -/
theorem staffed_of_unused {w : World} (h : ∀ id, w.locks.table.get? id = none) :
    (⟨w, [], []⟩ : System).Staffed where
  locked := by
    refine ⟨(Locks.proper_of_unused h).bounded, ?_, ?_⟩ <;>
      · intro caller call stage g hat
        simp [At] at hat
  attended := attended_of_unused h
  manned id number hn := by
    rw [h] at hn
    contradiction

theorem Staffed.begun (hs : s.Staffed) (call : Call) : (s.begun maxSize call).Staffed where
  locked := hs.locked.begun call
  attended := hs.attended.begun call
  manned := hs.manned

theorem Staffed.advanced {c : Circumstance} {call : Call} {stage : Stage} (hs : s.Staffed)
    (h : s.At c.caller call stage) : (s.advanced c call stage).Staffed where
  locked := hs.locked.advanced h
  attended := (hs.attended.advanced hs.locked h).1
  manned := (hs.attended.advanced hs.locked h).2 hs.manned

theorem Runs.staffed (h : s.Runs maxSize r log t) (hs : s.Staffed) : t.Staffed := by
  induction h with
  | refl => exact hs
  | begins _ call _ _ ih => exact ih.begun call
  | advances _ c hat _ _ ih => exact ih.advanced hat

/-- Every lock of the table has a holder, who is a call under way. -/
theorem Staffed.holder (hs : s.Staffed) {id : String} {number : Nat}
    (h : s.world.locks.table.get? id = some number) :
    ∃ caller call stage, s.world.locks.holds number caller = true ∧
      s.At caller call stage ∧ stage.Uses ⟨id, number⟩ := by
  obtain ⟨caller, hholder⟩ := Option.ne_none_iff_exists'.mp (hs.manned id number h)
  obtain ⟨call, stage, hat, huses⟩ :=
    hs.attended.attended ⟨id, number⟩ caller ⟨h, Mutex.mem_members.mpr (.inl hholder)⟩
  exact ⟨caller, call, stage, by simp [Locks.holds, hholder], hat, huses⟩

/-- Once no call is under way no lock is in the table. -/
theorem Staffed.unlocked (hs : s.Staffed) (hquiet : s.Quiet) (id : String) :
    s.world.locks.table.get? id = none := by
  cases htable : s.world.locks.table.get? id with
  | none => rfl
  | some number =>
    obtain ⟨caller, call, stage, _, hat, huses⟩ := hs.holder htable
    obtain ⟨answer, rfl⟩ := hquiet caller call stage hat
    exact absurd huses (Stage.not_uses rfl rfl _)

/-! Runs to the end. -/

/-- While a call is under way, some call can take a step that brings it nearer to its end. -/
theorem Staffed.progress (hs : s.Staffed) (hbusy : ¬ s.Quiet) :
    ∃ caller call stage, s.At caller call stage ∧
      ∀ c : Circumstance, c.caller = caller → (step s.world c stage).stage.toil < stage.toil := by
  obtain ⟨caller, call, stage, hat, hdone⟩ :
      ∃ caller call stage, s.At caller call stage ∧ ∀ answer, stage ≠ .done answer := by
    simpa [Quiet] using hbusy
  cases hawaited : stage.awaited? with
  | none =>
    refine ⟨caller, call, stage, hat, fun c _ => ?_⟩
    rcases (step_moves s.world c stage).toil hdone with hless | ⟨g, hg, _⟩
    · exact hless
    · rw [hawaited] at hg
      contradiction
  | some g =>
    -- whoever holds the lock either works under it or is about to notice that it holds it
    have htable := (hs.locked.awaited caller call stage g hat hawaited).table
    obtain ⟨holder, call', stage', hholds, hat', huses⟩ := hs.holder htable
    refine ⟨holder, call', stage', hat', fun c hc => ?_⟩
    rcases huses with hheld | hqueued
    · have hdone' : ∀ answer, stage' ≠ .done answer := by
        rintro answer rfl
        contradiction
      rcases (step_moves s.world c stage').toil hdone' with hless | ⟨g', hg', _⟩
      · exact hless
      · rw [Stage.awaited?_of_held? hheld] at hg'
        contradiction
    · exact step_of_holds hqueued (hc ▸ hholds)

/-- How many steps all calls have before them at most, apart from those spent in queues. -/
def toil (s : System) : Nat := s.tasks.foldr (fun task rest => task.toil + rest) 0

/-- The toil of all tasks falls when that of one does. -/
theorem foldr_toil_set {tasks : List Task} {i : Nat} {task task' : Task}
    (h : tasks[i]? = some task) (hless : task'.toil < task.toil) :
    (tasks.set i task').foldr (fun task rest => task.toil + rest) 0 <
      tasks.foldr (fun task rest => task.toil + rest) 0 := by
  induction tasks generalizing i with
  | nil => simp at h
  | cons x rest ih =>
    cases i with
    | zero =>
      obtain rfl : x = task := by simpa using h
      simpa using hless
    | succ i =>
      have hrest := ih (i := i) (by simpa using h)
      simpa using hrest

theorem toil_advanced {c : Circumstance} {call : Call} {stage : Stage}
    (h : s.At c.caller call stage) (hless : (step s.world c stage).stage.toil < stage.toil) :
    (s.advanced c call stage).toil < s.toil :=
  foldr_toil_set h hless

/-- No call is under way once there are no steps left. -/
theorem quiet_of_toil (h : s.toil = 0) : s.Quiet := by
  intro caller call stage hat
  refine Classical.byContradiction fun hbusy => ?_
  have hpos : 0 < stage.toil := Stage.toil_pos fun answer heq => hbusy ⟨answer, heq⟩
  have hless := foldr_toil_set hat (show Task.toil ⟨call, none⟩ < Task.toil ⟨call, some stage⟩
    from hpos)
  have hnothing : s.tasks.foldr (fun task rest => task.toil + rest) 0 = 0 := h
  rw [hnothing] at hless
  exact absurd hless (Nat.not_lt_zero _)

/-- Every run in which nobody gives up can be continued until all calls have ended. -/
theorem Staffed.completes (hs : s.Staffed)
    (hmeets : ∀ caller, ∃ c, r.meets c ∧ c.caller = caller ∧ ∃ u : Uuid, c.mark = u.render) :
    ∃ log t, s.Runs maxSize r.closed log t ∧ t.Quiet := by
  induction hsize : s.toil using Nat.strongRecOn generalizing s with
  | ind size ih =>
    by_cases hquiet : s.Quiet
    · exact ⟨[], s, .refl, hquiet⟩
    · obtain ⟨caller, call, stage, hat, hless⟩ := hs.progress hquiet
      obtain ⟨c, hc, rfl, hmark⟩ := hmeets caller
      obtain ⟨log, t, hruns, ht⟩ :=
        ih _ (hsize ▸ toil_advanced hat (hless c rfl)) (hs.advanced hat) rfl
      have hfirst : s.Runs maxSize r.closed [⟨s.world, c, stage⟩] (s.advanced c call stage) :=
        .advances .refl c hat hmark hc
      exact ⟨_, t, hfirst.trans hruns, ht⟩

end System

end ConfigRegistry.Service
