import ConfigRegistry.Proofs.Service.Completion
import ConfigRegistry.Proofs.Service.Leftovers

/-!
The locks of the service are locks under contention. Each step of a call does at once what a caller
can do by some acts that follow one another, so every run of the service is one of the runs in which
callers interleave act by act, and what holds of all those holds of the service.
-/
namespace ConfigRegistry.Service

namespace Contention

/-- Some acts that follow one another lead from one state to another. -/
def Leads (c c' : Contention) : Prop := ∃ acts, c.Allows acts ∧ acts.foldl next c = c'

variable {c : Contention} {l : Locks} {caller number : Nat} {stance : Stance} {g : Guard}
  {id : String}

theorem Leads.refl (c : Contention) : c.Leads c := ⟨[], trivial, rfl⟩

@[simp] theorem moved_moved (c : Contention) (l l' : Locks) (caller : Nat) (stance new : Stance) :
    (c.moved l caller stance).moved l' caller new = c.moved l' caller new := by
  simp [moved]

theorem moved_self (h : c.At caller stance) : c.moved c.locks caller stance = c := by
  obtain ⟨hlt, heq⟩ := List.getElem?_eq_some_iff.mp h
  simp [moved, ← heq]

theorem At.moved (h : c.At caller stance) (l : Locks) (new : Stance) :
    (c.moved l caller new).At caller new :=
  (at_moved h).mpr (by rw [if_pos rfl])

/-- Looking the mutex up and entering it, one after the other. -/
theorem leads_enter (hat : c.At caller .outside) (h : c.locks.enter id caller = (number, l)) :
    c.Leads (c.moved l caller
      (if l.holds number caller then .holding ⟨id, number⟩ else .waiting ⟨id, number⟩)) := by
  cases hrefer : c.locks.refer id with
  | mk n between =>
    simp only [Locks.enter, hrefer] at h
    obtain ⟨rfl, rfl⟩ := Prod.mk.inj h
    have hfinds : c.next (.finds caller id) = c.moved between caller (.found ⟨id, n⟩) := by
      simp only [next, hrefer]
    refine ⟨[.finds caller id, .enters caller ⟨id, n⟩], ⟨hat, ?_, trivial⟩, ?_⟩
    · rw [hfinds]
      exact hat.moved between _
    · rw [List.foldl_cons, hfinds]
      exact moved_moved c between _ caller _ _

theorem leads_take (hat : c.At caller (.waiting g))
    (hholds : c.locks.holds g.number caller = true) :
    c.Leads (c.moved c.locks caller (.holding g)) :=
  ⟨[.takes caller g], ⟨⟨hat, hholds⟩, trivial⟩, rfl⟩

/-- To sweep by the references of callers is to sweep by who is at the mutex, if these agree. -/
theorem swept_eq_sweep (h : ∀ number, c.locks.table.get? id = some number →
    (c.references number = 0 ↔ (c.locks.mutex number).references = 0)) :
    c.swept id = c.locks.sweep id := by
  unfold swept Locks.sweep
  cases htable : c.locks.table.get? id with
  | none => rfl
  | some number => simp only [h number htable]

/-- Passing the mutex on, dropping the reference and looking into the table. -/
theorem leads_release (hat : c.At caller (.holding g))
    (hagree : ∀ number, c.locks.table.get? g.id = some number →
      ((c.moved (c.locks.pass g.number) caller (.clearing g.id)).references number = 0 ↔
        ((c.locks.pass g.number).mutex number).references = 0)) :
    c.Leads (c.moved (c.locks.release g.id g.number) caller .outside) := by
  have hdrops : (c.next (.passes caller g)).next (.drops caller g) =
      c.moved (c.locks.pass g.number) caller (.clearing g.id) := moved_moved c _ _ caller _ _
  have hswept : (c.moved (c.locks.pass g.number) caller (.clearing g.id)).swept g.id =
      c.locks.release g.id g.number := swept_eq_sweep hagree
  refine ⟨[.passes caller g, .drops caller g, .clears caller g.id],
    ⟨hat, hat.moved _ _, ?_, trivial⟩, ?_⟩
  · rw [hdrops]
    exact hat.moved _ _
  · simp only [List.foldl_cons, List.foldl_nil, hdrops]
    simp only [next, hswept, moved_moved]

/-- Leaving the queue and dropping the reference. -/
theorem leads_quit (hat : c.At caller (.waiting g)) :
    c.Leads (c.moved (c.locks.abandon g.number caller) caller .outside) :=
  ⟨[.quits caller g, .forgets caller g], ⟨hat, .inr (hat.moved _ _), trivial⟩,
    moved_moved c _ _ caller _ _⟩

end Contention

def Stage.stance (s : Stage) : Stance :=
  match s.held?, s.awaited? with
  | some g, _ => .holding g
  | none, some g => .waiting g
  | none, none => .outside

def Task.stance (task : Task) : Stance := (task.stage.map Stage.stance).getD .outside

namespace Stage

variable {s s' : Stage} {g : Guard}

theorem stance_of_held (h : s.held? = some g) : s.stance = .holding g := by
  simp [stance, h]

theorem stance_of_awaited (h : s.awaited? = some g) : s.stance = .waiting g := by
  cases s with
  | awaitLock g' data => exact congrArg Stance.waiting (Option.some.inj h)
  | _ => contradiction

theorem stance_of_outside (hheld : s.held? = none) (hawaited : s.awaited? = none) :
    s.stance = .outside := by
  simp [stance, hheld, hawaited]

/-- A call refers to the mutexes that it uses, which is one at most. -/
theorem refers?_stance : s.stance.refers? = some g ↔ s.Uses g := by
  unfold Uses
  cases hheld : s.held? with
  | some g' => simp [stance_of_held hheld, Stance.refers?, awaited?_of_held? hheld]
  | none =>
    cases hawaited : s.awaited? with
    | some g' => simp [stance_of_awaited hawaited, Stance.refers?]
    | none => simp [stance_of_outside hheld hawaited, Stance.refers?]

end Stage

namespace System

def contention (s : System) : Contention := ⟨s.world.locks, s.tasks.map Task.stance⟩

variable {s s' : System} {maxSize caller : Nat} {call : Call} {stage : Stage} {stance : Stance}
  {g : Guard}

theorem At.stands (h : s.At caller call stage) : s.contention.At caller stage.stance := by
  simp only [At] at h
  simp [Contention.At, contention, h, Task.stance]

theorem task_of_at (h : s.contention.At caller stance) :
    ∃ task, s.tasks[caller]? = some task ∧ task.stance = stance := by
  simpa [Contention.At, contention] using h

/-- Whoever refers to a mutex is a call under way that uses it. -/
theorem at_of_refers? (h : s.contention.At caller stance) (hg : stance.refers? = some g) :
    ∃ call stage, s.At caller call stage ∧ stage.Uses g := by
  obtain ⟨⟨call, stage⟩, htask, rfl⟩ := task_of_at h
  cases stage with
  | none => contradiction
  | some stage => exact ⟨call, stage, htask, Stage.refers?_stance.mp hg⟩

theorem contention_begun (s : System) (maxSize : Nat) (call : Call) :
    (s.begun maxSize call).contention = s.contention.next .comes := by
  obtain ⟨hheld, hawaited⟩ := (opening_opens maxSize call).outside
  simp [contention, begun, Contention.next, Task.stance, Stage.stance_of_outside hheld hawaited]

theorem contention_advanced (s : System) (c : Circumstance) (call : Call) (stage : Stage) :
    (s.advanced c call stage).contention =
      s.contention.moved (step s.world c stage).world.locks c.caller
        (step s.world c stage).stage.stance := by
  simp [contention, advanced, Contention.moved, List.map_set, Task.stance]

theorem contention_abandoned (s : System) (caller : Nat) (call : Call) (stage : Stage) :
    (s.abandoned caller call stage).contention =
      s.contention.moved (abandon s.world caller stage).locks caller .outside := by
  simp [contention, abandoned, Contention.moved, List.map_set, Task.stance]

/-- While steps are taken one after the other, callers that refer to a mutex are at it, so that it
is unused after its holder passed it on exactly if no other caller refers to it. -/
theorem references_passed (hs : s.Locked) (ha : s.Attended) (hat : s.At caller call stage)
    (hheld : stage.held? = some g) {number : Nat}
    (hnumber : s.world.locks.table.get? g.id = some number) :
    (s.contention.moved (s.world.locks.pass g.number) caller (.clearing g.id)).references number
        = 0 ↔ ((s.world.locks.pass g.number).mutex number).references = 0 := by
  have hholds := hs.held caller call stage g hat hheld
  obtain rfl : g.number = number := Option.some.inj (hholds.table.symm.trans hnumber)
  rw [Contention.references_eq_zero_iff, Mutex.references_eq, List.length_eq_zero_iff,
    List.eq_nil_iff_forall_not_mem]
  constructor
  · -- whoever is at the mutex is another call under way
    intro h other hmem
    have hafter : (s.world.locks.pass g.number).Has g other := ⟨hholds.table, hmem⟩
    obtain ⟨hbefore, hne⟩ := Locks.has_of_pass ha.proper hholds hafter
    obtain ⟨call', stage', hat', huses⟩ := ha.attended g other hbefore
    refine h other stage'.stance g ((Contention.at_moved hat.stands).mpr ?_)
      (Stage.refers?_stance.mpr huses) rfl
    rw [if_neg (hne rfl)]
    exact hat'.stands
  · intro h other stance' g' hother hg' heq
    rw [Contention.at_moved hat.stands] at hother
    split at hother
    · rw [hother] at hg'
      contradiction
    · next hne =>
      obtain ⟨call', stage', hat', huses⟩ := at_of_refers? hother hg'
      have hreferred : s.world.locks.ReferredBy g' other := by
        rcases huses with hheld' | hawaited'
        · exact (hs.held other call' stage' g' hat' hheld').referredBy
        · exact hs.awaited other call' stage' g' hat' hawaited'
      have hpresent := (Locks.pass_referredBy hholds.holder hne hreferred).present
      rw [heq] at hpresent
      exact h other (Mutex.mem_members.mpr hpresent)

theorem leads_released (hs : s.Locked) (ha : s.Attended) (hat : s.At caller call stage)
    (hheld : stage.held? = some g) :
    s.contention.Leads
      (s.contention.moved (s.world.locks.release g.id g.number) caller .outside) :=
  Contention.leads_release (Stage.stance_of_held hheld ▸ hat.stands)
    fun _ hnumber => references_passed hs ha hat hheld hnumber

/-- Who enters a lock holds it if it was free and else waits. -/
theorem stance_enterLock {w : World} {c : Circumstance} {data : ByteArray}
    (h : w.locks.enter g.id c.caller =
      (g.number, (step w c (.enterLock g.id data)).world.locks)) :
    (step w c (.enterLock g.id data)).stage.stance =
      if (step w c (.enterLock g.id data)).world.locks.holds g.number c.caller then .holding g
      else .waiting g := by
  cases henter : w.locks.enter g.id c.caller with
  | mk number locks =>
    rw [henter] at h
    obtain rfl : number = g.number := (Prod.mk.inj h).1
    simp only [step, henter]
    split <;> rfl

/-- A step of a call. -/
theorem leads_advanced (hs : s.Locked) (ha : s.Attended) {c : Circumstance}
    (hat : s.At c.caller call stage) :
    s.contention.Leads (s.advanced c call stage).contention := by
  rw [contention_advanced]
  have hstands := hat.stands
  rcases (step_moves s.world c stage).locks_cases with
    ⟨hlocks, hheld, hawaited⟩ | ⟨g, data, rfl, henter, _⟩ |
    ⟨g, hg, hholds, hlocks, hheld, _⟩ | ⟨g, hg, hlocks, hheld, hawaited⟩
  · have hstance : (step s.world c stage).stage.stance = stage.stance := by
      simp only [Stage.stance, hheld, hawaited]
    rw [hlocks, hstance]
    exact (Contention.moved_self hstands).symm ▸ .refl _
  · rw [stance_enterLock henter]
    exact Contention.leads_enter hstands henter
  · rw [hlocks, Stage.stance_of_held hheld]
    rw [Stage.stance_of_awaited hg] at hstands
    exact Contention.leads_take hstands hholds
  · rw [hlocks, Stage.stance_of_outside hheld hawaited]
    exact leads_released hs ha hat hg

/-- A caller that gives up. -/
theorem leads_abandoned (hs : s.Locked) (ha : s.Attended) (hat : s.At caller call stage) :
    s.contention.Leads (s.abandoned caller call stage).contention := by
  rw [contention_abandoned]
  have hstands := hat.stands
  rcases abandon_cases s.world caller stage with ⟨hheld, hawaited, hlocks⟩ | ⟨g, hg, hlocks⟩ |
    ⟨g, hg, hlocks⟩
  · rw [Stage.stance_of_outside hheld hawaited] at hstands
    rw [hlocks]
    exact (Contention.moved_self hstands).symm ▸ .refl _
  · rw [Stage.stance_of_awaited hg] at hstands
    rw [hlocks]
    exact Contention.leads_quit hstands
  · rw [hlocks]
    exact leads_released hs ha hat hg

/-- What a run of the service leads to is, for its locks, what callers come to that act in some
order. -/
theorem Reachable.contends (h : Reachable maxSize s) :
    ∃ log, Contention.Runs log s.contention := by
  obtain ⟨blobs, _, hreaches⟩ := h
  have hstart : (start blobs).Locked ∧ (start blobs).Attended ∧
      ∃ log, Contention.Runs log (start blobs).contention :=
    ⟨locked_start blobs, attended_of_unused fun _ => rfl, [], .start⟩
  refine (hreaches.induction (P := fun t => t.Locked ∧ t.Attended ∧
    ∃ log, Contention.Runs log t.contention) hstart ?_).2.2
  rintro t u ⟨hlocked, hattended, log, hruns⟩ hchange
  refine ⟨hlocked.changes hchange, hattended.changes hlocked hchange, ?_⟩
  obtain ⟨acts, hacts, heq⟩ : t.contention.Leads u.contention := by
    cases hchange with
    | begins call _ => exact contention_begun t maxSize call ▸ ⟨[.comes], ⟨trivial, trivial⟩, rfl⟩
    | advances c hat _ => exact leads_advanced hlocked hattended hat
    | abandons hat => exact leads_abandoned hlocked hattended hat
  exact ⟨log ++ acts, heq ▸ hruns.append hacts⟩

/-- Once no call is under way no caller is busy with a lock. -/
theorem Quiet.deserted (h : s.Quiet) (id : String) : s.contention.Deserted id := by
  rintro caller stance hat hid
  obtain ⟨⟨call, stage⟩, htask, rfl⟩ := task_of_at hat
  cases stage with
  | none => contradiction
  | some stage =>
    obtain ⟨answer, rfl⟩ := h caller call stage htask
    contradiction

/-- However any number of callers interleave, act by act, they exclude each other at the locks; and
so do the calls in every run of the service. -/
theorem callers_exclude :
    (∀ log c, Contention.Runs log c → c.Exclusive) ∧
      ∀ maxSize s, Reachable maxSize s → s.contention.Exclusive := by
  refine ⟨fun log c h => h.exclusive, fun maxSize s h => ?_⟩
  obtain ⟨log, hruns⟩ := h.contends
  exact hruns.exclusive

/-! Callers that meet at a lock. -/

/-- A caller works and another queues behind it, while a third has looked the mutex up and does not
queue yet. The first passes the mutex on and looks into the table only after the second has started
to work and the third queues. -/
def handover : List Act :=
  let g : Guard := ⟨"cv-a", 0⟩
  [.comes, .comes, .comes, .finds 0 "cv-a", .enters 0 g, .finds 1 "cv-a", .enters 1 g,
    .finds 2 "cv-a", .passes 0 g, .takes 1 g, .drops 0 g, .enters 2 g, .clears 0 "cv-a"]

/-- Two callers upload to a version that was created before. The first works and the second
waits. -/
def engaged : System :=
  (created "a").staged 4 [.upload "cv-a" ⟨#[1, 2]⟩, .upload "cv-a" ⟨#[3]⟩] [1, 2]

theorem engaged_reachable : engaged.Reachable 4 :=
  ⟨.empty, .memory, reaches_created "a" (by simp [Call.drawn?]) _⟩

theorem handover_excludes :
    let c := handover.foldl Contention.next .start
    let g : Guard := ⟨"cv-a", 0⟩
    (Contention.Runs handover c ∧ c.At 1 (.holding g) ∧ c.At 2 (.waiting g) ∧ c.Exclusive) ∧
      engaged.Reachable 4 ∧ engaged.contention.At 1 (.holding g) ∧
        engaged.contention.At 2 (.waiting g) ∧ engaged.contention.Exclusive := by
  have hruns : Contention.Runs ([] ++ handover) (handover.foldl Contention.next .start) :=
    Contention.Runs.start.append (by decide)
  exact ⟨⟨hruns, by decide, by decide, callers_exclude.1 _ _ hruns⟩, engaged_reachable, rfl, rfl,
    callers_exclude.2 4 _ engaged_reachable⟩

/-- The first caller uploads its archive, and the second is given up before it notices that it was
given the lock. -/
def forsaken : System :=
  ([1, 1, 1].foldl proceed engaged).abandoned 2 (.upload "cv-a" ⟨#[3]⟩)
    (.awaitLock ⟨"cv-a", 0⟩ ⟨#[3]⟩)

theorem forsaken_reachable : forsaken.Reachable 4 := by
  obtain ⟨blobs, hopened, hreaches⟩ := engaged_reachable
  have hproceeded := hreaches.trans (reaches_foldl_proceed [1, 1, 1] 4 _)
  exact ⟨blobs, hopened, hproceeded.step (.abandons rfl)⟩

/-- After that run no call is under way, and the table still has the lock. -/
theorem forsaken_lock_remains : ∃ s : System, s.Reachable 4 ∧ s.Quiet ∧
    (∃ log, Contention.Runs log s.contention) ∧ s.contention.Deserted "cv-a" ∧
      ∃ number, s.contention.locks.table.get? "cv-a" = some number :=
  have hquiet : forsaken.Quiet := quiet_of_toil rfl
  ⟨forsaken, forsaken_reachable, hquiet, forsaken_reachable.contends, hquiet.deserted "cv-a", 0,
    rfl⟩

end System

end ConfigRegistry.Service
