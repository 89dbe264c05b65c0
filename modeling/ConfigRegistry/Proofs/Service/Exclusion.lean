import ConfigRegistry.Proofs.Service.Locks
import ConfigRegistry.Proofs.Service.System

/-!
Uploads to one version exclude each other. In every run the callers that work under a lock hold it,
and the callers that queue for a lock are in its queue.
-/
namespace ConfigRegistry.Service

/-- What a step does to the locks: nothing, unless the call enters, takes or leaves one. -/
theorem Moves.locks_cases {w w' : World} {c : Circumstance} {s s' : Stage}
    (h : Moves w c s w' s') :
    (w'.locks = w.locks ∧ s'.held? = s.held? ∧ s'.awaited? = s.awaited?) ∨
    (∃ g data, s = .enterLock g.id data ∧
      w.locks.enter g.id c.caller = (g.number, w'.locks) ∧
      (s'.held? = some g ∧ s'.awaited? = none ∧ w'.locks.holds g.number c.caller = true ∨
        s'.held? = none ∧ s'.awaited? = some g)) ∨
    (∃ g, s.awaited? = some g ∧ w.locks.holds g.number c.caller = true ∧ w'.locks = w.locks ∧
      s'.held? = some g ∧ s'.awaited? = none) ∨
    ∃ g, s.held? = some g ∧ w'.locks = w.locks.release g.id g.number ∧ s'.held? = none ∧
      s'.awaited? = none := by
  cases h with
  | rests answer => exact .inl ⟨rfl, rfl, rfl⟩
  | ends answer hheld hawaited => exact .inl ⟨rfl, hheld.symm, hawaited.symm⟩
  | creates _ => exact .inl ⟨rfl, rfl, rfl⟩
  | fetches _ _ => exact .inl ⟨rfl, rfl, rfl⟩
  | removes _ _ => exact .inl ⟨rfl, rfl, rfl⟩
  | erases _ _ => exact .inl ⟨rfl, rfl, rfl⟩
  | erasesOnly _ _ => exact .inl ⟨rfl, rfl, rfl⟩
  | clears _ => exact .inl ⟨rfl, rfl, rfl⟩
  | enters h hholds => exact .inr (.inl ⟨⟨_, _⟩, _, rfl, h, .inl ⟨rfl, rfl, hholds⟩⟩)
  | queues h => exact .inr (.inl ⟨⟨_, _⟩, _, rfl, h, .inr ⟨rfl, rfl⟩⟩)
  | waits g data => exact .inl ⟨rfl, rfl, rfl⟩
  | takes h => exact .inr (.inr (.inl ⟨_, rfl, h, rfl, rfl, rfl⟩))
  | checks _ _ _ => exact .inl ⟨rfl, rfl, rfl⟩
  | stores _ => exact .inl ⟨rfl, rfl, rfl⟩
  | breaks _ => exact .inl ⟨rfl, rfl, rfl⟩
  | misses _ => exact .inl ⟨rfl, rfl, rfl⟩
  | marks _ => exact .inr (.inr (.inr ⟨_, rfl, rfl, rfl, rfl⟩))
  | voids _ => exact .inr (.inr (.inr ⟨_, rfl, rfl, rfl, rfl⟩))
  | leaves f h => exact .inr (.inr (.inr ⟨_, h, rfl, rfl, rfl⟩))

theorem Opens.outside {maxSize : Nat} {call : Call} {stage : Stage}
    (h : Opens maxSize call stage) : stage.held? = none ∧ stage.awaited? = none := by
  cases h with
  | _ => exact ⟨rfl, rfl⟩

namespace System

/-- Callers have the locks that their stages say. -/
structure Locked (s : System) : Prop where
  bounded : s.world.locks.Bounded
  held : ∀ caller call stage g, s.At caller call stage → stage.held? = some g →
    s.world.locks.HeldBy g caller
  awaited : ∀ caller call stage g, s.At caller call stage → stage.awaited? = some g →
    s.world.locks.ReferredBy g caller

theorem locked_start (blobs : Blob.Store) : (start blobs).Locked where
  bounded id number h := by simp [start, Locks.empty] at h
  held caller call stage g h := by simp [start, At] at h
  awaited caller call stage g h := by simp [start, At] at h

variable {s s' : System} {maxSize : Nat}

theorem Locked.begun (hs : s.Locked) (call : Call) : (s.begun maxSize call).Locked := by
  obtain ⟨hheld, hawaited⟩ := (opening_opens maxSize call).outside
  refine ⟨hs.bounded, ?_, ?_⟩
  · intro other call' stage g hat hg
    rcases at_begun.mp hat with hat | ⟨_, _, rfl⟩
    · exact hs.held other call' stage g hat hg
    · rw [hheld] at hg
      contradiction
  · intro other call' stage g hat hg
    rcases at_begun.mp hat with hat | ⟨_, _, rfl⟩
    · exact hs.awaited other call' stage g hat hg
    · rw [hawaited] at hg
      contradiction

/-- A change to the locks that drives out nobody but one caller, who then has the locks that the
caller's new stage says. -/
theorem Locked.changed {caller : Nat} {locks : Locks} (hs : s.Locked) (hbounded : locks.Bounded)
    (hlocks : s'.world.locks = locks)
    (hreferred : ∀ g other, other ≠ caller → s.world.locks.ReferredBy g other →
      locks.ReferredBy g other)
    (hheld : ∀ g other, other ≠ caller → s.world.locks.HeldBy g other → locks.HeldBy g other)
    (hother : ∀ other call stage, other ≠ caller → s'.At other call stage → s.At other call stage)
    (hself : ∀ call stage g, s'.At caller call stage →
      (stage.held? = some g → locks.HeldBy g caller) ∧
        (stage.awaited? = some g → locks.ReferredBy g caller)) : s'.Locked := by
  subst hlocks
  refine ⟨hbounded, ?_, ?_⟩
  · intro other call stage g hat hg
    by_cases ho : other = caller
    · subst ho
      exact (hself call stage g hat).1 hg
    · exact hheld g other ho (hs.held other call stage g (hother other call stage ho hat) hg)
  · intro other call stage g hat hg
    by_cases ho : other = caller
    · subst ho
      exact (hself call stage g hat).2 hg
    · exact hreferred g other ho
        (hs.awaited other call stage g (hother other call stage ho hat) hg)

/-- A step of one caller leaves the locks of all others as their stages say. -/
theorem Locked.advanced {c : Circumstance} {call : Call} {stage : Stage} (hs : s.Locked)
    (h : s.At c.caller call stage) : (s.advanced c call stage).Locked := by
  have hother : ∀ other call' stage', other ≠ c.caller →
      (s.advanced c call stage).At other call' stage' → s.At other call' stage' := by
    intro other call' stage' ho hat
    simpa [ho] using (at_advanced h).mp hat
  have hstage : ∀ call' stage', (s.advanced c call stage).At c.caller call' stage' →
      stage' = (step s.world c stage).stage := by
    intro call' stage' hat
    have hnew := (at_advanced h).mp hat
    rw [if_pos rfl] at hnew
    exact hnew.2
  rcases (step_moves s.world c stage).locks_cases with
    ⟨hlocks, hheld, hawaited⟩ | ⟨g, _, _, henter, hwhere⟩ |
    ⟨g, hg, hholds, hlocks, hheld, hawaited⟩ | ⟨g, hg, hlocks, hheld, hawaited⟩
  · refine hs.changed hs.bounded hlocks (fun _ _ _ h => h) (fun _ _ _ h => h) hother ?_
    intro call' stage' g hat
    rw [hstage call' stage' hat, hheld, hawaited]
    exact ⟨hs.held _ call stage g h, hs.awaited _ call stage g h⟩
  · obtain ⟨hbounded, hself, hreferred, hkept⟩ := Locks.enter_spec hs.bounded henter
    refine hs.changed hbounded rfl (fun g' other _ h => hreferred g' other h)
      (fun g' other _ h => hkept g' other h) hother ?_
    intro call' stage' g' hat
    rw [hstage call' stage' hat]
    rcases hwhere with ⟨hheld, hawaited, hholds⟩ | ⟨hheld, hawaited⟩
    · rw [hheld, hawaited]
      exact ⟨fun heq => Option.some.inj heq ▸ hself.heldBy hholds, fun heq => by contradiction⟩
    · rw [hheld, hawaited]
      exact ⟨fun heq => by contradiction, fun heq => Option.some.inj heq ▸ hself⟩
  · refine hs.changed hs.bounded hlocks (fun _ _ _ h => h) (fun _ _ _ h => h) hother ?_
    intro call' stage' g' hat
    rw [hstage call' stage' hat, hheld, hawaited]
    exact ⟨fun heq => Option.some.inj heq ▸ (hs.awaited _ call stage g h hg).heldBy hholds,
      fun heq => by contradiction⟩
  · obtain ⟨hbounded, hreferred, hkept⟩ :=
      Locks.release_spec hs.bounded (hs.held _ call stage g h hg)
    refine hs.changed hbounded hlocks hreferred hkept hother ?_
    intro call' stage' g' hat
    rw [hstage call' stage' hat, hheld, hawaited]
    exact ⟨fun heq => by contradiction, fun heq => by contradiction⟩

/-- What a caller that gives up does to the locks. -/
theorem abandon_cases (w : World) (caller : Nat) (stage : Stage) :
    (stage.held? = none ∧ stage.awaited? = none ∧ (abandon w caller stage).locks = w.locks) ∨
    (∃ g, stage.awaited? = some g ∧
      (abandon w caller stage).locks = w.locks.abandon g.number caller) ∨
    ∃ g, stage.held? = some g ∧
      (abandon w caller stage).locks = w.locks.release g.id g.number := by
  cases stage with
  | awaitLock g data => exact .inr (.inl ⟨g, rfl, rfl⟩)
  | checkPending g data => exact .inr (.inr ⟨g, rfl, rfl⟩)
  | storeArchive g id key data => exact .inr (.inr ⟨g, rfl, rfl⟩)
  | markUploaded g id => exact .inr (.inr ⟨g, rfl, rfl⟩)
  | markErrored g id cause => exact .inr (.inr ⟨g, rfl, rfl⟩)
  | _ => exact .inl ⟨rfl, rfl, rfl⟩

/-- A caller that leaves gives up its own lock only. -/
theorem Locked.abandoned {caller : Nat} {call : Call} {stage : Stage} (hs : s.Locked)
    (h : s.At caller call stage) : (s.abandoned caller call stage).Locked := by
  have hother : ∀ other call' stage', other ≠ caller →
      (s.abandoned caller call stage).At other call' stage' → s.At other call' stage' :=
    fun other call' stage' _ hat => ((at_abandoned h).mp hat).2
  have hself : ∀ (locks : Locks) call' stage' (g : Guard),
      (s.abandoned caller call stage).At caller call' stage' →
      (stage'.held? = some g → locks.HeldBy g caller) ∧
        (stage'.awaited? = some g → locks.ReferredBy g caller) :=
    fun _ call' stage' g hat => absurd rfl ((at_abandoned h).mp hat).1
  rcases abandon_cases s.world caller stage with ⟨_, _, hlocks⟩ | ⟨g, hg, hlocks⟩ | ⟨g, hg, hlocks⟩
  · exact hs.changed hs.bounded hlocks (fun _ _ _ h => h) (fun _ _ _ h => h) hother (hself _)
  · obtain ⟨hbounded, hreferred, hkept⟩ := Locks.abandon_spec caller g.number hs.bounded
    exact hs.changed hbounded hlocks hreferred hkept hother (hself _)
  · obtain ⟨hbounded, hreferred, hkept⟩ :=
      Locks.release_spec hs.bounded (hs.held caller call stage g h hg)
    exact hs.changed hbounded hlocks hreferred hkept hother (hself _)

theorem Locked.changes (hs : s.Locked) (h : s.Changes maxSize s') : s'.Locked := by
  cases h with
  | begins call _ => exact hs.begun call
  | advances c h _ => exact hs.advanced h
  | abandons h => exact hs.abandoned h

/-- Two callers that work under the lock of one identifier are one. -/
theorem Locked.exclusive (hs : s.Locked) {caller other : Nat} {call call' : Call}
    {stage stage' : Stage} {g g' : Guard} (h : s.At caller call stage)
    (h' : s.At other call' stage') (hg : stage.held? = some g) (hg' : stage'.held? = some g')
    (hid : g.id = g'.id) : caller = other :=
  (hs.held caller call stage g h hg).unique (hs.held other call' stage' g' h' hg') hid

end System

end ConfigRegistry.Service
