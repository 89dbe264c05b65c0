import ConfigRegistry.Proofs.Service.Exclusion

/-!
Who is at a lock. Everybody who holds a mutex of the table or queues for it is a call under way, at
a stage that says so, and is there once. As long as nobody gives up, every mutex of the table also
has a holder, so a lock is in the table only while some call works under it.
-/
namespace ConfigRegistry.Service

namespace Mutex

/-- All who hold a mutex or queue for it, the holder first. -/
def members (m : Mutex) : List Nat := m.holder.toList ++ m.queue

@[simp] theorem members_free : free.members = [] := rfl

theorem mem_members {m : Mutex} {caller : Nat} :
    caller ∈ m.members ↔ m.holder = some caller ∨ caller ∈ m.queue := by
  cases h : m.holder with
  | none => simp [members, h]
  | some other => simp [members, h, eq_comm]

theorem members_enter (m : Mutex) (caller : Nat) :
    (m.enter caller).members.Perm (caller :: m.members) := by
  cases h : m.holder with
  | none => simp [members, enter, h]
  | some other =>
    simpa [members, enter, h] using List.perm_append_singleton caller (other :: m.queue)

theorem members_pass (m : Mutex) : m.pass.members = m.queue := by
  cases h : m.queue with
  | nil => simp [members, pass, h]
  | cons first rest => simp [members, pass, h]

theorem members_of_holder {m : Mutex} {caller : Nat} (h : m.holder = some caller) :
    m.members = caller :: m.queue := by
  simp [members, h]

theorem references_eq (m : Mutex) : m.references = m.members.length := by
  simp [references, members]

end Mutex

namespace Locks

/-- No two identifiers share a mutex, and nobody is at a mutex twice. -/
structure Proper (l : Locks) : Prop where
  bounded : l.Bounded
  injective : ∀ id other number, l.table.get? id = some number →
    l.table.get? other = some number → id = other
  once : ∀ id number, l.table.get? id = some number → (l.mutex number).members.Nodup

/-- A caller holds the mutex that the table has for an identifier, or queues for it. -/
def Has (l : Locks) (g : Guard) (caller : Nat) : Prop :=
  l.table.get? g.id = some g.number ∧ caller ∈ (l.mutex g.number).members

def Manned (l : Locks) : Prop :=
  ∀ id number, l.table.get? id = some number → (l.mutex number).holder ≠ none

variable {l l' : Locks} {g : Guard} {caller number : Nat} {id : String}

/-- With an empty table all is in order. -/
theorem proper_of_unused (h : ∀ id, l.table.get? id = none) : l.Proper := by
  refine ⟨?_, ?_, ?_⟩
  · intro id number hn
    rw [h] at hn
    contradiction
  · intro id other number hn
    rw [h] at hn
    contradiction
  · intro id number hn
    rw [h] at hn
    contradiction

/-- A change to one mutex that leaves everybody there at most once. -/
theorem Proper.modify (hl : l.Proper) (number : Nat) (f : Mutex → Mutex)
    (hf : (l.mutex number).members.Nodup → (f (l.mutex number)).members.Nodup) :
    (l.modify number f).Proper := by
  refine ⟨bounded_modify hl.bounded number f, hl.injective, ?_⟩
  intro id n hn
  have honce := hl.once id n hn
  by_cases heq : n = number
  · subst heq
    rw [mutex_modify_self l f (hl.bounded id n hn)]
    exact hf honce
  · rw [mutex_modify_of_ne l f heq]
    exact honce

@[simp] theorem mutex_sweep (l : Locks) (id : String) (number : Nat) :
    (l.sweep id).mutex number = l.mutex number := by
  unfold sweep
  split
  · split <;> rfl
  · rfl

/-- What is in the table after a sweep was there before, and if it was swept somebody is at it. -/
theorem table_of_sweep {other : String} (h : (l.sweep id).table.get? other = some number) :
    l.table.get? other = some number ∧ (other = id → (l.mutex number).members ≠ []) := by
  unfold sweep at h
  split at h
  · next n hn =>
    split at h
    · simp only [Table.get?_erase] at h
      split at h
      · contradiction
      · next hne => exact ⟨h, fun heq => absurd heq hne⟩
    · next hsome =>
      refine ⟨h, fun heq hnil => hsome ?_⟩
      rw [heq, hn] at h
      rw [Option.some.inj h, Mutex.references_eq, hnil, List.length_nil]
  · next hnone =>
    refine ⟨h, fun heq => ?_⟩
    rw [heq, hnone] at h
    contradiction

theorem Proper.sweep (hl : l.Proper) (id : String) : (l.sweep id).Proper := by
  refine ⟨bounded_sweep hl.bounded id, ?_, ?_⟩
  · intro other another n hn hn'
    exact hl.injective other another n (table_of_sweep hn).1 (table_of_sweep hn').1
  · intro other n hn
    rw [mutex_sweep]
    exact hl.once other n (table_of_sweep hn).1

/-! Entering. -/

theorem mutex_append_free (l : Locks) (table : Table Nat) :
    (⟨table, l.mutexes ++ [.free]⟩ : Locks).mutex l.mutexes.length = .free := by
  simp [mutex]

/-- A look-up in the table adds at most a mutex at which nobody is. -/
theorem refer_occupancy (hl : l.Proper) (h : l.refer id = (number, l')) :
    l'.Proper ∧ (∀ g caller, l'.Has g caller → l.Has g caller) ∧
      ∀ other n, l'.table.get? other = some n → n ≠ number →
        l.table.get? other = some n ∧ l'.mutex n = l.mutex n := by
  have hbounded := (refer_spec hl.bounded h).1
  have hinjective := distinct_refer hl.bounded hl.injective h
  unfold refer at h
  split at h
  · obtain ⟨_, rfl⟩ := Prod.mk.inj h
    exact ⟨hl, fun _ _ h => h, fun _ _ h _ => ⟨h, rfl⟩⟩
  · obtain ⟨rfl, rfl⟩ := Prod.mk.inj h
    -- an old identifier has an old mutex, the new one has the new mutex
    have hcases : ∀ other n,
        (l.table.insert id l.mutexes.length).get? other = some n →
          other = id ∧ n = l.mutexes.length ∨
            l.table.get? other = some n ∧ n < l.mutexes.length := by
      intro other n hn
      rw [Table.get?_insert] at hn
      split at hn
      · next heq => exact .inl ⟨heq, (Option.some.inj hn).symm⟩
      · exact .inr ⟨hn, hl.bounded other n hn⟩
    refine ⟨⟨hbounded, hinjective, ?_⟩, ?_, ?_⟩
    · intro other n hn
      rcases hcases other n hn with ⟨_, rfl⟩ | ⟨hold, hlt⟩
      · simp [mutex_append_free]
      · rw [mutex_append l _ hlt]
        exact hl.once other n hold
    · rintro ⟨other, n⟩ caller ⟨hn, hmem⟩
      rcases hcases other n hn with ⟨_, rfl⟩ | ⟨hold, hlt⟩
      · simp [mutex_append_free] at hmem
      · rw [mutex_append l _ hlt] at hmem
        exact ⟨hold, hmem⟩
    · intro other n hn hne
      rcases hcases other n hn with ⟨_, heq⟩ | ⟨hold, hlt⟩
      · exact absurd heq hne
      · exact ⟨hold, mutex_append l _ hlt⟩

/-- Who enters is at the lock afterwards, and nobody else comes to be at any lock. -/
theorem enter_occupancy (hl : l.Proper) (h : l.enter id caller = (number, l'))
    (hnew : ∀ n, ¬ l.Has ⟨id, n⟩ caller) :
    l'.Proper ∧ (∀ g other, l'.Has g other → l.Has g other ∨ g = ⟨id, number⟩ ∧ other = caller) ∧
      (l.Manned → l'.Manned) := by
  cases hrefer : l.refer id with
  | mk n between =>
    obtain ⟨hproper, hhas, hothers⟩ := refer_occupancy hl hrefer
    have htable := (refer_spec hl.bounded hrefer).2.1
    simp only [enter, hrefer] at h
    obtain ⟨rfl, rfl⟩ := Prod.mk.inj h
    have hself : (between.modify n (·.enter caller)).mutex n = (between.mutex n).enter caller :=
      mutex_modify_self _ _ (hproper.bounded id n htable)
    refine ⟨hproper.modify n _ fun honce => ?_, ?_, ?_⟩
    · rw [(Mutex.members_enter _ caller).nodup_iff, List.nodup_cons]
      exact ⟨fun hmem => hnew n (hhas _ _ ⟨htable, hmem⟩), honce⟩
    · rintro ⟨other, m⟩ another ⟨hm, hmem⟩
      by_cases heq : m = n
      · subst heq
        obtain rfl := hproper.injective other id m hm htable
        rw [hself, (Mutex.members_enter _ caller).mem_iff, List.mem_cons] at hmem
        rcases hmem with rfl | hmem
        · exact .inr ⟨rfl, rfl⟩
        · exact .inl (hhas _ _ ⟨hm, hmem⟩)
      · rw [mutex_modify_of_ne _ _ heq] at hmem
        exact .inl (hhas _ _ ⟨hm, hmem⟩)
    · intro hmanned other m hm
      by_cases heq : m = n
      · subst heq
        rw [hself]
        cases hholder : (between.mutex m).holder with
        | none => simp [Mutex.enter, hholder]
        | some holder => simp [Mutex.enter, hholder]
      · obtain ⟨hold, hmutex⟩ := hothers other m hm heq
        rw [mutex_modify_of_ne _ _ heq, hmutex]
        exact hmanned other m hold

/-! Leaving. -/

/-- Who is at a mutex after its holder passed it on was there before, and is not the holder. -/
theorem has_of_pass (hl : l.Proper) (h : l.HeldBy g caller) {g' : Guard} {other : Nat}
    (h' : (l.pass g.number).Has g' other) : l.Has g' other ∧ (g'.id = g.id → other ≠ caller) := by
  obtain ⟨htable, hmem⟩ := h'
  have htable : l.table.get? g'.id = some g'.number := htable
  by_cases heq : g'.number = g.number
  · rw [heq, pass, mutex_modify_self _ _ (hl.bounded _ _ h.table), Mutex.members_pass] at hmem
    have hmembers := Mutex.members_of_holder h.holder
    refine ⟨⟨htable, ?_⟩, ?_⟩
    · rw [heq, hmembers]
      exact List.mem_cons_of_mem _ hmem
    · rintro _ rfl
      have honce := hl.once _ _ h.table
      rw [hmembers, List.nodup_cons] at honce
      exact honce.1 hmem
  · rw [pass, mutex_modify_of_ne _ _ heq] at hmem
    refine ⟨⟨htable, hmem⟩, fun hid => absurd ?_ heq⟩
    rw [hid, h.table] at htable
    exact (Option.some.inj htable).symm

theorem Proper.pass (hl : l.Proper) (number : Nat) : (l.pass number).Proper :=
  hl.modify number _ fun honce => by
    rw [Mutex.members_pass]
    exact (List.nodup_append.mp honce).2.1

/-- Who lets go of a lock is no longer at it, and nobody else comes to be at any lock. -/
theorem release_occupancy (hl : l.Proper) (h : l.HeldBy g caller) :
    (l.release g.id g.number).Proper ∧
      (∀ g' other, (l.release g.id g.number).Has g' other →
        l.Has g' other ∧ (g'.id = g.id → other ≠ caller)) ∧
      (l.Manned → (l.release g.id g.number).Manned) := by
  refine ⟨(hl.pass g.number).sweep g.id, ?_, ?_⟩
  · rintro g' other ⟨htable, hmem⟩
    rw [release, mutex_sweep] at hmem
    exact has_of_pass hl h ⟨(table_of_sweep htable).1, hmem⟩
  · intro hmanned id n hn
    obtain ⟨hpassed, hswept⟩ := table_of_sweep hn
    have hold : l.table.get? id = some n := hpassed
    rw [release, mutex_sweep]
    by_cases heq : n = g.number
    · subst heq
      have hnonempty := hswept (hl.injective id g.id _ hold h.table)
      have hself : (l.pass g.number).mutex g.number = (l.mutex g.number).pass :=
        mutex_modify_self _ _ (hl.bounded _ _ h.table)
      rw [hself] at hnonempty ⊢
      rw [Mutex.members_pass] at hnonempty
      simpa [Mutex.pass] using hnonempty
    · rw [pass, mutex_modify_of_ne _ _ heq]
      exact hmanned id n hold

/-- Who gives up while it is at a lock is no longer at it, and nobody else comes to be at any. -/
theorem abandon_occupancy (hl : l.Proper) (h : l.ReferredBy g caller) :
    (l.abandon g.number caller).Proper ∧
      ∀ g' other, (l.abandon g.number caller).Has g' other →
        l.Has g' other ∧ (g'.id = g.id → other ≠ caller) := by
  unfold abandon
  split
  · next hholds => exact ⟨hl.pass g.number, fun _ _ h' => has_of_pass hl (h.heldBy hholds) h'⟩
  · next hholds =>
    have hholder : (l.mutex g.number).holder ≠ some caller := by simpa [holds] using hholds
    have hmembers : ∀ m : Mutex, m.holder ≠ some caller →
        ({ m with queue := m.queue.filter (· != caller) } : Mutex).members =
          m.members.filter (· != caller) := by
      intro m hm
      cases hcase : m.holder with
      | none => simp [Mutex.members, hcase]
      | some other =>
        have hne : other ≠ caller := fun heq => hm (heq ▸ hcase)
        simp [Mutex.members, hcase, hne]
    refine ⟨hl.modify _ _ fun honce => ?_, ?_⟩
    · rw [hmembers _ hholder]
      exact honce.filter _
    · rintro g' other ⟨htable, hmem⟩
      have htable : l.table.get? g'.id = some g'.number := htable
      by_cases heq : g'.number = g.number
      · rw [heq, mutex_modify_self _ _ (hl.bounded _ _ h.table), hmembers _ hholder,
          List.mem_filter] at hmem
        exact ⟨⟨htable, heq ▸ hmem.1⟩, fun _ => by simpa using hmem.2⟩
      · rw [mutex_modify_of_ne _ _ heq] at hmem
        refine ⟨⟨htable, hmem⟩, fun hid => absurd ?_ heq⟩
        rw [hid, h.table] at htable
        exact (Option.some.inj htable).symm

end Locks

/-- The lock that a call at this stage holds or queues for. -/
def Stage.Uses (s : Stage) (g : Guard) : Prop := s.held? = some g ∨ s.awaited? = some g

/-- A call uses one lock at a time. -/
theorem Stage.Uses.unique {s : Stage} {g g' : Guard} (h : s.Uses g) (h' : s.Uses g') : g = g' := by
  cases s <;> simp_all [Stage.Uses, Stage.held?, Stage.awaited?]

theorem Stage.awaited?_of_held? {s : Stage} {g : Guard} (h : s.held? = some g) :
    s.awaited? = none := by
  cases s with
  | awaitLock g' data => contradiction
  | _ => rfl

theorem Stage.not_uses {s : Stage} (hheld : s.held? = none) (hawaited : s.awaited? = none)
    (g : Guard) : ¬ s.Uses g := by
  simp [Stage.Uses, hheld, hawaited]

namespace System

/-- Whoever is at a lock of the table is a call under way that holds the lock or queues for it. -/
structure Attended (s : System) : Prop where
  proper : s.world.locks.Proper
  attended : ∀ g caller, s.world.locks.Has g caller →
    ∃ call stage, s.At caller call stage ∧ stage.Uses g

variable {s s' : System} {maxSize : Nat}

theorem attended_of_unused {w : World} (h : ∀ id, w.locks.table.get? id = none) :
    (⟨w, [], []⟩ : System).Attended where
  proper := Locks.proper_of_unused h
  attended g caller := by
    rintro ⟨htable, _⟩
    rw [h] at htable
    contradiction

theorem Attended.begun (hs : s.Attended) (call : Call) : (s.begun maxSize call).Attended where
  proper := hs.proper
  attended g caller h := by
    obtain ⟨call', stage, hat, huses⟩ := hs.attended g caller h
    exact ⟨call', stage, at_begun.mpr (.inl hat), huses⟩

/-- A change to the locks after which nobody is at a lock who was not there before, except for one
caller, who is where the caller's new stage says. -/
theorem Attended.changed {caller : Nat} (hs : s.Attended) (hproper : s'.world.locks.Proper)
    (hother : ∀ other call stage, other ≠ caller → s.At other call stage → s'.At other call stage)
    (hhas : ∀ g other, s'.world.locks.Has g other → other ≠ caller → s.world.locks.Has g other)
    (hself : ∀ g, s'.world.locks.Has g caller →
      ∃ call stage, s'.At caller call stage ∧ stage.Uses g) : s'.Attended where
  proper := hproper
  attended g other h := by
    by_cases ho : other = caller
    · subst ho
      exact hself g h
    · obtain ⟨call, stage, hat, huses⟩ := hs.attended g other (hhas g other h ho)
      exact ⟨call, stage, hother other call stage ho hat, huses⟩

/-- A caller at a stage uses the locks that the stage says. -/
theorem Attended.uses (hs : s.Attended) {caller : Nat} {call : Call} {stage : Stage}
    (h : s.At caller call stage) {g : Guard} (hhas : s.world.locks.Has g caller) :
    stage.Uses g := by
  obtain ⟨call', stage', hat, huses⟩ := hs.attended g caller hhas
  exact (h.unique hat).2 ▸ huses

/-- After a step too, whoever is at a lock is under way. If all locks had a holder, all have one. -/
theorem Attended.advanced {c : Circumstance} {call : Call} {stage : Stage} (hs : s.Attended)
    (hlocked : s.Locked) (h : s.At c.caller call stage) :
    (s.advanced c call stage).Attended ∧
      (s.world.locks.Manned → (s.advanced c call stage).world.locks.Manned) := by
  have hother : ∀ other call' stage', other ≠ c.caller → s.At other call' stage' →
      (s.advanced c call stage).At other call' stage' := by
    intro other call' stage' ho hat
    exact (at_advanced h).mpr (by rwa [if_neg ho])
  have hnow : (s.advanced c call stage).At c.caller call (step s.world c stage).stage :=
    (at_advanced h).mpr (by simp)
  have hworld : (s.advanced c call stage).world = (step s.world c stage).world := rfl
  rcases (step_moves s.world c stage).locks_cases with
    ⟨hlocks, hheld, hawaited⟩ | ⟨g, data, rfl, henter, hwhere⟩ |
    ⟨g, hg, hholds, hlocks, hheld, hawaited⟩ | ⟨g, hg, hlocks, hheld, hawaited⟩
  · rw [hworld, hlocks]
    refine ⟨hs.changed (hworld ▸ hlocks ▸ hs.proper) hother ?_ ?_, id⟩
    · intro g other hhas _
      rwa [hworld, hlocks] at hhas
    · intro g hhas
      rw [hworld, hlocks] at hhas
      refine ⟨call, _, hnow, ?_⟩
      rw [Stage.Uses, hheld, hawaited]
      exact hs.uses h hhas
  · have hnew : ∀ g', ¬ s.world.locks.Has g' c.caller :=
      fun g' hhas => Stage.not_uses rfl rfl g' (hs.uses h hhas)
    obtain ⟨hproper, hhas, hmanned⟩ := Locks.enter_occupancy hs.proper henter fun n => hnew _
    refine ⟨hs.changed hproper hother ?_ ?_, hmanned⟩
    · intro g' other hother' ho
      rcases hhas g' other hother' with hold | ⟨_, heq⟩
      · exact hold
      · exact absurd heq ho
    · intro g' hself
      refine ⟨call, _, hnow, ?_⟩
      rcases hhas g' c.caller hself with hold | ⟨rfl, _⟩
      · exact absurd hold (hnew g')
      · rcases hwhere with ⟨hheld, _, _⟩ | ⟨_, hawaited⟩
        · exact .inl hheld
        · exact .inr hawaited
  · rw [hworld, hlocks]
    refine ⟨hs.changed (hworld ▸ hlocks ▸ hs.proper) hother ?_ ?_, id⟩
    · intro g' other hhas _
      rwa [hworld, hlocks] at hhas
    · intro g' hhas
      rw [hworld, hlocks] at hhas
      have heq : g = g' := Stage.Uses.unique (.inr hg) (hs.uses h hhas)
      exact ⟨call, _, hnow, .inl (heq ▸ hheld)⟩
  · obtain ⟨hproper, hhas, hmanned⟩ :=
      Locks.release_occupancy hs.proper (hlocked.held _ call stage g h hg)
    rw [hworld, hlocks]
    refine ⟨hs.changed (hworld ▸ hlocks ▸ hproper) hother ?_ ?_, hmanned⟩
    · intro g' other hhas' _
      rw [hworld, hlocks] at hhas'
      exact (hhas g' other hhas').1
    · intro g' hhas'
      rw [hworld, hlocks] at hhas'
      obtain ⟨hold, hgone⟩ := hhas g' c.caller hhas'
      have heq : g = g' := Stage.Uses.unique (.inl hg) (hs.uses h hold)
      exact absurd rfl (hgone (heq ▸ rfl))

/-- Where a call is given up that uses a lock, it is at that lock no longer. -/
theorem Attended.abandoned {caller : Nat} {call : Call} {stage : Stage} (hs : s.Attended)
    (hlocked : s.Locked) (h : s.At caller call stage) :
    (s.abandoned caller call stage).Attended := by
  have hother : ∀ other call' stage', other ≠ caller → s.At other call' stage' →
      (s.abandoned caller call stage).At other call' stage' :=
    fun other call' stage' ho hat => (at_abandoned h).mpr ⟨ho, hat⟩
  -- what is left to show of the locks after the caller is gone
  have hchanged : ∀ locks : Locks, (abandon s.world caller stage).locks = locks → locks.Proper →
      (∀ g other, locks.Has g other → s.world.locks.Has g other ∧ other ≠ caller) →
      (s.abandoned caller call stage).Attended := by
    intro locks hlocks hproper hhas
    subst hlocks
    exact hs.changed hproper hother (fun g other h _ => (hhas g other h).1)
      fun g h => absurd rfl (hhas g caller h).2
  -- a caller that used one lock and is gone from it is gone from all
  have hgone : ∀ (locks : Locks) (g : Guard), stage.Uses g →
      (∀ g' other, locks.Has g' other →
        s.world.locks.Has g' other ∧ (g'.id = g.id → other ≠ caller)) →
      ∀ g' other, locks.Has g' other → s.world.locks.Has g' other ∧ other ≠ caller := by
    intro locks g huses hhas g' other h'
    obtain ⟨hold, hne⟩ := hhas g' other h'
    refine ⟨hold, ?_⟩
    rintro rfl
    exact hne (congrArg Guard.id ((hs.uses h hold).unique huses)) rfl
  rcases abandon_cases s.world caller stage with ⟨hheld, hawaited, hlocks⟩ | ⟨g, hg, hlocks⟩ |
    ⟨g, hg, hlocks⟩
  · refine hchanged _ hlocks hs.proper fun g other h' => ⟨h', ?_⟩
    rintro rfl
    exact Stage.not_uses hheld hawaited g (hs.uses h h')
  · obtain ⟨hproper, hhas⟩ :=
      Locks.abandon_occupancy hs.proper (hlocked.awaited caller call stage g h hg)
    exact hchanged _ hlocks hproper (hgone _ g (.inr hg) hhas)
  · obtain ⟨hproper, hhas, _⟩ :=
      Locks.release_occupancy hs.proper (hlocked.held caller call stage g h hg)
    exact hchanged _ hlocks hproper (hgone _ g (.inl hg) hhas)

theorem Attended.changes (hs : s.Attended) (hlocked : s.Locked) (h : s.Changes maxSize s') :
    s'.Attended := by
  cases h with
  | begins call _ => exact hs.begun call
  | advances c h _ => exact (hs.advanced hlocked h).1
  | abandons h => exact hs.abandoned hlocked h

end System

end ConfigRegistry.Service
