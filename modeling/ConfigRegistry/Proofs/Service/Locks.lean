import ConfigRegistry.Service.Basic

/-!
Locks exclude each other. The table keeps the mutex of an identifier as long as somebody holds it or
queues for it, so all callers of one identifier meet at one mutex, and that has one holder.
-/
namespace ConfigRegistry.Service.Locks

def Bounded (l : Locks) : Prop :=
  ∀ id number, l.table.get? id = some number → number < l.mutexes.length

/-- A caller holds the mutex that the table has for an identifier. -/
structure HeldBy (l : Locks) (g : Guard) (caller : Nat) : Prop where
  table : l.table.get? g.id = some g.number
  holder : (l.mutex g.number).holder = some caller

/-- A caller holds or queues for the mutex that the table has for an identifier. -/
structure ReferredBy (l : Locks) (g : Guard) (caller : Nat) : Prop where
  table : l.table.get? g.id = some g.number
  present : (l.mutex g.number).holder = some caller ∨ caller ∈ (l.mutex g.number).queue

theorem HeldBy.referredBy {l : Locks} {g : Guard} {caller : Nat} (h : l.HeldBy g caller) :
    l.ReferredBy g caller := ⟨h.table, .inl h.holder⟩

theorem ReferredBy.heldBy {l : Locks} {g : Guard} {caller : Nat} (h : l.ReferredBy g caller)
    (hholds : l.holds g.number caller = true) : l.HeldBy g caller :=
  ⟨h.table, by simpa [holds] using hholds⟩

/-- Two callers that hold the lock of one identifier are one. -/
theorem HeldBy.unique {l : Locks} {g g' : Guard} {caller other : Nat} (h : l.HeldBy g caller)
    (h' : l.HeldBy g' other) (hid : g.id = g'.id) : caller = other := by
  have hnumber : g.number = g'.number := by
    have htable := h'.table
    rw [← hid, h.table] at htable
    exact Option.some.inj htable
  have hholder := h'.holder
  rw [← hnumber, h.holder] at hholder
  exact Option.some.inj hholder

/-! Changes to one mutex. -/

theorem mutex_modify_of_ne (l : Locks) {number other : Nat} (f : Mutex → Mutex)
    (h : other ≠ number) : (l.modify number f).mutex other = l.mutex other := by
  simp [mutex, modify, h.symm]

theorem mutex_modify_self (l : Locks) {number : Nat} (f : Mutex → Mutex)
    (h : number < l.mutexes.length) : (l.modify number f).mutex number = f (l.mutex number) := by
  simp [mutex, modify, h]

theorem lt_length_of_present {l : Locks} {number caller : Nat}
    (h : (l.mutex number).holder = some caller ∨ caller ∈ (l.mutex number).queue) :
    number < l.mutexes.length := by
  rcases Nat.lt_or_ge number l.mutexes.length with hlt | hge
  · exact hlt
  · simp [mutex, List.getElem?_eq_none hge, Mutex.free] at h

theorem bounded_modify {l : Locks} (h : l.Bounded) (number : Nat) (f : Mutex → Mutex) :
    (l.modify number f).Bounded := by
  intro id n hn
  simpa [modify] using h id n hn

/-- A caller that a change to its mutex leaves there keeps its reference. -/
theorem ReferredBy.modify {l : Locks} {g : Guard} {caller : Nat} (h : l.ReferredBy g caller)
    (number : Nat) (f : Mutex → Mutex)
    (hf : number = g.number → (f (l.mutex number)).holder = some caller ∨
      caller ∈ (f (l.mutex number)).queue) : (l.modify number f).ReferredBy g caller where
  table := h.table
  present := by
    by_cases hn : g.number = number
    · subst hn
      rw [mutex_modify_self l f (lt_length_of_present h.present)]
      exact hf rfl
    · rw [mutex_modify_of_ne l f hn]
      exact h.present

/-- A guard is kept through any change of a mutex that keeps its holder. -/
theorem HeldBy.modify {l : Locks} {g : Guard} {caller : Nat} (h : l.HeldBy g caller)
    (number : Nat) (f : Mutex → Mutex)
    (hf : number = g.number → (f (l.mutex number)).holder = some caller) :
    (l.modify number f).HeldBy g caller where
  table := h.table
  holder := by
    by_cases hn : g.number = number
    · subst hn
      rw [mutex_modify_self l f (lt_length_of_present (.inl h.holder))]
      exact hf rfl
    · rw [mutex_modify_of_ne l f hn]
      exact h.holder

/-! Entering. -/

theorem mutex_append (l : Locks) {number : Nat} (table : Table Nat)
    (h : number < l.mutexes.length) :
    (⟨table, l.mutexes ++ [.free]⟩ : Locks).mutex number = l.mutex number := by
  simp [mutex, List.getElem?_append_left h]

/-- A look-up leaves what is in the table. -/
theorem refer_table {l l' : Locks} {id other : String} {number n : Nat}
    (h : l.refer id = (number, l')) (hn : l.table.get? other = some n) :
    l'.table.get? other = some n := by
  unfold refer at h
  split at h
  · obtain ⟨_, rfl⟩ := Prod.mk.inj h
    exact hn
  · next hnone =>
    obtain ⟨_, rfl⟩ := Prod.mk.inj h
    rw [Table.get?_insert, if_neg, hn]
    rintro rfl
    rw [hnone] at hn
    contradiction

/-- A look-up touches no other identifier. -/
theorem refer_table_of_ne {l l' : Locks} {id other : String} {number : Nat}
    (h : l.refer id = (number, l')) (hne : other ≠ id) :
    l'.table.get? other = l.table.get? other := by
  unfold refer at h
  split at h
  · obtain ⟨_, rfl⟩ := Prod.mk.inj h
    rfl
  · obtain ⟨_, rfl⟩ := Prod.mk.inj h
    rw [Table.get?_insert, if_neg hne]

/-- After a look-up in the table it has a mutex for the identifier, and all old references. -/
theorem refer_spec {l l' : Locks} {id : String} {number : Nat} (hbounded : l.Bounded)
    (h : l.refer id = (number, l')) :
    l'.Bounded ∧ l'.table.get? id = some number ∧
      (∀ g caller, l.ReferredBy g caller → l'.ReferredBy g caller) ∧
      ∀ g caller, l.HeldBy g caller → l'.HeldBy g caller := by
  have hkept : ∀ g : Guard, l.table.get? g.id = some g.number →
      l'.table.get? g.id = some g.number := fun _ hg => refer_table h hg
  unfold refer at h
  split at h
  · next hsome =>
    obtain ⟨rfl, rfl⟩ := Prod.mk.inj h
    exact ⟨hbounded, hsome, fun _ _ h => h, fun _ _ h => h⟩
  · obtain ⟨rfl, rfl⟩ := Prod.mk.inj h
    refine ⟨?_, by simp, ?_, ?_⟩
    · intro other n hn
      simp only [Table.get?_insert] at hn
      rw [List.length_append, List.length_singleton]
      split at hn
      · obtain rfl := Option.some.inj hn
        omega
      · have hlt := hbounded other n hn
        omega
    · intro g caller hg
      refine ⟨hkept g hg.table, ?_⟩
      rw [mutex_append l _ (lt_length_of_present hg.present)]
      exact hg.present
    · intro g caller hg
      refine ⟨hkept g hg.table, ?_⟩
      rw [mutex_append l _ (lt_length_of_present (.inl hg.holder))]
      exact hg.holder

def Distinct (l : Locks) : Prop :=
  ∀ id other number, l.table.get? id = some number → l.table.get? other = some number → id = other

/-- A look-up that puts a mutex into the table puts a new one there. -/
theorem distinct_refer {l l' : Locks} {id : String} {number : Nat} (hbounded : l.Bounded)
    (hdistinct : l.Distinct) (h : l.refer id = (number, l')) : l'.Distinct := by
  unfold refer at h
  split at h
  · obtain ⟨_, rfl⟩ := Prod.mk.inj h
    exact hdistinct
  · obtain ⟨_, rfl⟩ := Prod.mk.inj h
    intro other another n hn hn'
    simp only [Table.get?_insert] at hn hn'
    split at hn
    · next heq =>
      split at hn'
      · next heq' => exact heq.trans heq'.symm
      · obtain rfl := Option.some.inj hn
        exact absurd (hbounded another _ hn') (Nat.lt_irrefl _)
    · split at hn'
      · obtain rfl := Option.some.inj hn'
        exact absurd (hbounded other _ hn) (Nat.lt_irrefl _)
      · exact hdistinct other another n hn hn'

/-- Nobody who holds a mutex or queues for it is driven out by one who enters. -/
theorem ReferredBy.enter {l : Locks} {g : Guard} {other : Nat} (h : l.ReferredBy g other)
    (number caller : Nat) : (l.modify number (·.enter caller)).ReferredBy g other := by
  refine h.modify number _ fun hn => ?_
  have hpresent := h.present
  rw [← hn] at hpresent
  unfold Mutex.enter
  split
  · next hnone =>
    rw [hnone] at hpresent
    exact .inr (hpresent.resolve_left (by simp))
  · rcases hpresent with hholder | hqueue
    · exact .inl hholder
    · exact .inr (List.mem_append_left _ hqueue)

theorem HeldBy.enter {l : Locks} {g : Guard} {other : Nat} (h : l.HeldBy g other)
    (number caller : Nat) : (l.modify number (·.enter caller)).HeldBy g other := by
  refine h.modify number _ fun hn => ?_
  have hholder := h.holder
  rw [← hn] at hholder
  simp [Mutex.enter, hholder]

/-- Who enters a mutex of the table is there afterwards. -/
theorem referredBy_enter {l : Locks} (hbounded : l.Bounded) {g : Guard}
    (htable : l.table.get? g.id = some g.number) (caller : Nat) :
    (l.modify g.number (·.enter caller)).ReferredBy g caller := by
  refine ⟨htable, ?_⟩
  rw [mutex_modify_self _ _ (hbounded g.id g.number htable)]
  unfold Mutex.enter
  split
  · exact .inl rfl
  · exact .inr (by simp)

/-- Who enters refers to the mutex of its identifier, and nobody is driven out. -/
theorem enter_spec {l l' : Locks} {id : String} {caller number : Nat} (hbounded : l.Bounded)
    (h : l.enter id caller = (number, l')) :
    l'.Bounded ∧ l'.ReferredBy ⟨id, number⟩ caller ∧
      (∀ g other, l.ReferredBy g other → l'.ReferredBy g other) ∧
      ∀ g other, l.HeldBy g other → l'.HeldBy g other := by
  cases hrefer : l.refer id with
  | mk n between =>
    obtain ⟨hbounded', htable, hreferred, hheld⟩ := refer_spec hbounded hrefer
    simp only [enter, hrefer] at h
    obtain ⟨rfl, rfl⟩ := Prod.mk.inj h
    exact ⟨bounded_modify hbounded' n _, referredBy_enter (g := ⟨id, n⟩) hbounded' htable caller,
      fun g other hg => (hreferred g other hg).enter n caller,
      fun g other hg => (hheld g other hg).enter n caller⟩

def Unheld (l : Locks) (id : String) : Prop :=
  ∀ number, l.table.get? id = some number → (l.mutex number).holder = none

/-- Who enters when nobody holds the lock holds it. -/
theorem Unheld.enter {l l' : Locks} {id : String} {caller number : Nat} (hfree : l.Unheld id)
    (hbounded : l.Bounded) (h : l.enter id caller = (number, l')) :
    l'.holds number caller = true := by
  cases hrefer : l.refer id with
  | mk n between =>
    have hn := (refer_spec hbounded hrefer).1 id n (refer_spec hbounded hrefer).2.1
    have hholder : (between.mutex n).holder = none := by
      unfold refer at hrefer
      split at hrefer
      · next hsome =>
        obtain ⟨rfl, rfl⟩ := Prod.mk.inj hrefer
        exact hfree _ hsome
      · obtain ⟨rfl, rfl⟩ := Prod.mk.inj hrefer
        simp [mutex, Mutex.free]
    simp only [Locks.enter, hrefer] at h
    obtain ⟨rfl, rfl⟩ := Prod.mk.inj h
    rw [holds, mutex_modify_self _ _ hn]
    simp [Mutex.enter, hholder]

/-! Leaving. -/

/-- Passing a mutex on costs nobody but its holder a reference. -/
theorem pass_referredBy {l : Locks} {g : Guard} {number caller other : Nat}
    (hholder : (l.mutex number).holder = some caller) (hne : other ≠ caller)
    (h : l.ReferredBy g other) : (l.pass number).ReferredBy g other := by
  refine h.modify number _ fun hn => ?_
  have hpresent := h.present
  rw [← hn, hholder] at hpresent
  have hqueue := hpresent.resolve_left fun heq => hne (Option.some.inj heq).symm
  unfold Mutex.pass
  cases hlist : (l.mutex number).queue with
  | nil => simp [hlist] at hqueue
  | cons first rest =>
    rw [hlist, List.mem_cons] at hqueue
    rcases hqueue with rfl | hrest
    · exact .inl rfl
    · exact .inr hrest

theorem pass_heldBy {l : Locks} {g : Guard} {number caller other : Nat}
    (hholder : (l.mutex number).holder = some caller) (hne : other ≠ caller)
    (h : l.HeldBy g other) : (l.pass number).HeldBy g other := by
  refine h.modify number _ fun hn => ?_
  have hother := h.holder
  rw [← hn, hholder] at hother
  exact absurd (Option.some.inj hother).symm hne

/-- What is in the table without an identifier was in the table. -/
theorem table_of_erase {l : Locks} {id other : String} {n : Nat}
    (h : (l.table.erase id).get? other = some n) : l.table.get? other = some n := by
  rw [Table.get?_erase] at h
  split at h
  · contradiction
  · exact h

theorem bounded_erase {l : Locks} (h : l.Bounded) (id : String) :
    (⟨l.table.erase id, l.mutexes⟩ : Locks).Bounded :=
  fun other n hn => h other n (table_of_erase hn)

theorem distinct_erase {l : Locks} (h : l.Distinct) (id : String) :
    (⟨l.table.erase id, l.mutexes⟩ : Locks).Distinct :=
  fun other another n hn hn' => h other another n (table_of_erase hn) (table_of_erase hn')

theorem bounded_sweep {l : Locks} (h : l.Bounded) (id : String) : (l.sweep id).Bounded := by
  unfold sweep
  split
  · split
    · exact bounded_erase h id
    · exact h
  · exact h

/-- A mutex that somebody refers to stays in the table. -/
theorem sweep_table {l : Locks} {g : Guard} {caller : Nat} (h : l.ReferredBy g caller)
    (id : String) :
    (l.sweep id).table.get? g.id = some g.number ∧
      (l.sweep id).mutex g.number = l.mutex g.number := by
  unfold sweep
  split
  · next number hnumber =>
    split
    · next hreferences =>
      refine ⟨?_, rfl⟩
      simp only [Table.get?_erase]
      rw [if_neg]
      · exact h.table
      · intro heq
        have htable := h.table
        rw [heq, hnumber] at htable
        obtain rfl := Option.some.inj htable
        rw [Mutex.references, Nat.add_eq_zero_iff] at hreferences
        rcases h.present with hholder | hqueue
        · simp [hholder] at hreferences
        · rw [List.eq_nil_of_length_eq_zero hreferences.2] at hqueue
          contradiction
    · exact ⟨h.table, rfl⟩
  · exact ⟨h.table, rfl⟩

/-- Who holds a lock and lets go of it drives out nobody else. -/
theorem release_spec {l : Locks} {g : Guard} {caller : Nat} (hbounded : l.Bounded)
    (h : l.HeldBy g caller) :
    (l.release g.id g.number).Bounded ∧
      (∀ g' other, other ≠ caller → l.ReferredBy g' other →
        (l.release g.id g.number).ReferredBy g' other) ∧
      ∀ g' other, other ≠ caller → l.HeldBy g' other →
        (l.release g.id g.number).HeldBy g' other := by
  refine ⟨bounded_sweep (bounded_modify hbounded _ _) _, ?_, ?_⟩
  · intro g' other hne h'
    have hpassed := pass_referredBy h.holder hne h'
    obtain ⟨htable, hmutex⟩ := sweep_table hpassed g.id
    refine ⟨htable, ?_⟩
    rw [release, hmutex]
    exact hpassed.present
  · intro g' other hne h'
    have hpassed := pass_heldBy h.holder hne h'
    obtain ⟨htable, hmutex⟩ := sweep_table hpassed.referredBy g.id
    refine ⟨htable, ?_⟩
    rw [release, hmutex]
    exact hpassed.holder

@[simp] theorem table_abandon (l : Locks) (number caller : Nat) :
    (l.abandon number caller).table = l.table := by
  unfold abandon
  split <;> rfl

/-- Who gives up drives out nobody else. -/
theorem abandon_spec {l : Locks} (caller number : Nat) (hbounded : l.Bounded) :
    (l.abandon number caller).Bounded ∧
      (∀ g other, other ≠ caller → l.ReferredBy g other →
        (l.abandon number caller).ReferredBy g other) ∧
      ∀ g other, other ≠ caller → l.HeldBy g other →
        (l.abandon number caller).HeldBy g other := by
  unfold abandon
  split
  · next hholds =>
    have hholder : (l.mutex number).holder = some caller := by simpa [holds] using hholds
    exact ⟨bounded_modify hbounded _ _, fun g other hne h => pass_referredBy hholder hne h,
      fun g other hne h => pass_heldBy hholder hne h⟩
  · refine ⟨bounded_modify hbounded _ _, ?_, ?_⟩
    · intro g other hne h
      refine h.modify number _ fun hn => ?_
      rw [hn]
      rcases h.present with hholder | hqueue
      · exact .inl hholder
      · exact .inr (List.mem_filter.mpr ⟨hqueue, by simpa using hne⟩)
    · intro g other hne h
      refine h.modify number _ fun hn => ?_
      rw [hn]
      exact h.holder

end ConfigRegistry.Service.Locks
