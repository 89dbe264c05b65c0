import ConfigRegistry.Proofs.Service.Locks
import ConfigRegistry.Service.Contention

/-!
Locks under contention exclude each other. Every caller that refers to a mutex found it in the
table, and the table keeps it as long as a caller refers to it. So whatever the order in which
callers act, all callers of one identifier refer to one mutex, and one of them at most works.
-/
namespace ConfigRegistry.Service

/-- A caller stands where the locks have it: the table has the mutex that it refers to, and it is
the holder of the mutex or in the queue if it works or waits. -/
def Stance.Placed (l : Locks) (caller : Nat) : Stance → Prop
  | .outside | .clearing _ => True
  | .found g | .leaving g | .quitting g => l.table.get? g.id = some g.number
  | .waiting g => l.ReferredBy g caller
  | .holding g => l.HeldBy g caller

/-- Other locks still have what they had of a mutex and of a caller at it. -/
structure Locks.Keeps (l l' : Locks) (g : Guard) (caller : Nat) : Prop where
  table : l.table.get? g.id = some g.number → l'.table.get? g.id = some g.number
  referred : l.ReferredBy g caller → l'.ReferredBy g caller
  held : l.HeldBy g caller → l'.HeldBy g caller

theorem Locks.Keeps.refl (l : Locks) (g : Guard) (caller : Nat) : l.Keeps l g caller :=
  ⟨fun h => h, fun h => h, fun h => h⟩

theorem Stance.Placed.table {stance : Stance} {l : Locks} {caller : Nat} {g : Guard}
    (h : stance.Placed l caller) (hg : stance.refers? = some g) :
    l.table.get? g.id = some g.number := by
  cases stance with
  | outside => contradiction
  | clearing id => contradiction
  | waiting g' => exact Option.some.inj hg ▸ Locks.ReferredBy.table h
  | holding g' => exact Option.some.inj hg ▸ Locks.HeldBy.table h
  | _ => exact Option.some.inj hg ▸ h

theorem Stance.Placed.kept {stance : Stance} {l l' : Locks} {caller : Nat}
    (h : stance.Placed l caller) (hkeeps : ∀ g, stance.refers? = some g → l.Keeps l' g caller) :
    stance.Placed l' caller := by
  cases stance with
  | outside => trivial
  | clearing id => trivial
  | found g => exact (hkeeps g rfl).table h
  | leaving g => exact (hkeeps g rfl).table h
  | quitting g => exact (hkeeps g rfl).table h
  | waiting g => exact (hkeeps g rfl).referred h
  | holding g => exact (hkeeps g rfl).held h

namespace Contention

variable {c : Contention} {locks : Locks} {caller other : Nat} {stance stance' new : Stance}
  {g : Guard} {id : String} {number : Nat} {log : List Act}

theorem at_moved (h : c.At caller stance) :
    (c.moved locks caller new).At other stance' ↔
      if other = caller then stance' = new else c.At other stance' := by
  have hlt : caller < c.stances.length := (List.getElem?_eq_some_iff.mp h).1
  unfold At moved
  grind

theorem at_comes :
    (c.next .comes).At other stance' ↔
      c.At other stance' ∨ other = c.stances.length ∧ stance' = .outside := by
  unfold At next
  grind

/-- Nobody refers to a mutex exactly if no stance does. -/
theorem references_eq_zero_iff :
    c.references number = 0 ↔
      ∀ caller stance g, c.At caller stance → stance.refers? = some g → g.number ≠ number := by
  rw [references, List.countP_eq_zero]
  constructor
  · intro h caller stance g hat hg heq
    exact h stance (List.mem_of_getElem? hat) (by simp [hg, heq])
  · intro h stance hmem hrefers
    obtain ⟨caller, hat⟩ := List.mem_iff_getElem?.mp hmem
    cases hg : stance.refers? with
    | none => simp [hg] at hrefers
    | some g => exact h caller stance g hat hg (by simpa [hg] using hrefers)

/-! The locks after a caller swept them. -/

/-- A sweep takes the entry of an identifier out of the table exactly if nobody refers to its
mutex. -/
theorem swept_cases (c : Contention) (id : String) :
    (c.swept id = c.locks ∧
      ∀ number, c.locks.table.get? id = some number → c.references number ≠ 0) ∨
    ∃ number, c.locks.table.get? id = some number ∧ c.references number = 0 ∧
      c.swept id = ⟨c.locks.table.erase id, c.locks.mutexes⟩ := by
  unfold swept
  cases htable : c.locks.table.get? id with
  | none => exact .inl ⟨rfl, fun _ h => by contradiction⟩
  | some number =>
    by_cases hnobody : c.references number = 0
    · exact .inr ⟨number, rfl, hnobody, if_pos hnobody⟩
    · exact .inl ⟨if_neg hnobody, fun n h => Option.some.inj h ▸ hnobody⟩

@[simp] theorem mutex_swept (c : Contention) (id : String) (number : Nat) :
    (c.swept id).mutex number = c.locks.mutex number := by
  rcases c.swept_cases id with ⟨h, _⟩ | ⟨_, _, _, h⟩
  · rw [h]
  · rw [h]
    rfl

theorem bounded_swept (hbounded : c.locks.Bounded) (id : String) : (c.swept id).Bounded := by
  rcases c.swept_cases id with ⟨h, _⟩ | ⟨_, _, _, h⟩
  · rwa [h]
  · rw [h]
    exact Locks.bounded_erase hbounded id

theorem distinct_swept (hdistinct : c.locks.Distinct) (id : String) : (c.swept id).Distinct := by
  rcases c.swept_cases id with ⟨h, _⟩ | ⟨_, _, _, h⟩
  · rwa [h]
  · rw [h]
    exact Locks.distinct_erase hdistinct id

/-- A sweep leaves a mutex in the table that a caller refers to. -/
theorem table_swept (hat : c.At caller stance) (hg : stance.refers? = some g)
    (htable : c.locks.table.get? g.id = some g.number) (id : String) :
    (c.swept id).table.get? g.id = some g.number := by
  rcases c.swept_cases id with ⟨h, _⟩ | ⟨number, hnumber, hnobody, h⟩
  · rwa [h]
  · have hne : g.id ≠ id := by
      rintro rfl
      rw [htable] at hnumber
      exact references_eq_zero_iff.mp hnobody caller stance g hat hg (Option.some.inj hnumber)
    rw [h, Table.get?_erase, if_neg hne, htable]

theorem keeps_swept (hat : c.At caller stance) (hg : stance.refers? = some g) (id : String) :
    c.locks.Keeps (c.swept id) g caller where
  table htable := table_swept hat hg htable id
  referred h := ⟨table_swept hat hg h.table id, by
    rw [mutex_swept]
    exact h.present⟩
  held h := ⟨table_swept hat hg h.table id, by
    rw [mutex_swept]
    exact h.holder⟩

/-! What every act leaves as it is. -/

structure Sound (c : Contention) : Prop where
  bounded : c.locks.Bounded
  distinct : c.locks.Distinct
  placed : ∀ caller stance, c.At caller stance → stance.Placed c.locks caller

theorem sound_start : start.Sound where
  bounded id number h := by simp [start, Locks.empty] at h
  distinct id other number h := by simp [start, Locks.empty] at h
  placed caller stance h := by simp [start, At] at h

theorem Sound.comes (hc : c.Sound) : (c.next .comes).Sound where
  bounded := hc.bounded
  distinct := hc.distinct
  placed caller stance h := by
    rcases at_comes.mp h with hat | ⟨_, rfl⟩
    · exact hc.placed caller stance hat
    · trivial

/-- A change to the locks that keeps what all callers but one have, and one caller who then stands
where the locks have it. -/
theorem Sound.moved (hc : c.Sound) (hat : c.At caller stance) (hbounded : locks.Bounded)
    (hdistinct : locks.Distinct)
    (hkeeps : ∀ other stance g, other ≠ caller → c.At other stance → stance.refers? = some g →
      c.locks.Keeps locks g other)
    (hself : new.Placed locks caller) : (c.moved locks caller new).Sound where
  bounded := hbounded
  distinct := hdistinct
  placed other stance' h := by
    have hother := (at_moved hat).mp h
    split at hother
    · next heq =>
      rw [heq, hother]
      exact hself
    · next hne =>
      exact (hc.placed other stance' hother).kept fun g hg => hkeeps other stance' g hne hother hg

/-- A caller that moves on without a change to the locks. -/
theorem Sound.moved_self (hc : c.Sound) (hat : c.At caller stance)
    (hself : new.Placed c.locks caller) : (c.moved c.locks caller new).Sound :=
  hc.moved hat hc.bounded hc.distinct (fun _ _ _ _ _ _ => .refl _ _ _) hself

theorem Sound.finds (hc : c.Sound) (hat : c.At caller .outside) (id : String) :
    (c.next (.finds caller id)).Sound := by
  cases hrefer : c.locks.refer id with
  | mk number locks =>
    obtain ⟨hbounded, htable, hreferred, hheld⟩ := Locks.refer_spec hc.bounded hrefer
    simp only [next, hrefer]
    exact hc.moved hat hbounded (Locks.distinct_refer hc.bounded hc.distinct hrefer)
      (fun other _ g _ _ _ => ⟨Locks.refer_table hrefer, hreferred g other, hheld g other⟩) htable

theorem Sound.enters (hc : c.Sound) (hat : c.At caller (.found g)) :
    (c.next (.enters caller g)).Sound := by
  have htable : c.locks.table.get? g.id = some g.number := hc.placed caller _ hat
  have hreferred := Locks.referredBy_enter hc.bounded htable caller
  refine hc.moved hat (Locks.bounded_modify hc.bounded g.number _)
    hc.distinct (fun other _ g' _ _ _ => ⟨fun h => h, fun h => h.enter g.number caller,
      fun h => h.enter g.number caller⟩) ?_
  split
  · next hholds => exact hreferred.heldBy hholds
  · exact hreferred

theorem Sound.takes (hc : c.Sound) (hat : c.At caller (.waiting g))
    (hholds : c.locks.holds g.number caller = true) : (c.next (.takes caller g)).Sound :=
  hc.moved_self hat ((hc.placed caller _ hat : c.locks.ReferredBy g caller).heldBy hholds)

theorem Sound.passes (hc : c.Sound) (hat : c.At caller (.holding g)) :
    (c.next (.passes caller g)).Sound := by
  have hheld : c.locks.HeldBy g caller := hc.placed caller _ hat
  exact hc.moved hat (Locks.bounded_modify hc.bounded g.number _) hc.distinct
    (fun other _ g' hne _ _ => ⟨fun h => h, Locks.pass_referredBy hheld.holder hne,
      Locks.pass_heldBy hheld.holder hne⟩) hheld.table

theorem Sound.clears (hc : c.Sound) (hat : c.At caller (.clearing id)) :
    (c.next (.clears caller id)).Sound :=
  hc.moved hat (bounded_swept hc.bounded id) (distinct_swept hc.distinct id)
    (fun _ _ _ _ hother hg => keeps_swept hother hg id) trivial

/-- A waiter that quits leaves all others standing as the locks have them. -/
theorem Sound.quits (hc : c.Sound) (hat : c.At caller (.waiting g)) :
    (c.next (.quits caller g)).Sound := by
  obtain ⟨hbounded, hreferred, hheld⟩ := Locks.abandon_spec caller g.number hc.bounded
  have hself : c.locks.ReferredBy g caller := hc.placed caller _ hat
  have htable := Locks.table_abandon c.locks g.number caller
  refine hc.moved hat hbounded ?_ (fun other _ g' hne _ _ =>
    ⟨fun h => ?_, hreferred g' other hne, hheld g' other hne⟩) ?_
  · intro id other number h h'
    rw [htable] at h h'
    exact hc.distinct id other number h h'
  · rwa [htable]
  · show (c.locks.abandon g.number caller).table.get? g.id = some g.number
    rw [htable]
    exact hself.table

/-- Callers stand where the locks have them after every act. -/
theorem Sound.next (hc : c.Sound) {act : Act} (h : c.Enabled act) : (c.next act).Sound := by
  cases act with
  | comes => exact hc.comes
  | finds caller id => exact hc.finds h id
  | enters caller g => exact hc.enters h
  | takes caller g => exact hc.takes h.1 h.2
  | passes caller g => exact hc.passes h
  | drops caller g => exact hc.moved_self h trivial
  | clears caller id => exact hc.clears h
  | quits caller g => exact hc.quits h
  | forgets caller g =>
    rcases h with h | h
    · exact hc.moved_self h trivial
    · exact hc.moved_self h trivial

theorem Runs.sound (h : Runs log c) : c.Sound := by
  induction h with
  | start => exact sound_start
  | step _ act henabled ih => exact ih.next henabled

/-- No act takes a mutex out of the table, or puts another in its place, while a caller refers to
it. -/
theorem Sound.table_next (hc : c.Sound) (hat : c.At caller stance) (hg : stance.refers? = some g)
    (act : Act) : (c.next act).locks.table.get? g.id = some g.number := by
  have htable := (hc.placed caller stance hat).table hg
  cases act with
  | finds other id =>
    cases hrefer : c.locks.refer id with
    | mk number locks =>
      simp only [Contention.next, hrefer]
      exact Locks.refer_table hrefer htable
  | clears other id => exact table_swept hat hg htable id
  | quits other g' =>
    show (c.locks.abandon g'.number other).table.get? g.id = some g.number
    rwa [Locks.table_abandon]
  | _ => exact htable

/-- Callers exclude each other at the locks. -/
structure Exclusive (c : Contention) : Prop where
  /-- One caller at most works under the lock of an identifier. -/
  one : ∀ caller other g g', c.At caller (.holding g) → c.At other (.holding g') → g.id = g'.id →
    caller = other ∧ g = g'
  /-- All who refer to a mutex refer to the one that the table has for the identifier, and no act
  of anybody takes that out or puts another in its place. -/
  kept : ∀ caller stance g, c.At caller stance → stance.refers? = some g →
    c.locks.table.get? g.id = some g.number ∧
      ∀ act, c.Enabled act → (c.next act).locks.table.get? g.id = some g.number
  /-- Who works holds the mutex of the table. -/
  held : ∀ caller g, c.At caller (.holding g) → c.locks.HeldBy g caller
  /-- Who waits queues for the mutex of the table or holds it. -/
  awaited : ∀ caller g, c.At caller (.waiting g) → c.locks.ReferredBy g caller

/-- However any number of callers interleave, they exclude each other. -/
theorem Runs.exclusive (h : Runs log c) : c.Exclusive := by
  have hc := h.sound
  refine ⟨?_, ?_, fun caller g hat => hc.placed caller _ hat,
    fun caller g hat => hc.placed caller _ hat⟩
  · intro caller other g g' hat hat' hid
    have hheld : c.locks.HeldBy g caller := hc.placed caller _ hat
    have hheld' : c.locks.HeldBy g' other := hc.placed other _ hat'
    obtain rfl := hheld.unique hheld' hid
    exact ⟨rfl, Stance.holding.inj (Option.some.inj (hat.symm.trans hat'))⟩
  · intro caller stance g hat hg
    exact ⟨(hc.placed caller stance hat).table hg, fun act _ => hc.table_next hat hg act⟩

/-! Acts in a row. -/

def Allows (c : Contention) : List Act → Prop
  | [] => True
  | act :: rest => c.Enabled act ∧ (c.next act).Allows rest

instance decidableAllows : (c : Contention) → (acts : List Act) → Decidable (c.Allows acts)
  | _, [] => inferInstanceAs (Decidable True)
  | c, act :: rest =>
    have := decidableAllows (c.next act) rest
    inferInstanceAs (Decidable (c.Enabled act ∧ (c.next act).Allows rest))

theorem Runs.append (h : Runs log c) {acts : List Act} (hacts : c.Allows acts) :
    Runs (log ++ acts) (acts.foldl next c) := by
  induction acts generalizing log c with
  | nil => simpa using h
  | cons act rest ih =>
    have hrest := ih (h.step act hacts.1) hacts.2
    rwa [List.append_assoc] at hrest

end Contention

end ConfigRegistry.Service
