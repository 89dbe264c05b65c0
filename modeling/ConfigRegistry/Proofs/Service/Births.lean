import ConfigRegistry.Proofs.Service.Effects

/-!
Every version is created once. As long as a call is about to create a version there is no trace of
it, since no other call drew its identifier; and once the call has gone on, none will create it.
-/
namespace ConfigRegistry.Service.System

/-- All calls do what their callers asked for, on sane records and archives. -/
structure Orderly (maxSize : Nat) (s : System) : Prop where
  sane : s.world.Sane
  serves : ∀ caller call stage, s.At caller call stage → stage.Serves maxSize call

/-- A version has left a trace in a run. -/
inductive Traced (s : System) (id : String) : Prop
  | record (h : s.world.versions.get? id ≠ none)
  | settled {e : Entry} (he : e ∈ s.history) (h : e.settles id = true)
  | storing {caller : Nat} {call : Call} {stage : Stage} (h : s.At caller call stage)
      (hid : stage.stored? = some id)
  | clearing {caller : Nat} {call : Call} {stage : Stage} (h : s.At caller call stage)
      (hid : stage.Clears id)

def Drew (s : System) (caller : Nat) (suffix : String) : Prop :=
  ∃ task, s.tasks[caller]? = some task ∧ task.call.drawn? = some suffix

/-- The call that drew an identifier has gone on from its creation. -/
def Born (s : System) (id : String) : Prop :=
  ∃ caller suffix, s.Drew caller suffix ∧ ResourceId.make Version.idKind suffix = id ∧
    ∀ call v, ¬ s.At caller call (.createRecord v)

structure Births (s : System) : Prop where
  unique : ∀ caller other suffix, s.Drew caller suffix → s.Drew other suffix → caller = other
  born : ∀ id, s.Traced id → s.Born id

variable {s s' : System} {maxSize : Nat} {id : String}

theorem slash_not_mem_mark {c : Circumstance} (h : ∃ u : Uuid, c.mark = u.render) :
    '/' ∉ c.mark.toList := by
  obtain ⟨u, hu⟩ := h
  exact hu ▸ Blob.slash_not_mem_render u

/-! All runs are orderly. -/

theorem orderly_start {blobs : Blob.Store} (h : blobs.Opened) :
    (start blobs).Orderly maxSize where
  sane := ⟨Versions.keyed_empty, h.sound⟩
  serves caller call stage h := by simp [start, At] at h

/-- Order among the callers is kept by every change of a system. -/
theorem Orderly.changes (hs : s.Orderly maxSize) (h : s.Changes maxSize s') :
    s'.Orderly maxSize := by
  cases h with
  | begins call _ =>
    refine ⟨hs.sane, fun caller call' stage hat => ?_⟩
    rcases at_begun.mp hat with hat | ⟨_, rfl, rfl⟩
    · exact hs.serves caller call' stage hat
    · exact (opening_opens maxSize _).serves
  | advances c h hmark =>
    next call stage =>
    have hmoves := step_moves s.world c stage
    have hserves := hs.serves _ _ _ h
    refine ⟨hmoves.sane hs.sane hserves (slash_not_mem_mark hmark), ?_⟩
    intro caller call' stage' hat
    have hat := (at_advanced h).mp hat
    split at hat
    · obtain ⟨rfl, rfl⟩ := hat
      exact hmoves.serves hs.sane hserves
    · exact hs.serves caller call' stage' hat
  | abandons h =>
    refine ⟨abandon_sane hs.sane _ _, fun caller call' stage' hat => ?_⟩
    exact hs.serves caller call' stage' ((at_abandoned h).mp hat).2

/-! Who drew what. -/

/-- A suffix was drawn before, or is drawn by the call that begins. -/
theorem drew_begun {call : Call} {caller : Nat} {suffix : String} :
    (s.begun maxSize call).Drew caller suffix ↔
      s.Drew caller suffix ∨ caller = s.tasks.length ∧ call.drawn? = some suffix := by
  unfold Drew begun
  rcases Nat.lt_trichotomy caller s.tasks.length with hlt | rfl | hgt
  · have hne : caller ≠ s.tasks.length := by omega
    simp [List.getElem?_append_left hlt, hne]
  · simp
  · have hnone : s.tasks[caller]? = none := List.getElem?_eq_none (by omega)
    have hnone' : (s.tasks ++ [⟨call, some (call.opening maxSize).1⟩])[caller]? = none :=
      List.getElem?_eq_none (by simp; omega)
    have hne : caller ≠ s.tasks.length := by omega
    simp [hnone, hnone', hne]

theorem drew_set {tasks : List Task} {world : World} {history : List Entry} {caller other : Nat}
    {call : Call} {stage : Option Stage} {stage' : Stage} {suffix : String}
    (htasks : tasks = s.tasks.set caller ⟨call, stage⟩) (h : s.At caller call stage') :
    (System.mk world tasks history).Drew other suffix ↔ s.Drew other suffix := by
  subst htasks
  unfold Drew
  by_cases ho : other = caller
  · subst ho
    obtain ⟨hlt, hget⟩ := List.getElem?_eq_some_iff.mp h
    simp [hlt, hget]
  · simp [List.getElem?_set_ne (Ne.symm ho)]

theorem Drew.lt {caller : Nat} {suffix : String} (h : s.Drew caller suffix) :
    caller < s.tasks.length := by
  obtain ⟨task, htask, _⟩ := h
  exact (List.getElem?_eq_some_iff.mp htask).1

/-! A version that was created stays so. -/

theorem Born.begun (h : s.Born id) (call : Call) : (s.begun maxSize call).Born id := by
  obtain ⟨caller, suffix, hdrew, hid, hgone⟩ := h
  refine ⟨caller, suffix, drew_begun.mpr (.inl hdrew), hid, fun call' v hat => ?_⟩
  rcases at_begun.mp hat with hat | ⟨heq, _, _⟩
  · exact hgone call' v hat
  · exact absurd hdrew.lt (by omega)

theorem Born.advanced {c : Circumstance} {call : Call} {stage : Stage} (h : s.Born id)
    (hat : s.At c.caller call stage) : (s.advanced c call stage).Born id := by
  obtain ⟨caller, suffix, hdrew, hid, hgone⟩ := h
  refine ⟨caller, suffix, (drew_set rfl hat).mpr hdrew, hid, fun call' v hat' => ?_⟩
  have hat' := (at_advanced hat).mp hat'
  split at hat'
  · exact (step_moves s.world c stage).not_createRecord v hat'.2.symm
  · exact hgone call' v hat'

theorem Born.abandoned {caller : Nat} {call : Call} {stage : Stage} (h : s.Born id)
    (hat : s.At caller call stage) : (s.abandoned caller call stage).Born id := by
  obtain ⟨other, suffix, hdrew, hid, hgone⟩ := h
  exact ⟨other, suffix, (drew_set rfl hat).mpr hdrew, hid,
    fun call' v hat' => hgone call' v ((at_abandoned hat).mp hat').2⟩

theorem Born.changes (hid : s.Born id) (h : s.Changes maxSize s') : s'.Born id := by
  cases h with
  | begins call _ => exact hid.begun call
  | advances _ h _ => exact hid.advanced h
  | abandons h => exact hid.abandoned h

/-! Births. -/

theorem births_start (blobs : Blob.Store) : (start blobs).Births where
  unique caller other suffix h := by
    obtain ⟨task, h, _⟩ := h
    simp [start] at h
  born id h := by
    cases h with
    | record h => simp [start] at h
    | settled he _ => simp [start] at he
    | storing h _ => simp [start, At] at h
    | clearing h _ => simp [start, At] at h

theorem Opens.traceless {call : Call} {stage : Stage} (h : Opens maxSize call stage)
    (id : String) : stage.stored? = none ∧ ¬ stage.Clears id := by
  cases h with
  | _ => exact ⟨rfl, fun ⟨_, h, _⟩ => by contradiction⟩

/-- A call may begin when it draws no suffix that was drawn before. -/
theorem Births.begun (hs : s.Births) {call : Call}
    (hfresh : ∀ suffix, call.drawn? = some suffix → ∀ t ∈ s.tasks, t.call.drawn? ≠ some suffix) :
    (s.begun maxSize call).Births := by
  have hnew : ∀ caller suffix, s.Drew caller suffix → call.drawn? ≠ some suffix := by
    rintro caller suffix ⟨task, htask, hdrawn⟩ hcall
    exact hfresh suffix hcall task (List.mem_of_getElem? htask) hdrawn
  refine ⟨?_, ?_⟩
  · intro caller other suffix h h'
    rcases drew_begun.mp h with hold | ⟨rfl, hcall⟩
    · rcases drew_begun.mp h' with hold' | ⟨rfl, hcall⟩
      · exact hs.unique caller other suffix hold hold'
      · exact absurd hcall (hnew caller suffix hold)
    · rcases drew_begun.mp h' with hold' | ⟨rfl, _⟩
      · exact absurd hcall (hnew other suffix hold')
      · rfl
  · intro id h
    have hopens := opening_opens maxSize call
    have hold : s.Traced id := by
      cases h with
      | record h => exact .record h
      | settled he h => exact .settled he h
      | storing h hid =>
        rcases at_begun.mp h with h | ⟨_, _, rfl⟩
        · exact .storing h hid
        · rw [(Opens.traceless hopens id).1] at hid
          contradiction
      | clearing h hid =>
        rcases at_begun.mp h with h | ⟨_, _, rfl⟩
        · exact .clearing h hid
        · exact absurd hid (Opens.traceless hopens id).2
    exact (hs.born id hold).begun call

/-- A step leaves a first trace of a version only by creating it. -/
theorem traced_advanced {c : Circumstance} {call : Call} {stage : Stage}
    (hs : s.Orderly maxSize) (h : s.At c.caller call stage)
    (ht : (s.advanced c call stage).Traced id) :
    s.Traced id ∨ ∃ v, stage = .createRecord v ∧ v.id = id := by
  have hmoves := step_moves s.world c stage
  cases ht with
  | record hrecord =>
    have hchange := hmoves.record id
    cases hold : s.world.versions.get? id with
    | some v => exact .inl (.record (by simp [hold]))
    | none =>
      rw [hold] at hchange
      have hrecord : (step s.world c stage).world.versions.get? id ≠ none := hrecord
      cases hnew : (step s.world c stage).world.versions.get? id with
      | none => exact absurd hnew hrecord
      | some v =>
        rw [hnew] at hchange
        cases hchange with
        | created hstage hid => exact .inr ⟨v, hstage, hid⟩
  | settled he hsettles =>
    rcases List.mem_append.mp he with he | he
    · exact .inl (.settled he hsettles)
    · obtain rfl := List.mem_singleton.mp he
      refine .inl (.record fun hnone => ?_)
      simp [Entry.settles, entry, hnone] at hsettles
  | storing hat hid =>
    have hat := (at_advanced h).mp hat
    split at hat
    · obtain ⟨_, rfl⟩ := hat
      rcases hmoves.stored_of_stored hs.sane hid with hid | ⟨_, v, hv, _⟩
      · exact .inl (.storing h hid)
      · exact .inl (.record (by simp [hv]))
    · exact .inl (.storing hat hid)
  | clearing hat hid =>
    have hat := (at_advanced h).mp hat
    split at hat
    · obtain ⟨_, rfl⟩ := hat
      exact .inl (.record (hmoves.erased_of_clears hid).1)
    · exact .inl (.clearing hat hid)

theorem Births.advanced {c : Circumstance} {call : Call} {stage : Stage} (hs : s.Births)
    (ho : s.Orderly maxSize) (h : s.At c.caller call stage) :
    (s.advanced c call stage).Births := by
  have hdrew : ∀ caller suffix,
      (s.advanced c call stage).Drew caller suffix ↔ s.Drew caller suffix :=
    fun caller suffix => drew_set rfl h
  refine ⟨fun caller other suffix h h' =>
    hs.unique caller other suffix ((hdrew caller suffix).mp h) ((hdrew other suffix).mp h'), ?_⟩
  intro id ht
  rcases traced_advanced ho h ht with hold | ⟨v, rfl, rfl⟩
  · exact (hs.born id hold).advanced h
  · obtain ⟨_, suffix, _, _, _, rfl, rfl⟩ := ho.serves _ _ _ h
    refine ⟨c.caller, suffix, (hdrew _ _).mpr ⟨_, h, rfl⟩, rfl, fun call' v hat => ?_⟩
    have hat := (at_advanced h).mp hat
    rw [if_pos rfl] at hat
    exact (step_moves s.world c _).not_createRecord v hat.2.symm

theorem Births.abandoned {caller : Nat} {call : Call} {stage : Stage} (hs : s.Births)
    (h : s.At caller call stage) : (s.abandoned caller call stage).Births := by
  have hdrew : ∀ other suffix,
      (s.abandoned caller call stage).Drew other suffix ↔ s.Drew other suffix :=
    fun other suffix => drew_set rfl h
  obtain ⟨hversions, _⟩ := abandon_same s.world caller stage
  refine ⟨fun caller' other suffix h h' =>
    hs.unique caller' other suffix ((hdrew caller' suffix).mp h) ((hdrew other suffix).mp h'), ?_⟩
  intro id ht
  have hold : s.Traced id := by
    cases ht with
    | record hrecord => exact .record (hversions ▸ hrecord)
    | settled he hsettles => exact .settled he hsettles
    | storing hat hid => exact .storing ((at_abandoned h).mp hat).2 hid
    | clearing hat hid => exact .clearing ((at_abandoned h).mp hat).2 hid
  exact (hs.born id hold).abandoned h

theorem Births.changes (hs : s.Births) (ho : s.Orderly maxSize) (h : s.Changes maxSize s') :
    s'.Births := by
  cases h with
  | begins call hfresh => exact hs.begun hfresh
  | advances c h _ => exact hs.advanced ho h
  | abandons h => exact hs.abandoned h

/-- A version that is about to be created has not been created before. -/
theorem Births.unborn (hs : s.Births) (ho : s.Orderly maxSize) {caller : Nat} {call : Call}
    {v : Version} (h : s.At caller call (.createRecord v)) : ¬ s.Born v.id := by
  rintro ⟨other, suffix, hdrew, hid, hgone⟩
  obtain ⟨_, suffix', _, _, _, rfl, rfl⟩ := ho.serves _ _ _ h
  have hsuffix : suffix = suffix' := by
    simpa [Version.create, ResourceId.make, ← String.toList_inj] using hid
  subst hsuffix
  obtain rfl := hs.unique other caller suffix hdrew ⟨_, h, rfl⟩
  exact hgone _ _ h

/-- A version that is about to be created has left no trace yet. -/
theorem Births.untraced (hs : s.Births) (ho : s.Orderly maxSize) {caller : Nat} {call : Call}
    {v : Version} (h : s.At caller call (.createRecord v)) : ¬ s.Traced v.id :=
  fun ht => hs.unborn ho h (hs.born v.id ht)

end ConfigRegistry.Service.System
