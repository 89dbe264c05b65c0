import ConfigRegistry.Proofs.Service.Contention

/-!
What callers leave in the table. A caller that worked looks into the table when it leaves, and takes
the mutex out if nobody refers to it; a caller that is given up before it worked does not look. So
once nobody is busy with an identifier any more, its mutex is still in the table exactly if the last
caller to leave was of the second kind.
-/
namespace ConfigRegistry.Service

def Act.leaves? : Act → Option String
  | .clears _ id => some id
  | .forgets _ g => some g.id
  | _ => none

def lastLeaving (log : List Act) (id : String) : Option Act :=
  (log.filter fun act => act.leaves? == some id).getLast?

theorem lastLeaving_append (log : List Act) (act : Act) (id : String) :
    lastLeaving (log ++ [act]) id =
      if act.leaves? = some id then some act else lastLeaving log id := by
  by_cases h : act.leaves? = some id <;> simp [lastLeaving, List.filter_append, h]

theorem Stance.id?_of_refers? {stance : Stance} {g : Guard} (h : stance.refers? = some g) :
    stance.id? = some g.id := by
  cases stance with
  | outside => contradiction
  | clearing id => contradiction
  | _ => exact congrArg (Option.map Guard.id) h

namespace Contention

/-- No caller is busy with an identifier: none has looked its mutex up, waits or works, and all that
left have done all there is to do. -/
def Deserted (c : Contention) (id : String) : Prop :=
  ∀ caller stance, c.At caller stance → stance.id? ≠ some id

variable {c : Contention} {locks : Locks} {caller : Nat} {stance new : Stance} {g : Guard}
  {id : String} {log : List Act}

theorem deserted_iff : c.Deserted id ↔ ∀ stance ∈ c.stances, stance.id? ≠ some id := by
  constructor
  · intro h stance hmem
    obtain ⟨caller, hat⟩ := List.mem_iff_getElem?.mp hmem
    exact h caller stance hat
  · intro h caller stance hat
    exact h stance (List.mem_of_getElem? hat)

instance (c : Contention) (id : String) : Decidable (c.Deserted id) :=
  decidable_of_iff _ deserted_iff.symm

theorem Deserted.of_moved (h : (c.moved locks caller new).Deserted id) (hat : c.At caller stance)
    (hstance : stance.id? ≠ some id) : c.Deserted id := by
  intro other stance' hother
  by_cases heq : other = caller
  · subst heq
    obtain rfl := Option.some.inj (hat.symm.trans hother)
    exact hstance
  · exact h other stance' ((at_moved hat).mpr (by rwa [if_neg heq]))

theorem Deserted.of_new (h : (c.moved locks caller new).Deserted id) (hat : c.At caller stance) :
    new.id? ≠ some id :=
  h caller new ((at_moved hat).mpr (by rw [if_pos rfl]))

theorem table_swept_of_ne {other : String} (c : Contention) (hne : id ≠ other) :
    (c.swept other).table.get? id = c.locks.table.get? id := by
  rcases c.swept_cases other with ⟨h, _⟩ | ⟨_, _, _, h⟩
  · rw [h]
  · rw [h, Table.get?_erase, if_neg hne]

/-- An act that leaves an identifier deserted, and by which no caller was done with it, found it
deserted and did not touch it in the table. -/
theorem Deserted.of_next {act : Act} (h : (c.next act).Deserted id) (henabled : c.Enabled act)
    (hleaves : act.leaves? ≠ some id) :
    c.Deserted id ∧ (c.next act).locks.table.get? id = c.locks.table.get? id := by
  cases act with
  | comes => exact ⟨fun other stance hat => h other stance (at_comes.mpr (.inl hat)), rfl⟩
  | finds caller other =>
    cases hrefer : c.locks.refer other with
    | mk number locks =>
      simp only [next, hrefer] at h ⊢
      have hne : id ≠ other := fun heq => h.of_new henabled (congrArg some heq.symm)
      exact ⟨h.of_moved henabled (by simp [Stance.id?]), Locks.refer_table_of_ne hrefer hne⟩
  | enters caller g =>
    have hne : some g.id ≠ some id := by
      have hnew := h.of_new henabled
      split at hnew
      · exact hnew
      · exact hnew
    exact ⟨h.of_moved henabled hne, rfl⟩
  | takes caller g => exact ⟨h.of_moved henabled.1 (h.of_new henabled.1), rfl⟩
  | passes caller g => exact ⟨h.of_moved henabled (h.of_new henabled), rfl⟩
  | drops caller g => exact ⟨h.of_moved henabled (h.of_new henabled), rfl⟩
  | clears caller other =>
    have hne : id ≠ other := fun heq => hleaves (congrArg some heq.symm)
    exact ⟨h.of_moved henabled hleaves, table_swept_of_ne c hne⟩
  | quits caller g =>
    refine ⟨h.of_moved henabled (h.of_new henabled), ?_⟩
    show (c.locks.abandon g.number caller).table.get? id = _
    rw [Locks.table_abandon]
  | forgets caller g =>
    refine ⟨?_, rfl⟩
    rcases henabled with hat | hat
    · exact h.of_moved hat hleaves
    · exact h.of_moved hat hleaves

/-- A caller that looks into the table as the last to leave takes the mutex out. -/
theorem Sound.table_clears (hc : c.Sound) (hat : c.At caller (.clearing id))
    (h : (c.next (.clears caller id)).Deserted id) : (c.swept id).table.get? id = none := by
  have hnobody : ∀ number, c.locks.table.get? id = some number → c.references number = 0 := by
    intro number hnumber
    refine references_eq_zero_iff.mpr fun other stance g hother hg heq => ?_
    by_cases ho : other = caller
    · subst ho
      obtain rfl := Option.some.inj (hat.symm.trans hother)
      contradiction
    · have hbusy := h other stance ((at_moved hat).mpr (by rwa [if_neg ho]))
      have htable := (hc.placed other stance hother).table hg
      rw [heq] at htable
      rw [Stance.id?_of_refers? hg, hc.distinct _ _ _ htable hnumber] at hbusy
      contradiction
  rcases c.swept_cases id with ⟨hsame, hsomebody⟩ | ⟨_, _, _, hswept⟩
  · rw [hsame]
    cases htable : c.locks.table.get? id with
    | none => rfl
    | some number => exact absurd (hnobody number htable) (hsomebody number htable)
  · simp [hswept]

/-- Who drops a reference without a look into the table leaves the mutex there. -/
theorem Sound.table_forgets (hc : c.Sound) (h : c.Enabled (.forgets caller g)) :
    c.locks.table.get? g.id = some g.number := by
  rcases h with hat | hat
  · exact (hc.placed caller _ hat).table rfl
  · exact (hc.placed caller _ hat).table rfl

/-- Once no caller is busy with an identifier, the table still has a mutex for it exactly if the
last caller that was done with it was given up before it worked. -/
theorem entry_left_iff (h : Runs log c) (hdeserted : c.Deserted id) :
    (∃ number, c.locks.table.get? id = some number) ↔
      ∃ caller g, lastLeaving log id = some (.forgets caller g) := by
  induction h with
  | start => simp [start, Locks.empty, lastLeaving]
  | @step log c h act henabled ih =>
    rw [lastLeaving_append]
    by_cases hleaves : act.leaves? = some id
    · rw [if_pos hleaves]
      cases act with
      | clears caller other =>
        obtain rfl : other = id := Option.some.inj hleaves
        have hnone : (c.next (.clears caller other)).locks.table.get? other = none :=
          h.sound.table_clears henabled hdeserted
        simp [hnone]
      | forgets caller g =>
        obtain rfl : g.id = id := Option.some.inj hleaves
        exact iff_of_true ⟨_, h.sound.table_forgets henabled⟩ ⟨caller, g, rfl⟩
      | _ => contradiction
    · obtain ⟨hbefore, htable⟩ := hdeserted.of_next henabled hleaves
      rw [if_neg hleaves, htable]
      exact ih hbefore

/-- The first caller works, and the second queues behind it and is given up. By then the first has
passed the mutex on to it and looked into the table. -/
def desertion : List Act :=
  let g : Guard := ⟨"cv-a", 0⟩
  [.comes, .comes, .finds 0 "cv-a", .enters 0 g, .finds 1 "cv-a", .enters 1 g, .passes 0 g,
    .drops 0 g, .clears 0 "cv-a", .quits 1 g, .forgets 1 g]

theorem desertion_leaves :
    let c := desertion.foldl next start
    Runs desertion c ∧ c.Deserted "cv-a" ∧
      ((∃ number, c.locks.table.get? "cv-a" = some number) ↔
        ∃ caller g, lastLeaving desertion "cv-a" = some (.forgets caller g)) := by
  have hruns : Runs ([] ++ desertion) (desertion.foldl next start) := Runs.start.append (by decide)
  have hdeserted : (desertion.foldl next start).Deserted "cv-a" := by decide
  exact ⟨hruns, hdeserted, entry_left_iff hruns hdeserted⟩

end Contention

end ConfigRegistry.Service
