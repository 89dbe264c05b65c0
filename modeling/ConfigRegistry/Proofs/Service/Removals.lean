import ConfigRegistry.Proofs.Service.Answers
import ConfigRegistry.Proofs.Service.Births
import ConfigRegistry.Proofs.Store.Listings

/-!
A version whose removal was answered is gone for good. Its identifier was drawn before and is never
drawn again, so no record comes to be under it; and without a record no call that begins later ends
with the version, with its archive, or with its removal.
-/
namespace ConfigRegistry

/-- A page holds items of its listing. -/
theorem Page.mem_of_mem_items {α : Type} {all : List α} {o : Options} {a : α}
    (h : a ∈ (ofItems all o).items) : a ∈ all :=
  List.mem_of_mem_drop (List.mem_of_mem_take h)

namespace Service

variable {maxSize : Nat} {w w' : World} {c : Circumstance} {call : Call} {s s' : Stage}
  {answer : Answer} {id : String} {held : String → ByteArray → Prop}

/-! Calls that spare a version. -/

/-- The answer of a call is not about a version: it shows other records, other archives that were
held, or the removal of another version. -/
def Answer.Spares (id : String) (held : String → ByteArray → Prop) (call : Call) : Answer → Prop
  | .version v => v.id ≠ id
  | .page p => ∀ v ∈ p.items, v.id ≠ id
  | .archive data => ∃ s other, call = .download s other ∧ other ≠ id ∧ held other data
  | .deleted => ∃ s other, call = .delete s other ∧ other ≠ id

def Stage.Avoids (id : String) (held : String → ByteArray → Prop) (call : Call) : Stage → Prop
  | .lookUp s .download other => call = .download s other
  | .fetchArchive other key =>
    (∃ s, call = .download s other) ∧ other ≠ id ∧ Blob.keyOf other = .ok key
  | .removeRecord other => other ≠ id
  | .removeArchive _ => ∃ s other, call = .delete s other ∧ other ≠ id
  | .storeArchive _ other _ _ => other ≠ id
  | .markUploaded _ other => other ≠ id
  | .done (.ok answer) => answer.Spares id held call
  | _ => True

theorem Stage.Avoids.mono {held' : String → ByteArray → Prop} (h : s.Avoids id held call)
    (hmore : ∀ other data, held other data → held' other data) : s.Avoids id held' call := by
  cases s with
  | lookUp s purpose other => cases purpose <;> exact h
  | done result =>
    cases result with
    | error f => trivial
    | ok answer =>
      cases answer with
      | archive data =>
        obtain ⟨subject, other, hcall, hne, hheld⟩ := h
        exact ⟨subject, other, hcall, hne, hmore other data hheld⟩
      | _ => exact h
  | _ => exact h

theorem Opens.avoids (h : Opens maxSize call s) : s.Avoids id held call := by
  cases h with
  | downloads s id => rfl
  | _ => trivial

/-- Where a version has no record, whatever record is found is another one. -/
theorem World.Sane.found_ne {other : String} {v : Version} (hw : w.Sane)
    (hnone : w.versions.get? id = none) (h : w.versions.get? other = some v) :
    v.id = other ∧ v.id ≠ id := by
  have hkey := hw.keyed other v h
  refine ⟨hkey, fun heq => ?_⟩
  rw [← hkey, heq, hnone] at h
  contradiction

/-- A step that does not end a call well leaves it with nothing of a version without a record. -/
theorem Moves.avoids (h : Moves w c s w' s') (hs : s.Avoids id held call)
    (hserves : s.Serves maxSize call) (hw : w.Sane) (hnone : w.versions.get? id = none)
    (hopen : ∀ answer, s' ≠ .done (.ok answer)) : s'.Avoids id held call := by
  cases h with
  | rests answer =>
    cases answer with
    | error f => trivial
    | ok answer => exact absurd rfl (hopen answer)
  | ends answer _ _ =>
    cases answer with
    | error f => trivial
    | ok answer => exact absurd rfl (hopen answer)
  | creates _ => exact absurd rfl (hopen _)
  | clears _ => exact absurd rfl (hopen _)
  | marks _ => exact absurd rfl (hopen _)
  | fetches h hkey =>
    obtain ⟨rfl, hne⟩ := hw.found_ne hnone h
    exact ⟨⟨_, hs⟩, hne, hkey⟩
  | removes h _ => exact (hw.found_ne hnone h).2
  | erases _ _ =>
    obtain ⟨subject, hcall, _⟩ := hserves
    exact ⟨subject, _, hcall, hs⟩
  | checks h _ _ => exact (hw.found_ne hnone h).2
  | stores _ => exact hs
  | _ => trivial

/-- The answers of a step are about other versions than one without a record. -/
theorem Answers.spares (h : Answers w c s answer) (hs : s.Avoids id held call)
    (hw : w.Sane) (hdistinct : w.versions.Distinct) (hnone : w.versions.get? id = none)
    (hcreate : ∀ v, s = .createRecord v → v.id ≠ id)
    (hheld : ∀ other data, w.blobs.archive? other = some data → held other data) :
    answer.Spares id held call := by
  have hlisted : ∀ workspace, ∀ v ∈ w.versions.listing workspace, v.id ≠ id := by
    intro workspace v hv
    have hfiled : w.versions.Filed := ⟨hw.keyed, hdistinct⟩
    exact (hw.found_ne hnone (hfiled.mem_listing_iff.mp hv).1).2
  cases h with
  | creation v => exact hcreate v rfl
  | listing workspace o => exact fun v hv => hlisted workspace v (Page.mem_of_mem_items hv)
  | newest h => exact hlisted _ _ (List.mem_of_mem_head? h)
  | record h => exact (hw.found_ne hnone h).2
  | archive h =>
    obtain ⟨⟨subject, hcall⟩, hne, hkey⟩ := hs
    refine ⟨subject, _, hcall, hne, hheld _ _ ?_⟩
    simp only [Blob.Store.archive?, hkey, h]
    rfl
  | removal key => exact hs
  | upload h =>
    obtain ⟨v, hv, _, _, rfl, _⟩ := Versions.transition_eq_ok h
    exact (hw.found_ne hnone hv).2
  | rest answer => exact hs

theorem step_avoids (hs : s.Avoids id held call) (hserves : s.Serves maxSize call) (hw : w.Sane)
    (hdistinct : w.versions.Distinct) (hnone : w.versions.get? id = none)
    (hcreate : ∀ v, s = .createRecord v → v.id ≠ id)
    (hheld : ∀ other data, w.blobs.archive? other = some data → held other data) :
    (step w c s).stage.Avoids id held call := by
  by_cases hends : ∃ answer, (step w c s).stage = .done (.ok answer)
  · obtain ⟨answer, hanswer⟩ := hends
    rw [hanswer]
    exact (step_answers hanswer).spares hs hw hdistinct hnone hcreate hheld
  · exact (step_moves w c s).avoids hs hserves hw hnone fun answer h => hends ⟨answer, h⟩

/-- The records stay told apart by their identifiers. -/
theorem Moves.distinct (h : Moves w c s w' s') (hw : w.versions.Distinct) :
    w'.versions.Distinct := by
  cases h with
  | creates h =>
    obtain ⟨_, rfl⟩ := Versions.create_eq_ok h
    exact hw.insert _ _
  | erases _ _ => exact hw.erase _
  | erasesOnly _ _ => exact hw.erase _
  | marks h =>
    obtain ⟨_, _, _, _, _, rfl⟩ := Versions.transition_eq_ok h
    exact hw.insert _ _
  | voids h =>
    obtain ⟨_, _, _, _, _, rfl⟩ := Versions.transition_eq_ok h
    exact hw.insert _ _
  | _ => exact hw

def Stage.Removed : Stage → Prop
  | .removeArchive _ => True
  | .done (.ok .deleted) => True
  | _ => False

/-- A call has removed its record before the step, or removes it at the step. -/
theorem removed_step (h : (step w c s).stage.Removed) :
    s.Removed ∨ ∃ other, s = .removeRecord other ∧ w.versions.get? other ≠ none ∧
      (step w c s).world.versions.get? other = none := by
  by_cases hends : ∃ answer, (step w c s).stage = .done (.ok answer)
  · obtain ⟨answer, hanswer⟩ := hends
    rw [hanswer] at h
    cases step_answers hanswer with
    | removal key => exact .inl trivial
    | rest answer => exact .inl h
    | _ => exact h.elim
  · generalize hnext : (step w c s).stage = next at h hends
    have hmoves := step_moves w c s
    rw [hnext] at hmoves
    cases next with
    | removeArchive key =>
      generalize (step w c s).world = w' at hmoves
      cases hmoves with
      | erases hcontains hkey =>
        obtain ⟨v, hv⟩ := Versions.contains_iff.mp hcontains
        exact .inr ⟨_, rfl, by simp [hv], by simp⟩
    | done result =>
      cases result with
      | ok answer => exact absurd ⟨answer, rfl⟩ hends
      | error f => exact h.elim
    | _ => exact h.elim

/-! Runs. -/

namespace System

variable {t u : System}

/-- A version that was created and has no record any more. -/
structure Gone (t : System) (id : String) : Prop where
  born : t.Born id
  absent : t.world.versions.get? id = none

/-- A version that is gone does not come back, for its suffix is not drawn again. -/
theorem Gone.changes (hid : t.Gone id) (hbirths : t.Births) (ho : t.Orderly maxSize)
    (h : t.Changes maxSize u) : u.Gone id := by
  refine ⟨hid.born.changes h, ?_⟩
  cases h with
  | begins call _ => exact hid.absent
  | advances c hat _ =>
    refine (step_moves t.world c _).absent ?_ hid.absent
    rintro v rfl rfl
    exact hbirths.unborn ho hat hid.born
  | abandons hat =>
    next caller call stage =>
    exact (congrArg (Table.get? · id) (abandon_same t.world caller stage).1).trans hid.absent

/-- What holds in every run: who has removed the record of a version has removed it for good. -/
structure Cleared (maxSize : Nat) (t : System) : Prop where
  orderly : t.Orderly maxSize
  births : t.Births
  distinct : t.world.versions.Distinct
  gone : ∀ caller subject id stage, t.At caller (.delete subject id) stage → stage.Removed →
    t.Gone id

theorem cleared_start {blobs : Blob.Store} (h : blobs.Opened) :
    (start blobs).Cleared maxSize where
  orderly := orderly_start h
  births := births_start blobs
  distinct := List.nodup_nil
  gone caller subject id stage h := by simp [start, At] at h

theorem Changes.distinct (h : t.Changes maxSize u) (ht : t.world.versions.Distinct) :
    u.world.versions.Distinct := by
  cases h with
  | begins call _ => exact ht
  | advances c hat _ => exact (step_moves t.world c _).distinct ht
  | abandons hat =>
    next caller call stage =>
    rw [abandoned, (abandon_same t.world caller stage).1]
    exact ht

/-- Every change keeps it so: a record that was removed is not made again. -/
theorem Cleared.changes (ht : t.Cleared maxSize) (h : t.Changes maxSize u) :
    u.Cleared maxSize := by
  refine ⟨ht.orderly.changes h, ht.births.changes ht.orderly h, h.distinct ht.distinct, ?_⟩
  intro caller subject id stage hat hremoved
  have hkept : t.Gone id → u.Gone id := fun hgone => hgone.changes ht.births ht.orderly h
  cases h with
  | begins call _ =>
    rcases at_begun.mp hat with hat | ⟨_, rfl, rfl⟩
    · exact hkept (ht.gone _ _ _ _ hat hremoved)
    · exact hremoved.elim
  | advances c hat' _ =>
    have hat := (at_advanced hat').mp hat
    split at hat
    · obtain ⟨rfl, rfl⟩ := hat
      rcases removed_step hremoved with hbefore | ⟨other, rfl, hrecord, hnone⟩
      · exact hkept (ht.gone _ _ _ _ hat' hbefore)
      · -- The record was there, so the version had been created before.
        obtain ⟨_, hcall, _⟩ := ht.orderly.serves _ _ _ hat'
        obtain ⟨_, rfl⟩ := Call.delete.inj hcall
        exact ⟨(ht.births.born _ (.record hrecord)).advanced hat', hnone⟩
    · exact hkept (ht.gone _ _ _ _ hat hremoved)
  | abandons hat' => exact hkept (ht.gone _ _ _ _ ((at_abandoned hat').mp hat).2 hremoved)

theorem Reaches.cleared (h : t.Reaches maxSize u) (ht : t.Cleared maxSize) : u.Cleared maxSize :=
  h.induction ht fun ht hchange => ht.changes hchange

theorem Reachable.cleared (h : t.Reachable maxSize) : t.Cleared maxSize := by
  obtain ⟨blobs, hopened, hreaches⟩ := h
  exact hreaches.cleared (cleared_start hopened)

/-- At some moment on the way from one system to another, a version has this archive. -/
def Held (maxSize : Nat) (t u : System) (id : String) (data : ByteArray) : Prop :=
  ∃ m, t.Reaches maxSize m ∧ m.Reaches maxSize u ∧ m.world.blobs.archive? id = some data

theorem Held.changes {data : ByteArray} {m : System} (h : t.Held maxSize u id data)
    (hchange : u.Changes maxSize m) : t.Held maxSize m id data := by
  obtain ⟨between, hbefore, hafter, harchive⟩ := h
  exact ⟨between, hbefore, .step hafter hchange, harchive⟩

/-- A version is gone, and the later callers have nothing of it in hand. -/
structure Forgets (t : System) (id : String) (held : String → ByteArray → Prop) (later : Nat) :
    Prop where
  gone : t.Gone id
  avoids : ∀ caller call stage, later ≤ caller → t.At caller call stage →
    stage.Avoids id held call

theorem Forgets.mono {held' : String → ByteArray → Prop} {later : Nat}
    (hid : t.Forgets id held later) (hmore : ∀ other data, held other data → held' other data) :
    t.Forgets id held' later :=
  ⟨hid.gone, fun caller call stage hlater hat =>
    (hid.avoids caller call stage hlater hat).mono hmore⟩

/-- No later caller comes by anything of a version that is gone. -/
theorem Forgets.changes {later : Nat} (hid : t.Forgets id held later) (ht : t.Cleared maxSize)
    (hheld : ∀ other data, t.world.blobs.archive? other = some data → held other data)
    (h : t.Changes maxSize u) : u.Forgets id held later := by
  refine ⟨hid.gone.changes ht.births ht.orderly h, fun caller call stage hlater hat => ?_⟩
  cases h with
  | begins call _ =>
    rcases at_begun.mp hat with hat | ⟨_, rfl, rfl⟩
    · exact hid.avoids caller _ stage hlater hat
    · exact (opening_opens maxSize _).avoids
  | advances c hat' _ =>
    have hat := (at_advanced hat').mp hat
    split at hat
    · next hcaller =>
      obtain ⟨rfl, rfl⟩ := hat
      -- No creation is under way for a version that was created before.
      refine step_avoids (hid.avoids _ _ _ (hcaller ▸ hlater) hat')
        (ht.orderly.serves _ _ _ hat') ht.orderly.sane ht.distinct hid.gone.absent ?_ hheld
      rintro v rfl rfl
      exact ht.births.unborn ht.orderly hat' hid.gone.born
    · exact hid.avoids caller call stage hlater hat
  | abandons hat' => exact hid.avoids caller call stage hlater ((at_abandoned hat').mp hat).2

/-- Once a removal is answered, the version has no record ever after, and no call that begins later
ends with anything of it. -/
theorem Cleared.forgets {caller : Nat} {subject : Subject} (ht : t.Cleared maxSize)
    (hanswered : t.At caller (.delete subject id) (.done (.ok .deleted)))
    (h : t.Reaches maxSize u) : u.Forgets id (t.Held maxSize u) t.tasks.length := by
  induction h with
  | refl =>
    refine ⟨ht.gone _ _ _ _ hanswered trivial, fun later call stage hlater hat => ?_⟩
    exact absurd hat.lt (by omega)
  | step h hchange ih =>
    exact (ih.mono fun _ _ hheld => hheld.changes hchange).changes (h.cleared ht)
      (fun other data harchive => ⟨_, h, .step .refl hchange, harchive⟩) hchange

end System

end Service

end ConfigRegistry
