import ConfigRegistry.Proofs.Store.Versions
import ConfigRegistry.Service.Basic

/-!
What one step of a call can do. Every step that changes something shared has a case of its own; all
others leave the world as it is. What holds after every step is shown case by case.
-/
namespace ConfigRegistry.Service

namespace Stage

def held? : Stage → Option Guard
  | .checkPending g _ | .storeArchive g _ _ _ | .markUploaded g _ | .markErrored g _ _ => some g
  | _ => none

def awaited? : Stage → Option Guard
  | .awaitLock g _ => some g
  | _ => none

end Stage

/-- The world after a call let go of its lock. -/
def World.released (w : World) (g : Guard) : World :=
  { w with locks := w.locks.release g.id g.number }

/-- From a world and a stage to the next. -/
inductive Moves (w : World) (c : Circumstance) : Stage → World → Stage → Prop
  | rests (answer : Except Failure Answer) : Moves w c (.done answer) w (.done answer)
  | ends {s : Stage} (answer : Except Failure Answer) (hheld : s.held? = none)
      (hawaited : s.awaited? = none) : Moves w c s w (.done answer)
  | creates {v : Version} {versions : Versions} (h : w.versions.create v = (.ok (), versions)) :
      Moves w c (.createRecord v) { w with versions } (.done (.ok (.version v)))
  | fetches {s : Subject} {id key : String} {v : Version} (h : w.versions.get? id = some v)
      (hkey : Blob.keyOf v.id = .ok key) :
      Moves w c (.lookUp s .download id) w (.fetchArchive id key)
  | removes {s : Subject} {id : String} {v : Version} (h : w.versions.get? id = some v)
      (hallowed : s.role.allows .delete = true) :
      Moves w c (.lookUp s .delete id) w (.removeRecord v.id)
  | erases {id key : String} (h : w.versions.contains id = true) (hkey : Blob.keyOf id = .ok key) :
      Moves w c (.removeRecord id) { w with versions := w.versions.erase id } (.removeArchive key)
  | erasesOnly {id : String} {fault : Blob.Fault} (h : w.versions.contains id = true)
      (hkey : Blob.keyOf id = .error fault) :
      Moves w c (.removeRecord id) { w with versions := w.versions.erase id }
        (.failed fault.toFailure)
  | clears {key : String} {result : Except Blob.Fault Unit} {blobs : Blob.Store}
      {events : List Log.Event} (h : w.blobs.delete key = (result, blobs, events)) :
      Moves w c (.removeArchive key) { w with blobs } (.done (.ok .deleted))
  | enters {id : String} {data : ByteArray} {number : Nat} {locks : Locks}
      (h : w.locks.enter id c.caller = (number, locks))
      (hholds : locks.holds number c.caller = true) :
      Moves w c (.enterLock id data) { w with locks } (.checkPending ⟨id, number⟩ data)
  | queues {id : String} {data : ByteArray} {number : Nat} {locks : Locks}
      (h : w.locks.enter id c.caller = (number, locks)) :
      Moves w c (.enterLock id data) { w with locks } (.awaitLock ⟨id, number⟩ data)
  | waits (g : Guard) (data : ByteArray) : Moves w c (.awaitLock g data) w (.awaitLock g data)
  | takes {g : Guard} {data : ByteArray} (h : w.locks.holds g.number c.caller = true) :
      Moves w c (.awaitLock g data) w (.checkPending g data)
  | checks {g : Guard} {data : ByteArray} {v : Version} {key : String}
      (h : w.versions.get? g.id = some v) (hpending : v.status = .pending)
      (hkey : Blob.keyOf v.id = .ok key) :
      Moves w c (.checkPending g data) w (.storeArchive g v.id key data)
  | stores {g : Guard} {id key : String} {data : ByteArray} {blobs : Blob.Store}
      {events : List Log.Event} (h : w.blobs.put key data c.mark = (.ok (), blobs, events)) :
      Moves w c (.storeArchive g id key data) { w with blobs } (.markUploaded g id)
  | breaks {g : Guard} {id key : String} {data : ByteArray} {fault : Blob.Fault}
      {blobs : Blob.Store} {events : List Log.Event}
      (h : w.blobs.put key data c.mark = (.error fault, blobs, events)) :
      Moves w c (.storeArchive g id key data) { w with blobs }
        (.markErrored g id (.storage fault.message))
  | misses {g : Guard} {id key : String} {data : ByteArray} (fault : Blob.Fault) :
      Moves w c (.storeArchive g id key data) w (.markErrored g id (.storage fault.message))
  | marks {g : Guard} {id : String} {v : Version} {versions : Versions}
      (h : w.versions.transition id .uploaded c.now = (.ok v, versions)) :
      Moves w c (.markUploaded g id) ({ w with versions }.released g) (.done (.ok (.version v)))
  | voids {g : Guard} {id : String} {cause : Failure} {v : Version} {versions : Versions}
      (h : w.versions.transition id .errored c.now = (.ok v, versions)) :
      Moves w c (.markErrored g id cause) ({ w with versions }.released g) (.done (.error cause))
  | leaves {s : Stage} {g : Guard} (f : Failure) (h : s.held? = some g) :
      Moves w c s (w.released g) (.done (.error f))

/-! Accesses that may be out of order. -/

theorem accessed_eq_ok {α : Type} {outage : Option Store.Outage} {missing a b : α}
    (h : accessed outage missing (.ok a) = .ok b) : b = a ∨ b = missing := by
  unfold accessed at h
  split at h
  · exact .inl (Except.ok.inj h).symm
  · contradiction
  · exact .inr (Except.ok.inj h).symm
  · exact .inr (Except.ok.inj h).symm

theorem effected_eq_ok {α : Type} {outage : Option Store.Outage} {a : Except Failure α} {b : α}
    (h : effected outage a = .ok b) : a = .ok b := by
  unfold effected at h
  split at h
  · contradiction
  · exact h

section

variable {α : Type} {outage : Option Store.Outage} {vs vs' : Versions}
  {a : Except Failure α × Versions}

theorem changed_eq_ok {b : α} (h : changed outage vs a = (.ok b, vs')) : a = (.ok b, vs') := by
  unfold changed at h
  split at h
  · exact absurd (Prod.mk.inj h).1 (by simp)
  · exact h

/-- A change that fails leaves the records as they were, if a change that is refused does. -/
theorem changed_of_error {f : Failure} (h : changed outage vs a = (.error f, vs'))
    (hrefused : ∀ f vs', a = (.error f, vs') → vs' = vs) : vs' = vs := by
  unfold changed at h
  split at h
  · exact (Prod.mk.inj h).2.symm
  · exact hrefused f vs' h

end

/-! Steps are moves. -/

/-- A look-up hands on what it found for the purpose it was made for, or refuses it. -/
theorem moves_found (w : World) (c : Circumstance) (s : Subject) (purpose : Purpose)
    {id : String} {v : Version} (h : w.versions.get? id = some v) :
    Moves w c (.lookUp s purpose id) w (found s purpose id v).1 := by
  unfold found
  cases hallowed : s.role.allows purpose.action with
  | false =>
    simp only [Subject.authorize, hallowed, Bool.false_eq_true, if_false]
    exact .ends _ rfl rfl
  | true =>
    simp only [Subject.authorize, hallowed, if_true]
    cases purpose with
    | get => exact .ends _ rfl rfl
    | delete => exact .removes h hallowed
    | download =>
      cases hkey : Blob.keyOf v.id with
      | ok key => exact .fetches h hkey
      | error fault => exact .ends _ rfl rfl

theorem moves_removeRecord (w : World) (c : Circumstance) (id : String) :
    Moves w c (.removeRecord id) (step w c (.removeRecord id)).world
      (step w c (.removeRecord id)).stage := by
  simp only [step]
  split
  · exact .ends _ rfl rfl
  · exact .ends _ rfl rfl
  · next h =>
    have hcontains : w.versions.contains id = true := by
      rcases accessed_eq_ok h with heq | heq
      · exact heq.symm
      · contradiction
    cases hkey : Blob.keyOf id with
    | ok key => exact .erases hcontains hkey
    | error fault => exact .erasesOnly hcontains hkey

/-- A version is stored to only if it is found pending. -/
theorem moves_checkPending (w : World) (c : Circumstance) (g : Guard) (data : ByteArray) :
    Moves w c (.checkPending g data) (step w c (.checkPending g data)).world
      (step w c (.checkPending g data)).stage := by
  simp only [step]
  split
  · exact .leaves _ rfl
  · exact .leaves _ rfl
  · next v h =>
    have hget : w.versions.get? g.id = some v := by
      rcases accessed_eq_ok h with heq | heq
      · exact heq.symm
      · contradiction
    split
    · exact .leaves _ rfl
    · next hpending =>
      cases hkey : Blob.keyOf v.id with
      | ok key => exact .checks hget (Decidable.not_not.mp hpending) hkey
      | error fault => exact .leaves _ rfl

theorem moves_storeArchive (w : World) (c : Circumstance) (g : Guard) (id key : String)
    (data : ByteArray) :
    Moves w c (.storeArchive g id key data) (step w c (.storeArchive g id key data)).world
      (step w c (.storeArchive g id key data)).stage := by
  simp only [step]
  cases c.blob with
  | some fault => exact .misses fault
  | none =>
    cases hput : w.blobs.put key data c.mark with
    | mk result rest =>
      cases result with
      | ok done => exact .stores hput
      | error fault => exact .breaks hput

/-- Every step is one of the moves. -/
theorem step_moves (w : World) (c : Circumstance) (s : Stage) :
    Moves w c s (step w c s).world (step w c s).stage := by
  cases s with
  | createRecord v =>
    simp only [step]
    split
    · next h => exact .creates (changed_eq_ok h)
    · next f versions h =>
      obtain rfl := changed_of_error h fun _ _ => Versions.create_of_error
      exact .ends _ rfl rfl
  | listRecords workspace o =>
    simp only [step]
    split <;> exact .ends _ rfl rfl
  | latestRecord workspace =>
    simp only [step]
    split <;> exact .ends _ rfl rfl
  | lookUp s purpose id =>
    simp only [step]
    split
    · next v h =>
      have hget : w.versions.get? id = some v := by
        rcases accessed_eq_ok h with heq | heq
        · exact heq.symm
        · contradiction
      exact moves_found w c s purpose hget
    · exact .ends _ rfl rfl
    · exact .ends _ rfl rfl
  | fetchArchive id key =>
    simp only [step]
    split
    · exact .ends _ rfl rfl
    · exact .ends _ rfl rfl
    · split <;> exact .ends _ rfl rfl
  | removeRecord id => exact moves_removeRecord w c id
  | removeArchive key =>
    simp only [step]
    split
    · exact .ends _ rfl rfl
    · split
      · next h => exact .clears h
      · next h => exact .clears h
  | enterLock id data =>
    simp only [step]
    cases h : w.locks.enter id c.caller with
    | mk number locks =>
      simp only
      split
      · next hholds => exact .enters h hholds
      · exact .queues h
  | awaitLock g data =>
    simp only [step]
    split
    · next h => exact .takes h
    · exact .waits g data
  | checkPending g data => exact moves_checkPending w c g data
  | storeArchive g id key data => exact moves_storeArchive w c g id key data
  | markUploaded g id =>
    simp only [step]
    split
    · next f versions h =>
      obtain rfl := changed_of_error h fun _ _ => Versions.transition_of_error
      exact .leaves _ rfl
    · next h => exact .marks (changed_eq_ok h)
  | markErrored g id cause =>
    simp only [step]
    split
    · next f versions h =>
      obtain rfl := changed_of_error h fun _ _ => Versions.transition_of_error
      exact .leaves _ rfl
    · next h => exact .voids (changed_eq_ok h)
  | done answer => exact .rests answer

end ConfigRegistry.Service
