import ConfigRegistry.Proofs.Service.System
import ConfigRegistry.Proofs.Store.Versions

/-!
What calls have in hand comes from what their callers asked for. An upload works on its own
identifier with its own archive, a removal on the identifier that an administrator named.
-/
namespace ConfigRegistry.Service

/-- The records lie under their identifiers, and the archives in one place. -/
structure World.Sane (w : World) : Prop where
  keyed : w.versions.Keyed
  sound : w.blobs.Sound

def Stage.Serves (maxSize : Nat) (call : Call) : Stage → Prop
  | .createRecord v => ∃ s suffix workspace options now,
      call = .create s suffix workspace options now ∧
        v = Version.create suffix workspace options now
  | .lookUp s .delete id => call = .delete s id
  | .removeRecord id => ∃ s, call = .delete s id ∧ s.role.allows .delete = true
  | .removeArchive key => ∃ s id, call = .delete s id ∧ s.role.allows .delete = true ∧
      Blob.keyOf id = .ok key
  | .enterLock id data => call = .upload id data ∧ data.size ≤ maxSize
  | .awaitLock g data => call = .upload g.id data ∧ data.size ≤ maxSize
  | .checkPending g data => call = .upload g.id data ∧ data.size ≤ maxSize
  | .storeArchive g id key data => call = .upload id data ∧ data.size ≤ maxSize ∧ g.id = id ∧
      Blob.keyOf id = .ok key
  | .markUploaded g id => ∃ data key, call = .upload id data ∧ data.size ≤ maxSize ∧ g.id = id ∧
      Blob.keyOf id = .ok key
  | .markErrored g id _ => ∃ data, call = .upload id data ∧ g.id = id
  | _ => True

theorem Opens.serves {maxSize : Nat} {call : Call} {stage : Stage}
    (h : Opens maxSize call stage) : stage.Serves maxSize call := by
  cases h with
  | refuses f => trivial
  | creates s suffix workspace options now => exact ⟨s, suffix, workspace, options, now, rfl, rfl⟩
  | lists s workspace o => trivial
  | latest s workspace => trivial
  | gets s id => trivial
  | downloads s id => trivial
  | deletes s id => rfl
  | uploads h => exact ⟨rfl, h⟩

variable {maxSize : Nat} {w w' : World} {c : Circumstance} {call : Call} {s s' : Stage}

/-- A step leads to a stage that serves the same call. -/
theorem Moves.serves (h : Moves w c s w' s') (hw : w.Sane) (hs : s.Serves maxSize call) :
    s'.Serves maxSize call := by
  cases h with
  | rests answer => trivial
  | ends answer _ _ => trivial
  | creates _ => trivial
  | fetches _ _ => trivial
  | removes h hallowed =>
    rw [hw.keyed _ _ h]
    exact ⟨_, hs, hallowed⟩
  | erases _ hkey =>
    obtain ⟨s, hcall, hallowed⟩ := hs
    exact ⟨s, _, hcall, hallowed, hkey⟩
  | erasesOnly _ _ => trivial
  | clears _ => trivial
  | enters _ _ => exact hs
  | queues _ => exact hs
  | waits g data => exact hs
  | takes _ => exact hs
  | checks h _ hkey =>
    have hid := hw.keyed _ _ h
    rw [hid] at hkey ⊢
    exact ⟨hs.1, hs.2, rfl, hkey⟩
  | stores _ => exact ⟨_, _, hs⟩
  | breaks _ => exact ⟨_, hs.1, hs.2.2.1⟩
  | misses fault => exact ⟨_, hs.1, hs.2.2.1⟩
  | marks _ => trivial
  | voids _ => trivial
  | leaves f _ => trivial

/-- A step keeps records and archives sane. -/
theorem Moves.sane (h : Moves w c s w' s') (hw : w.Sane) (hs : s.Serves maxSize call)
    (hmark : '/' ∉ c.mark.toList) : w'.Sane := by
  cases h with
  | creates h =>
    obtain ⟨_, rfl⟩ := Versions.create_eq_ok h
    exact ⟨hw.keyed.insert rfl, hw.sound⟩
  | erases _ _ => exact ⟨hw.keyed.erase _, hw.sound⟩
  | erasesOnly _ _ => exact ⟨hw.keyed.erase _, hw.sound⟩
  | clears h =>
    obtain ⟨_, _, _, _, hkey⟩ := hs
    exact ⟨hw.keyed, (Blob.Store.delete_archive? hw.sound hkey h).1.sound⟩
  | stores h => exact ⟨hw.keyed, (Blob.Store.put_archive? hw.sound _ hs.2.2.2 hmark h).1.sound⟩
  | breaks h => exact ⟨hw.keyed, (Blob.Store.put_archive? hw.sound _ hs.2.2.2 hmark h).1.sound⟩
  | marks h =>
    obtain ⟨v, hv, _, _, rfl, rfl⟩ := Versions.transition_eq_ok h
    exact ⟨hw.keyed.insert (hw.keyed _ v hv), hw.sound⟩
  | voids h =>
    obtain ⟨v, hv, _, _, rfl, rfl⟩ := Versions.transition_eq_ok h
    exact ⟨hw.keyed.insert (hw.keyed _ v hv), hw.sound⟩
  | rests answer => exact hw
  | ends answer _ _ => exact hw
  | fetches _ _ => exact hw
  | removes _ _ => exact hw
  | enters _ _ => exact ⟨hw.keyed, hw.sound⟩
  | queues _ => exact ⟨hw.keyed, hw.sound⟩
  | waits g data => exact hw
  | takes _ => exact hw
  | checks _ _ _ => exact hw
  | misses fault => exact hw
  | leaves f _ => exact ⟨hw.keyed, hw.sound⟩

/-- Who gives up a call changes the locks alone. -/
theorem abandon_same (w : World) (caller : Nat) (s : Stage) :
    (abandon w caller s).versions = w.versions ∧ (abandon w caller s).blobs = w.blobs := by
  cases s with
  | _ => exact ⟨rfl, rfl⟩

theorem abandon_sane (hw : w.Sane) (caller : Nat) (s : Stage) : (abandon w caller s).Sane := by
  obtain ⟨hversions, hblobs⟩ := abandon_same w caller s
  exact ⟨hversions ▸ hw.keyed, hblobs ▸ hw.sound⟩

end ConfigRegistry.Service
