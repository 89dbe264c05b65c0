import ConfigRegistry.Proofs.Service.Provenance

/-!
What a step does to one version. Its record comes to be, goes away or leaves its pending status in
one kind of step each, and so does its archive.
-/
namespace ConfigRegistry.Service

namespace Stage

def stored? : Stage → Option String
  | .storeArchive _ id _ _ | .markUploaded _ id | .markErrored _ id _ => some id
  | _ => none

/-- The call is about to remove the archive of a version whose record it removed. -/
def Clears (id : String) (s : Stage) : Prop :=
  ∃ key, s = .removeArchive key ∧ Blob.keyOf id = .ok key

/-- A stage with an archive to store or to mark holds the lock of its version. -/
theorem Serves.guarded {maxSize : Nat} {call : Call} {s : Stage} {id : String}
    (h : s.Serves maxSize call) (hid : s.stored? = some id) :
    ∃ g, s.held? = some g ∧ g.id = id := by
  cases s with
  | storeArchive g other key data =>
    obtain rfl : other = id := Option.some.inj hid
    exact ⟨g, rfl, h.2.2.1⟩
  | markUploaded g other =>
    obtain rfl : other = id := Option.some.inj hid
    obtain ⟨_, _, _, _, hg, _⟩ := h
    exact ⟨g, rfl, hg⟩
  | markErrored g other cause =>
    obtain rfl : other = id := Option.some.inj hid
    obtain ⟨_, _, hg⟩ := h
    exact ⟨g, rfl, hg⟩
  | _ => contradiction

/-- Only an upload stores an archive, and of its own version. -/
theorem Serves.uploads {maxSize : Nat} {call : Call} {s : Stage} {id : String}
    (h : s.Serves maxSize call) (hid : s.stored? = some id) : ∃ data, call = .upload id data := by
  cases s with
  | storeArchive g other key data =>
    obtain rfl : other = id := Option.some.inj hid
    exact ⟨data, h.1⟩
  | markUploaded g other =>
    obtain rfl : other = id := Option.some.inj hid
    obtain ⟨data, _, hcall, _⟩ := h
    exact ⟨data, hcall⟩
  | markErrored g other cause =>
    obtain rfl : other = id := Option.some.inj hid
    obtain ⟨data, hcall, _⟩ := h
    exact ⟨data, hcall⟩
  | _ => contradiction

end Stage

/-- The record of a version before a step and after it. -/
inductive RecordChange (s s' : Stage) (id : String) : Option Version → Option Version → Prop
  | same (v : Option Version) : RecordChange s s' id v v
  | created {v : Version} (hstage : s = .createRecord v) (hid : v.id = id) :
      RecordChange s s' id none (some v)
  | erased {v : Version} (hstage : s = .removeRecord id) :
      RecordChange s s' id (some v) none
  | settled {v v' : Version} (hstage : s.stored? = some id) (hdone : s'.stored? = none)
      (hpending : v.status = .pending) (hsettled : v'.status ≠ .pending)
      (huploaded : v'.status = .uploaded → ∃ g, s = .markUploaded g id) :
      RecordChange s s' id (some v) (some v')

variable {maxSize : Nat} {w w' : World} {c : Circumstance} {call : Call} {s s' : Stage}

/-- All that one step can do to one record, by the stage it leaves and the stage it enters. -/
theorem Moves.record (h : Moves w c s w' s') (id : String) :
    RecordChange s s' id (w.versions.get? id) (w'.versions.get? id) := by
  have herased : ∀ other, w.versions.contains other = true →
      RecordChange (.removeRecord other) s' id (w.versions.get? id)
        ((w.versions.erase other).get? id) := by
    intro other hcontains
    obtain ⟨v, hv⟩ := Versions.contains_iff.mp hcontains
    rw [Table.get?_erase]
    split
    · next heq =>
      subst heq
      rw [hv]
      exact .erased rfl
    · exact .same _
  have hsettled : ∀ (other : String) (next : Version.Status) (moved : Version)
      (versions : Versions), s.stored? = some other → s'.stored? = none →
      w.versions.transition other next c.now = (.ok moved, versions) →
      (next = .uploaded → ∃ g, s = .markUploaded g other) →
      RecordChange s s' id (w.versions.get? id) (versions.get? id) := by
    intro other next moved versions hstage hdone htransition huploaded
    obtain ⟨v, hv, hpending, hnext, rfl, rfl⟩ := Versions.transition_eq_ok htransition
    rw [Table.get?_insert]
    split
    · next heq =>
      subst heq
      rw [hv]
      exact .settled hstage hdone hpending hnext huploaded
    · exact .same _
  cases h with
  | creates h =>
    obtain ⟨hnone, rfl⟩ := Versions.create_eq_ok h
    simp only [Table.get?_insert]
    split
    · next heq =>
      subst heq
      rw [hnone]
      exact .created rfl rfl
    · exact .same _
  | erases h _ => exact herased _ h
  | erasesOnly h _ => exact herased _ h
  | marks h => exact hsettled _ _ _ _ rfl rfl h fun _ => ⟨_, rfl⟩
  | voids h => exact hsettled _ _ _ _ rfl rfl h fun heq => by contradiction
  | _ => exact .same _

/-- Without a record a version stays so, unless a creation is about to make one. -/
theorem Moves.absent (h : Moves w c s w' s') {id : String}
    (hs : ∀ v, s = .createRecord v → v.id ≠ id) (hnone : w.versions.get? id = none) :
    w'.versions.get? id = none := by
  have hchange := h.record id
  rw [hnone] at hchange
  generalize w'.versions.get? id = after at hchange
  cases hchange with
  | same _ => rfl
  | created hstage hid => exact absurd hid (hs _ hstage)

/-- A step that stores an archive leaves the records alone. -/
theorem versions_storeArchive (w : World) (c : Circumstance) (g : Guard) (id key : String)
    (data : ByteArray) : (step w c (.storeArchive g id key data)).world.versions = w.versions := by
  simp only [step]
  split
  · rfl
  · split <;> rfl

/-- The archive of a version before a step and after it. -/
inductive ArchiveChange (s s' : Stage) (id : String) :
    Option ByteArray → Option ByteArray → Prop
  | same (a : Option ByteArray) : ArchiveChange s s' id a a
  | stored {g : Guard} {key : String} {data : ByteArray} (a : Option ByteArray)
      (hstage : s = .storeArchive g id key data) (hnext : s' = .markUploaded g id) :
      ArchiveChange s s' id a (some data)
  | cleared (a : Option ByteArray) (hstage : s.Clears id) : ArchiveChange s s' id a none

/-- All that one step can do to one archive. -/
theorem Moves.archive (h : Moves w c s w' s') (hw : w.Sane) (hs : s.Serves maxSize call)
    (hmark : '/' ∉ c.mark.toList) (id : String) :
    ArchiveChange s s' id (w.blobs.archive? id) (w'.blobs.archive? id) := by
  cases h with
  | clears h =>
    obtain ⟨_, other, _, _, hkey⟩ := hs
    obtain ⟨hothers, hself⟩ := Blob.Store.delete_archive? hw.sound hkey h
    by_cases heq : id = other
    · subst heq
      rcases hself with ⟨_, hnone⟩ | ⟨_, hsame⟩
      · simp only [hnone]
        exact .cleared _ ⟨_, rfl, hkey⟩
      · simp only [hsame]
        exact .same _
    · simp only [hothers.other id heq]
      exact .same _
  | stores h =>
    obtain ⟨hothers, hself⟩ := Blob.Store.put_archive? hw.sound _ hs.2.2.2 hmark h
    next g other key data _ _ =>
    by_cases heq : id = other
    · subst heq
      rcases hself with ⟨_, hstored⟩ | ⟨⟨_, hfault⟩, _⟩
      · simp only [hstored]
        exact .stored _ rfl rfl
      · contradiction
    · simp only [hothers.other id heq]
      exact .same _
  | breaks h =>
    obtain ⟨hothers, hself⟩ := Blob.Store.put_archive? hw.sound _ hs.2.2.2 hmark h
    next g other key data _ _ _ =>
    by_cases heq : id = other
    · subst heq
      rcases hself with ⟨hok, _⟩ | ⟨_, hsame⟩
      · contradiction
      · simp only [hsame]
        exact .same _
    · simp only [hothers.other id heq]
      exact .same _
  | _ => exact .same _

/-! How a call gets to a stage. -/

/-- A call stores an archive only of a version that it found pending. -/
theorem Moves.stored_of_stored (h : Moves w c s w' s') {id : String}
    (hw : w.Sane) (hid : s'.stored? = some id) :
    s.stored? = some id ∨
      w'.versions = w.versions ∧ ∃ v, w.versions.get? id = some v ∧ v.status = .pending := by
  cases h with
  | checks h hpending _ =>
    next g data v key _ =>
    have hkey := hw.keyed _ _ h
    obtain rfl : v.id = id := Option.some.inj hid
    exact .inr ⟨rfl, v, hkey ▸ h, hpending⟩
  | stores _ => exact .inl hid
  | breaks _ => exact .inl hid
  | misses _ => exact .inl hid
  | _ => contradiction

/-- An upload comes to mark a version only right after the archive of that version was stored. -/
theorem Moves.stored_of_markUploaded (h : Moves w c s w' s') (hw : w.Sane)
    (hs : s.Serves maxSize call) (hmark : '/' ∉ c.mark.toList) {g : Guard} {id : String}
    (hnext : s' = .markUploaded g id) :
    ∃ key data, s = .storeArchive g id key data ∧ w'.blobs.archive? id = some data := by
  cases h with
  | stores h =>
    obtain ⟨rfl, rfl⟩ := Stage.markUploaded.inj hnext
    obtain ⟨_, ⟨_, hstored⟩ | ⟨⟨_, hfault⟩, _⟩⟩ :=
      Blob.Store.put_archive? hw.sound _ hs.2.2.2 hmark h
    · exact ⟨_, _, rfl, hstored⟩
    · contradiction
  | _ => contradiction

theorem Moves.erased_of_clears (h : Moves w c s w' s') {id : String} (hclears : s'.Clears id) :
    w.versions.get? id ≠ none ∧ w'.versions.get? id = none := by
  obtain ⟨key, hnext, hkey⟩ := hclears
  cases h with
  | erases h hkey' =>
    obtain rfl := Stage.removeArchive.inj hnext
    obtain rfl := Blob.keyOf_inj hkey hkey'
    obtain ⟨v, hv⟩ := Versions.contains_iff.mp h
    exact ⟨by simp [hv], by simp⟩
  | _ => contradiction

/-- No step leads back to a creation. -/
theorem Moves.not_createRecord (h : Moves w c s w' s') (v : Version) :
    s' ≠ .createRecord v := by
  intro hnext
  cases h with
  | _ => contradiction

end ConfigRegistry.Service
