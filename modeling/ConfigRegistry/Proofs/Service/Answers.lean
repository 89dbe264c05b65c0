import ConfigRegistry.Proofs.Service.Moves

/-!
What calls end with. Each kind of answer is given at one kind of stage, and shows what the step
found there.
-/
namespace ConfigRegistry.Service

/-- The answers with which a step ends a call. -/
inductive Answers (w : World) (c : Circumstance) : Stage → Answer → Prop
  | creation (v : Version) : Answers w c (.createRecord v) (.version v)
  | listing (workspace : String) (o : Page.Options) :
      Answers w c (.listRecords workspace o) (.page (w.versions.page workspace o))
  | newest {workspace : String} {v : Version} (h : w.versions.latest? workspace = some v) :
      Answers w c (.latestRecord workspace) (.version v)
  | record {s : Subject} {id : String} {v : Version} (h : w.versions.get? id = some v) :
      Answers w c (.lookUp s .get id) (.version v)
  | archive {id key : String} {data : ByteArray} (h : (w.blobs.get key).1 = .ok data) :
      Answers w c (.fetchArchive id key) (.archive data)
  | removal (key : String) : Answers w c (.removeArchive key) .deleted
  | upload {g : Guard} {id : String} {v : Version} {versions : Versions}
      (h : w.versions.transition id .uploaded c.now = (.ok v, versions)) :
      Answers w c (.markUploaded g id) (.version v)
  | rest (answer : Answer) : Answers w c (.done (.ok answer)) answer

variable {w : World} {c : Circumstance} {s : Stage} {answer : Answer} {id : String}

/-- What a look-up answers is true of the records it was made in. -/
theorem answers_lookUp {subject : Subject} {purpose : Purpose}
    (h : (step w c (.lookUp subject purpose id)).stage = .done (.ok answer)) :
    Answers w c (.lookUp subject purpose id) answer := by
  simp only [step] at h
  split at h
  · next v haccess =>
    have hv : w.versions.get? id = some v := by
      rcases accessed_eq_ok haccess with heq | heq
      · exact heq.symm
      · contradiction
    unfold found at h
    split at h
    · simp [Stage.failed] at h
    · cases purpose with
      | get =>
        obtain rfl := Except.ok.inj (Stage.done.inj h)
        exact .record hv
      | delete => simp at h
      | download => cases hkey : Blob.keyOf v.id <;> simp [hkey, Stage.failed] at h
  · simp [Stage.failed] at h
  · simp [Stage.failed] at h

/-- A call that ends at a step ends with one of the answers of the step. -/
theorem step_answers (h : (step w c s).stage = .done (.ok answer)) : Answers w c s answer := by
  cases s with
  | createRecord v =>
    simp only [step] at h
    split at h
    · obtain rfl := Except.ok.inj (Stage.done.inj h)
      exact .creation v
    · simp [Stage.failed] at h
  | listRecords workspace o =>
    simp only [step] at h
    split at h
    · next p hp =>
      obtain rfl := Except.ok.inj (effected_eq_ok hp)
      obtain rfl := Except.ok.inj (Stage.done.inj h)
      exact .listing workspace o
    · simp [Stage.failed] at h
  | latestRecord workspace =>
    simp only [step] at h
    split at h
    · next v hv =>
      obtain rfl := Except.ok.inj (Stage.done.inj h)
      rcases accessed_eq_ok hv with heq | heq
      · exact .newest heq.symm
      · contradiction
    · simp [Stage.failed] at h
    · simp [Stage.failed] at h
  | lookUp subject purpose id => exact answers_lookUp h
  | fetchArchive id key =>
    simp only [step] at h
    split at h
    · simp [Stage.failed] at h
    · simp [Stage.failed] at h
    · split at h
      · next hget =>
        obtain rfl := Except.ok.inj (Stage.done.inj h)
        exact .archive (by rw [hget])
      · simp [Stage.failed] at h
      · simp [Stage.failed] at h
  | removeRecord id =>
    simp only [step] at h
    split at h
    · simp [Stage.failed] at h
    · simp [Stage.failed] at h
    · cases hkey : Blob.keyOf id <;> simp [hkey, Stage.failed] at h
  | removeArchive key =>
    have hanswer : answer = .deleted := by
      simp only [step] at h
      split at h
      · exact (Except.ok.inj (Stage.done.inj h)).symm
      · split at h <;> exact (Except.ok.inj (Stage.done.inj h)).symm
    exact hanswer ▸ .removal key
  | enterLock id data =>
    simp only [step] at h
    split at h <;> simp at h
  | awaitLock g data =>
    simp only [step] at h
    split at h <;> simp at h
  | checkPending g data =>
    simp only [step] at h
    split at h
    · simp [finish] at h
    · simp [finish] at h
    · split at h
      · simp [finish] at h
      · split at h <;> simp [finish] at h
  | storeArchive g id key data =>
    simp only [step] at h
    split at h
    · simp at h
    · split at h <;> simp at h
  | markUploaded g id =>
    simp only [step] at h
    split at h
    · simp [finish] at h
    · next htransition =>
      obtain rfl := Except.ok.inj (Stage.done.inj h)
      exact .upload (changed_eq_ok htransition)
  | markErrored g id cause =>
    simp only [step] at h
    split at h <;> simp [finish] at h
  | done result =>
    obtain rfl := Stage.done.inj h
    exact .rest answer

end ConfigRegistry.Service
