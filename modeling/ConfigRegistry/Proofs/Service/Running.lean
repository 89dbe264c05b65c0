import ConfigRegistry.Proofs.Service.Answers
import ConfigRegistry.Proofs.Service.Effects
import ConfigRegistry.Service.Run

/-!
What a call by itself does to the records and archives. It does nothing, creates one pending
version, deletes one version, or works on the one version that it uploads to.
-/
namespace ConfigRegistry.Service

/-- What holds when a call begins and survives its steps holds when it is over. -/
theorem runFrom_induction (e : Setting) {P : World → Stage → Prop}
    (hstep : ∀ (w : World) (s : Stage) (c : Circumstance), c.mark = e.mark → P w s →
      P (step w c s).world (step w c s).stage) (fuel : Nat) {w : World} {s : Stage}
    (events : List Log.Event) (h : P w s) : ∃ s', P (runFrom e fuel w s events).world s' := by
  induction fuel generalizing w s events with
  | zero =>
    unfold runFrom
    split
    · exact ⟨_, h⟩
    · exact ⟨_, h⟩
    · contradiction
  | succ fuel ih =>
    unfold runFrom
    split
    · exact ⟨_, h⟩
    · contradiction
    · next _ hfuel _ =>
      obtain rfl := Nat.succ.inj hfuel
      exact ih _ (hstep _ _ _ rfl h)

theorem run_induction (e : Setting) {P : World → Stage → Prop} (w : World) (opening : Opening)
    (hstep : ∀ (w : World) (s : Stage) (c : Circumstance), c.mark = e.mark → P w s →
      P (step w c s).world (step w c s).stage) (h : P w opening.1) :
    ∃ s', P (run e w opening).world s' := runFrom_induction e hstep maxSteps opening.2 h

/-- Two worlds with the same records and archives. -/
structure World.Alike (w w' : World) : Prop where
  versions : w'.versions = w.versions
  blobs : w'.blobs = w.blobs

/-- Two worlds that differ at most in the record and the archive of one version, and in the draft
of that archive under one mark. -/
structure World.AlikeBut (w w' : World) (id mark : String) : Prop where
  record : ∀ other, other ≠ id → w'.versions.get? other = w.versions.get? other
  archive : ∀ other, other ≠ id → w'.blobs.archive? other = w.blobs.archive? other
  bytes : Blob.Store.KeepsBytes [Blob.archiveName id, Blob.draftName id mark] w.blobs w'.blobs

theorem World.Alike.refl (w : World) : w.Alike w := ⟨rfl, rfl⟩

theorem World.Alike.trans {w w' w'' : World} (h : w.Alike w') (h' : w'.Alike w'') : w.Alike w'' :=
  ⟨h'.versions.trans h.versions, h'.blobs.trans h.blobs⟩

theorem World.AlikeBut.refl (w : World) (id mark : String) : w.AlikeBut w id mark :=
  ⟨fun _ _ => rfl, fun _ _ => rfl, .refl _ _⟩

theorem World.AlikeBut.trans {w w' w'' : World} {id mark : String} (h : w.AlikeBut w' id mark)
    (h' : w'.AlikeBut w'' id mark) : w.AlikeBut w'' id mark :=
  ⟨fun other hne => (h'.record other hne).trans (h.record other hne),
    fun other hne => (h'.archive other hne).trans (h.archive other hne), h.bytes.trans h'.bytes⟩

def Stage.ReadsOnly : Stage → Prop
  | .listRecords _ _ | .latestRecord _ | .lookUp _ .get _ | .lookUp _ .download _ => True
  | .fetchArchive _ _ | .done _ => True
  | _ => False

variable {maxSize : Nat} {w w' : World} {c : Circumstance} {call : Call} {s s' : Stage}

theorem Moves.readsOnly (h : Moves w c s w' s') (hs : s.ReadsOnly) :
    w.Alike w' ∧ s'.ReadsOnly := by
  cases h with
  | rests answer => exact ⟨.refl w, trivial⟩
  | ends answer _ _ => exact ⟨.refl w, trivial⟩
  | fetches _ _ => exact ⟨.refl w, trivial⟩
  | leaves f hheld =>
    cases s with
    | _ => contradiction
  | _ => contradiction

/-- A call that only reads leaves all records and archives as they are. -/
theorem run_readsOnly (e : Setting) (w : World) {opening : Opening} (h : opening.1.ReadsOnly) :
    w.Alike (run e w opening).world := by
  have hstep : ∀ (w' : World) (s : Stage) (c : Circumstance), c.mark = e.mark →
      w.Alike w' ∧ s.ReadsOnly → w.Alike (step w' c s).world ∧ (step w' c s).stage.ReadsOnly := by
    intro w' s c _ h
    obtain ⟨halike, hread⟩ := (step_moves w' c s).readsOnly h.2
    exact ⟨h.1.trans halike, hread⟩
  obtain ⟨_, hrun, _⟩ := run_induction e w opening hstep ⟨.refl w, h⟩
  exact hrun

theorem readsOnly_permitted (s : Subject) (action : Action) {next : Stage} (h : next.ReadsOnly) :
    (permitted s action next).1.ReadsOnly := by
  unfold permitted
  split
  · exact h
  · trivial

/-- A step of a call on sane records and archives. -/
theorem step_orderly {w : World} {s : Stage} (c : Circumstance) (hmark : '/' ∉ c.mark.toList)
    (h : w.Sane ∧ s.Serves maxSize call) :
    (step w c s).world.Sane ∧ (step w c s).stage.Serves maxSize call :=
  have hmoves := step_moves w c s
  ⟨hmoves.sane h.1 h.2 hmark, hmoves.serves h.1 h.2⟩

theorem run_sane (e : Setting) (hmark : '/' ∉ e.mark.toList) (hw : w.Sane) (maxSize : Nat)
    (call : Call) : (run e w (call.opening maxSize)).world.Sane := by
  have hstep : ∀ (w : World) (s : Stage) (c : Circumstance), c.mark = e.mark →
      w.Sane ∧ s.Serves maxSize call →
        (step w c s).world.Sane ∧ (step w c s).stage.Serves maxSize call := by
    intro w s c hc h
    rw [← hc] at hmark
    exact step_orderly c hmark h
  obtain ⟨_, hrun, _⟩ := run_induction e w (call.opening maxSize) hstep
    ⟨hw, (opening_opens maxSize call).serves⟩
  exact hrun

/-! Uploads. -/

/-- An upload changes nothing but its own version, archive and draft, and the locks. -/
theorem Moves.upload_alikeBut {id : String} {data : ByteArray} (h : Moves w c s w' s')
    (hw : w.Sane) (hs : s.Serves maxSize (.upload id data)) (hmark : '/' ∉ c.mark.toList) :
    w.AlikeBut w' id c.mark where
  bytes := by
    cases h with
    | stores hput =>
      obtain ⟨hcall, _, _, hkey⟩ := hs
      obtain ⟨rfl, rfl⟩ := Call.upload.inj hcall
      exact (Blob.Store.put_archive? hw.sound _ hkey hmark hput).1.bytes
    | breaks hput =>
      obtain ⟨hcall, _, _, hkey⟩ := hs
      obtain ⟨rfl, rfl⟩ := Call.upload.inj hcall
      exact (Blob.Store.put_archive? hw.sound _ hkey hmark hput).1.bytes
    | clears _ =>
      obtain ⟨_, _, hcall, _⟩ := hs
      contradiction
    | _ => exact .refl _ _
  record other hne := by
    have hchange := h.record other
    generalize w.versions.get? other = before at hchange
    generalize w'.versions.get? other = after at hchange
    cases hchange with
    | same _ => rfl
    | created hstage _ =>
      subst hstage
      obtain ⟨_, _, _, _, _, hcall, _⟩ := hs
      contradiction
    | erased hstage =>
      subst hstage
      obtain ⟨_, hcall, _⟩ := hs
      contradiction
    | settled hstored _ _ _ _ =>
      obtain ⟨_, hcall⟩ := hs.uploads hstored
      exact absurd (Call.upload.inj hcall).1.symm hne
  archive other hne := by
    have hchange := h.archive hw hs hmark other
    generalize w.blobs.archive? other = before at hchange
    generalize w'.blobs.archive? other = after at hchange
    cases hchange with
    | same _ => rfl
    | stored _ hstage _ =>
      subst hstage
      exact absurd (Call.upload.inj hs.1).1.symm hne
    | cleared _ hclears =>
      obtain ⟨key, rfl, _⟩ := hclears
      obtain ⟨_, _, hcall, _⟩ := hs
      contradiction

/-- An upload works on the version that it names. -/
theorem run_upload (e : Setting) (hmark : '/' ∉ e.mark.toList) (hw : w.Sane) (maxSize : Nat)
    (id : String) (data : ByteArray) :
    w.AlikeBut (run e w (upload maxSize id data)).world id e.mark := by
  let P (w' : World) (s : Stage) : Prop :=
    (w'.Sane ∧ s.Serves maxSize (.upload id data)) ∧ w.AlikeBut w' id e.mark
  have hstep : ∀ (w' : World) (s : Stage) (c : Circumstance), c.mark = e.mark → P w' s →
      P (step w' c s).world (step w' c s).stage := by
    rintro w' s c hc ⟨⟨hsane, hserves⟩, halike⟩
    rw [← hc] at hmark
    have hmoved := (step_moves w' c s).upload_alikeBut hsane hserves hmark
    exact ⟨step_orderly c hmark ⟨hsane, hserves⟩, halike.trans (hc ▸ hmoved)⟩
  have hbegin : P w (upload maxSize id data).1 :=
    ⟨⟨hw, (opening_opens maxSize (.upload id data)).serves⟩, .refl w id e.mark⟩
  obtain ⟨_, _, hrun⟩ := run_induction e w (upload maxSize id data) hstep hbegin
  exact hrun

/-! Creations. -/

/-- A new pending version that no record was there for, and nothing else. -/
structure World.Gains (w w' : World) (v : Version) : Prop where
  fresh : w.versions.get? v.id = none
  pending : v.status = .pending
  versions : w'.versions = w.versions.insert v.id v
  blobs : w'.blobs = w.blobs

/-- What a creation has done so far. -/
inductive Creating (w : World) (v : Version) (w' : World) : Stage → Prop
  | begins (h : w.Alike w') : Creating w v w' (.createRecord v)
  | refused {s : Stage} (hs : s.ReadsOnly) (h : w.Alike w') : Creating w v w' s
  | done {s : Stage} (hs : s.ReadsOnly) (h : w.Gains w' v) : Creating w v w' s

theorem World.Gains.alike {w w' w'' : World} {v : Version} (h : w.Gains w' v)
    (h' : w'.Alike w'') : w.Gains w'' v :=
  ⟨h.fresh, h.pending, h'.versions.trans h.versions, h'.blobs.trans h.blobs⟩

/-- A creation goes from nothing done to its version added, or is refused. -/
theorem Moves.creating {w₀ : World} {v : Version} (hv : v.status = .pending)
    (h : Moves w c s w' s') (hs : Creating w₀ v w s) : Creating w₀ v w' s' := by
  cases hs with
  | begins halike =>
    cases h with
    | creates hcreate =>
      obtain ⟨hfresh, rfl⟩ := Versions.create_eq_ok hcreate
      rw [halike.versions] at hfresh
      refine .done trivial ⟨hfresh, hv, ?_, halike.blobs⟩
      simp only [halike.versions]
    | ends answer _ _ => exact .refused trivial halike
    | leaves f hheld => contradiction
  | refused hread halike =>
    obtain ⟨halike', hread'⟩ := h.readsOnly hread
    exact .refused hread' (halike.trans halike')
  | done hread hgains =>
    obtain ⟨halike, hread'⟩ := h.readsOnly hread
    exact .done hread' (hgains.alike halike)

/-- A creation adds one pending version or nothing. -/
theorem run_create (e : Setting) (w : World) (s : Subject) (suffix workspace : String)
    (options : Version.Options) (now : Time.Instant) :
    w.Alike (run e w (create s suffix workspace options now)).world ∨
      w.Gains (run e w (create s suffix workspace options now)).world
        (Version.create suffix workspace options now) := by
  have hopening : Creating w (Version.create suffix workspace options now) w
      (create s suffix workspace options now).1 := by
    unfold create permitted
    split
    · exact .begins (.refl w)
    · exact .refused trivial (.refl w)
  obtain ⟨_, hrun⟩ := run_induction e w (create s suffix workspace options now)
    (fun w' s c _ h => (step_moves w' c s).creating rfl h) hopening
  cases hrun with
  | begins h => exact .inl h
  | refused _ h => exact .inl h
  | done _ h => exact .inr h

/-! Deletions. -/

/-- The record of a version is gone, and its archive unless that could not be removed. -/
structure World.Loses (w w' : World) (id : String) : Prop where
  versions : w'.versions = w.versions.erase id
  archive : w'.blobs.archive? id = none ∨ w'.blobs.archive? id = w.blobs.archive? id
  other : ∀ other, other ≠ id → w'.blobs.archive? other = w.blobs.archive? other
  bytes : Blob.Store.KeepsBytes [Blob.archiveName id] w.blobs w'.blobs

/-- What a deletion has done so far. -/
inductive Deleting (w : World) (subject : Subject) (id : String) (w' : World) : Stage → Prop
  | looksUp (h : w.Alike w') : Deleting w subject id w' (.lookUp subject .delete id)
  | removes (hallowed : subject.role.allows .delete = true) (h : w.Alike w') :
      Deleting w subject id w' (.removeRecord id)
  | clears {key : String} (hallowed : subject.role.allows .delete = true)
      (hversions : w'.versions = w.versions.erase id) (hblobs : w'.blobs = w.blobs)
      (hkey : Blob.keyOf id = .ok key) : Deleting w subject id w' (.removeArchive key)
  | refused {s : Stage} (hs : s.ReadsOnly) (h : w.Alike w') : Deleting w subject id w' s
  | done {s : Stage} (hs : s.ReadsOnly) (hallowed : subject.role.allows .delete = true)
      (h : w.Loses w' id) : Deleting w subject id w' s

theorem World.loses_of_blobs_eq {w w' : World} {id : String}
    (hversions : w'.versions = w.versions.erase id) (hblobs : w'.blobs = w.blobs) :
    w.Loses w' id where
  versions := hversions
  archive := .inr (by rw [hblobs])
  other _ _ := by rw [hblobs]
  bytes := hblobs ▸ .refl _ _

theorem World.Loses.alike {w w' w'' : World} {id : String} (h : w.Loses w' id)
    (h' : w'.Alike w'') : w.Loses w'' id :=
  ⟨h'.versions.trans h.versions, h'.blobs ▸ h.archive, h'.blobs ▸ h.other, h'.blobs ▸ h.bytes⟩

/-- A deletion takes away the record first and then the archive, unless it is refused. -/
theorem Moves.deleting {w₀ : World} {subject : Subject} {id : String} (h : Moves w c s w' s')
    (hw : w₀.Sane) (hs : Deleting w₀ subject id w s) : Deleting w₀ subject id w' s' := by
  cases hs with
  | looksUp halike =>
    cases h with
    | removes hv hallowed =>
      rw [halike.versions] at hv
      rw [hw.keyed _ _ hv]
      exact .removes hallowed halike
    | ends answer _ _ => exact .refused trivial halike
    | leaves f hheld => contradiction
  | removes hallowed halike =>
    have herased : w.versions.erase id = w₀.versions.erase id := by rw [halike.versions]
    cases h with
    | erases _ hkey => exact .clears hallowed herased halike.blobs hkey
    | erasesOnly _ _ =>
      exact .done trivial hallowed (World.loses_of_blobs_eq herased halike.blobs)
    | ends answer _ _ => exact .refused trivial halike
    | leaves f hheld => contradiction
  | clears hallowed hversions hblobs hkey =>
    cases h with
    | clears hdelete =>
      rw [hblobs] at hdelete
      obtain ⟨hothers, hself⟩ := Blob.Store.delete_archive? hw.sound hkey hdelete
      refine .done trivial hallowed ⟨hversions, ?_, hothers.other, hblobs ▸ hothers.bytes⟩
      rcases hself with ⟨_, hnone⟩ | ⟨_, hsame⟩
      · exact .inl hnone
      · exact .inr hsame
    | ends answer _ _ =>
      exact .done trivial hallowed (World.loses_of_blobs_eq hversions hblobs)
    | leaves f hheld => contradiction
  | refused hread halike =>
    obtain ⟨halike', hread'⟩ := h.readsOnly hread
    exact .refused hread' (halike.trans halike')
  | done hread hallowed hloses =>
    obtain ⟨halike, hread'⟩ := h.readsOnly hread
    exact .done hread' hallowed (hloses.alike halike)

/-- A deletion takes away one version, if its subject may delete, or nothing. -/
theorem run_delete (e : Setting) (hw : w.Sane) (subject : Subject) (id : String) :
    w.Alike (run e w (delete subject id)).world ∨
      subject.role.allows .delete = true ∧ w.Loses (run e w (delete subject id)).world id := by
  obtain ⟨_, hrun⟩ := run_induction e w (delete subject id)
    (fun w' s c _ h => (step_moves w' c s).deleting hw h) (.looksUp (.refl w))
  cases hrun with
  | looksUp h => exact .inl h
  | removes _ h => exact .inl h
  | clears hallowed hversions hblobs _ =>
    exact .inr ⟨hallowed, World.loses_of_blobs_eq hversions hblobs⟩
  | refused _ h => exact .inl h
  | done _ hallowed h => exact .inr ⟨hallowed, h⟩

/-! Answers. -/

def Stage.Withholds : Stage → Prop
  | .lookUp _ .download _ | .fetchArchive _ _ | .done (.ok (.archive _)) => False
  | _ => True

/-- A call that is not a download never comes to an archive as its answer. -/
theorem withholds_step {s : Stage} (h : s.Withholds) (w : World) (c : Circumstance) :
    (step w c s).stage.Withholds := by
  have hmoves := step_moves w c s
  generalize (step w c s).world = w' at hmoves
  generalize hnext : (step w c s).stage = next at hmoves ⊢
  -- no step leads to a look-up; only a download fetches, and only what is fetched is handed out
  cases next with
  | lookUp _ _ _ => contradiction
  | fetchArchive _ _ =>
    cases hmoves with
    | fetches _ _ => exact h.elim
  | done result =>
    cases result with
    | error _ => trivial
    | ok answer =>
      cases step_answers hnext with
      | archive _ => exact h.elim
      | rest _ => exact h
      | _ => trivial
  | _ => trivial

/-- What survives the steps of a call, and holds of every failure, holds of its answer. -/
theorem runFrom_answer (e : Setting) {P : Stage → Prop}
    (hstep : ∀ (s : Stage) (w : World) (c : Circumstance), P s → P (step w c s).stage)
    (hcut : ∀ f, P (.done (.error f))) (fuel : Nat) {w : World} {s : Stage}
    (events : List Log.Event) (h : P s) : P (.done (runFrom e fuel w s events).answer) := by
  induction fuel generalizing w s events with
  | zero =>
    unfold runFrom
    split
    · exact h
    · exact hcut _
    · contradiction
  | succ fuel ih =>
    unfold runFrom
    split
    · exact h
    · contradiction
    · next _ hfuel _ =>
      obtain rfl := Nat.succ.inj hfuel
      exact ih _ (hstep _ _ _ h)

/-- Only a download ends with an archive. -/
theorem run_withholds (e : Setting) (w : World) {opening : Opening} (h : opening.1.Withholds)
    (data : ByteArray) : (run e w opening).answer ≠ .ok (.archive data) := by
  intro harchive
  have hanswer := runFrom_answer e (P := Stage.Withholds) (fun s w c h => withholds_step h w c)
    (fun _ => trivial) maxSteps (w := w) opening.2 h
  have hrun : (runFrom e maxSteps w opening.1 opening.2).answer = .ok (.archive data) := harchive
  rw [hrun] at hanswer
  exact hanswer

/-- A creation that succeeds ends with the version that was made. -/
theorem run_create_answer (e : Setting) (w : World) (s : Subject) (suffix workspace : String)
    (options : Version.Options) (now : Time.Instant) {answer : Answer}
    (h : (run e w (create s suffix workspace options now)).answer = .ok answer) :
    answer = .version (Version.create suffix workspace options now) := by
  generalize hv : Version.create suffix workspace options now = v
  let P : Stage → Prop := fun stage =>
    stage = .createRecord v ∨ (∃ f, stage = .failed f) ∨ stage = .done (.ok (.version v))
  have hstep : ∀ (s : Stage) (w : World) (c : Circumstance), P s → P (step w c s).stage := by
    rintro _ w c (rfl | ⟨f, rfl⟩ | rfl)
    · simp only [step]
      split
      · exact .inr (.inr rfl)
      · exact .inr (.inl ⟨_, rfl⟩)
    · exact .inr (.inl ⟨f, rfl⟩)
    · exact .inr (.inr rfl)
  have hopening : P (create s suffix workspace options now).1 := by
    unfold create permitted
    split
    · exact .inl (congrArg Stage.createRecord hv)
    · exact .inr (.inl ⟨_, rfl⟩)
  have hend := runFrom_answer e hstep (fun f => .inr (.inl ⟨f, rfl⟩)) maxSteps (w := w)
    (create s suffix workspace options now).2 hopening
  have hrun : (runFrom e maxSteps w (create s suffix workspace options now).1
      (create s suffix workspace options now).2).answer = .ok answer := h
  rw [hrun] at hend
  rcases hend with hend | ⟨f, hend⟩ | hend
  · contradiction
  · simp [Stage.failed] at hend
  · exact Except.ok.inj (Stage.done.inj hend)

end ConfigRegistry.Service
