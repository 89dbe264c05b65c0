import ConfigRegistry.Proofs.Service.Completion
import ConfigRegistry.Service.Run

/-!
Uploads to one pending version. Whoever finds the version pending under its lock stores its archive
and settles the version before it lets go of the lock; everybody else finds the version settled and
is turned away. A store of archives may fail on any call, and a call that takes its time in it is
one that takes no step meanwhile.
-/
namespace ConfigRegistry.Service

/-- All calls upload to one version, and the records are never out of order. -/
def uploadsTo (id : String) : Regime where
  begins call := ∃ data, call = .upload id data
  meets c := c.store = none

def putAnswer (w : World) (c : Circumstance) (key : String) (data : ByteArray) :
    Except Blob.Fault Unit :=
  match c.blob with
  | some fault => .error fault
  | none => (w.blobs.put key data c.mark).1

namespace Pace

def touches (p : Pace) : Bool := p.stage.blobAccess?.isSome

/-- The step is a caller's attempt to store an archive of a version, with the answer it got. -/
structure Stores (p : Pace) (id : String) (caller : Nat) (data : ByteArray)
    (answer : Except Blob.Fault Unit) : Prop where
  caller : p.circumstance.caller = caller
  stage : ∃ g key, p.stage = .storeArchive g id key data ∧ Blob.keyOf id = .ok key ∧
    putAnswer p.world p.circumstance key data = answer

theorem filter_touches_append (log : List Pace) {p : Pace} (h : p.stage.blobAccess? = none) :
    (log ++ [p]).filter (·.touches) = log.filter (·.touches) := by
  simp [touches, h]

end Pace

/-- An upload of an archive that does not store it, as the record of the version now stands. -/
inductive Loses (maxSize : Nat) (id : String) (record : Version) (data : ByteArray) : Stage → Prop
  | oversize (h : maxSize < data.size) :
      Loses maxSize id record data (.done (.error (tooLarge maxSize)))
  | entering (h : data.size ≤ maxSize) : Loses maxSize id record data (.enterLock id data)
  | queueing (h : data.size ≤ maxSize) (g : Guard) (hg : g.id = id) :
      Loses maxSize id record data (.awaitLock g data)
  | checking (h : data.size ≤ maxSize) (g : Guard) (hg : g.id = id) :
      Loses maxSize id record data (.checkPending g data)
  | late (h : data.size ≤ maxSize) (hrecord : record.status ≠ .pending) :
      Loses maxSize id record data (.done (.error (already id record.status)))

/-- The upload that stores its archive, on a version that was pending: the record, the stored
archive, and the accesses to the store of archives so far, by how far the upload has come. -/
inductive Wins (id : String) (v : Version) (winner : Nat) (data : ByteArray) :
    Version → Option ByteArray → List Pace → Stage → Prop
  | storing {g : Guard} {key : String} {archive : Option ByteArray} (hg : g.id = id)
      (hkey : Blob.keyOf id = .ok key) :
      Wins id v winner data v archive [] (.storeArchive g id key data)
  | stored {g : Guard} {p : Pace} (hg : g.id = id) (hp : p.Stores id winner data (.ok ())) :
      Wins id v winner data v (some data) [p] (.markUploaded g id)
  | broken {g : Guard} {p : Pace} {archive : Option ByteArray} {fault : Blob.Fault}
      (hg : g.id = id) (hp : p.Stores id winner data (.error fault)) :
      Wins id v winner data v archive [p] (.markErrored g id (.storage fault.message))
  | uploaded {p : Pace} {moved : Version} {moment : Time.Instant}
      (hp : p.Stores id winner data (.ok ()))
      (hmoved : v.transition .uploaded moment = (.ok (), moved)) :
      Wins id v winner data moved (some data) [p] (.done (.ok (.version moved)))
  | errored {p : Pace} {moved : Version} {moment : Time.Instant} {archive : Option ByteArray}
      {fault : Blob.Fault} (hp : p.Stores id winner data (.error fault))
      (hmoved : v.transition .errored moment = (.ok (), moved)) :
      Wins id v winner data moved archive [p] (.done (.error (.storage fault.message)))

variable {maxSize : Nat} {id : String} {v record : Version} {w : World} {c : Circumstance}
  {data : ByteArray} {stage : Stage}

/-! Steps of an upload. -/

/-- While a version stays pending nobody is turned away, so nobody is when it is settled. -/
theorem Loses.settles (h : Loses maxSize id v data stage) (hpending : v.status = .pending) :
    Loses maxSize id record data stage := by
  cases h with
  | oversize h => exact .oversize h
  | entering h => exact .entering h
  | queueing h g hg => exact .queueing h g hg
  | checking h g hg => exact .checking h g hg
  | late h hrecord => exact absurd hpending hrecord

/-- A step of an upload that does not store its archive changes no record and no archive; and only
one that finds the version pending comes to store its archive. -/
theorem Loses.step (h : Loses maxSize id record data stage) (hstore : c.store = none)
    (hrecord : w.versions.get? id = some record) (hkeyed : record.id = id)
    (hid : Blob.isId id = true) :
    ((step w c stage).world.versions = w.versions ∧ (step w c stage).world.blobs = w.blobs ∧
      stage.blobAccess? = none) ∧
    (Loses maxSize id record data (step w c stage).stage ∨
      record.status = .pending ∧ data.size ≤ maxSize ∧ ∃ g key, g.id = id ∧
        stage = .checkPending g data ∧ Blob.keyOf id = .ok key ∧
        (step w c stage).stage = .storeArchive g id key data) := by
  cases h with
  | oversize h => exact ⟨⟨rfl, rfl, rfl⟩, .inl (.oversize h)⟩
  | late h hsettled => exact ⟨⟨rfl, rfl, rfl⟩, .inl (.late h hsettled)⟩
  | entering h =>
    refine ⟨⟨rfl, rfl, rfl⟩, .inl ?_⟩
    simp only [Service.step]
    split
    · exact .checking h _ rfl
    · exact .queueing h _ rfl
  | queueing h g hg =>
    simp only [Service.step]
    split
    · exact ⟨⟨rfl, rfl, rfl⟩, .inl (.checking h g hg)⟩
    · exact ⟨⟨rfl, rfl, rfl⟩, .inl (.queueing h g hg)⟩
  | checking h g hg =>
    subst hg
    obtain ⟨key, hkey⟩ : ∃ key, Blob.keyOf g.id = .ok key :=
      ⟨_, Blob.keyOf_eq_ok_iff.mpr ⟨hid, rfl⟩⟩
    by_cases hpending : record.status = .pending
    · have hstep : Service.step w c (.checkPending g data) =
          ⟨w, .storeArchive g g.id key data, []⟩ := by
        simp [Service.step, accessed, hstore, hrecord, hpending, hkeyed, hkey]
      rw [hstep]
      exact ⟨⟨rfl, rfl, rfl⟩, .inr ⟨hpending, h, g, key, rfl, rfl, hkey, rfl⟩⟩
    · have hstep : Service.step w c (.checkPending g data) =
          finish w g (.error (already g.id record.status)) [] := by
        simp [Service.step, accessed, hstore, hrecord, hpending]
      rw [hstep]
      exact ⟨⟨rfl, rfl, rfl⟩, .inl (.late h hpending)⟩

/-- What an upload that stores its archive does next is what the store answers it. -/
theorem step_storeArchive (hw : w.Sane) (g : Guard) (data : ByteArray) {key : String}
    (hkey : Blob.keyOf id = .ok key)
    (hmark : '/' ∉ c.mark.toList) :
    (step w c (.storeArchive g id key data)).world.versions = w.versions ∧
      (putAnswer w c key data = .ok () ∧
          (step w c (.storeArchive g id key data)).stage = .markUploaded g id ∧
          (step w c (.storeArchive g id key data)).world.blobs.archive? id = some data ∨
        ∃ fault, putAnswer w c key data = .error fault ∧
          (step w c (.storeArchive g id key data)).stage =
            .markErrored g id (.storage fault.message)) := by
  cases hblob : c.blob with
  | some fault => simp [step, putAnswer, hblob]
  | none =>
    cases hput : w.blobs.put key data c.mark with
    | mk result rest =>
      obtain ⟨blobs, events⟩ := rest
      cases result with
      | error fault => simp [step, putAnswer, hblob, hput]
      | ok done =>
        obtain ⟨_, ⟨_, hstored⟩ | ⟨⟨_, hfault⟩, _⟩⟩ :=
          Blob.Store.put_archive? hw.sound data hkey hmark hput
        · simp [step, putAnswer, hblob, hput, hstored]
        · contradiction

/-- A pending record can be settled. -/
theorem transition_of_pending (hrecord : w.versions.get? id = some v)
    (hpending : v.status = .pending) {next : Version.Status} (hnext : next ≠ .pending)
    (moment : Time.Instant) :
    ∃ moved, v.transition next moment = (.ok (), moved) ∧
      w.versions.transition id next moment = (.ok moved, w.versions.insert id moved) := by
  have hcan : v.status.canBecome next = true := by
    simp [Version.Status.canBecome, Version.Status.isTerminal, hpending, hnext]
  have hmoved : v.transition next moment = (.ok (),
      { v with status := next, timestamps := v.timestamps ++ [⟨next, moment⟩] }) := by
    simp [Version.transition, hcan]
  exact ⟨_, hmoved, by simp [Versions.transition, hrecord, hmoved, Except.map]⟩

/-- A step of the upload that stores its archive. -/
theorem Wins.step {winner : Nat} {touched : List Pace} (hw : w.Sane)
    (hrecord : w.versions.get? id = some record) (hpending : v.status = .pending)
    (h : Wins id v winner data record (w.blobs.archive? id) touched stage)
    (hcaller : c.caller = winner) (hstore : c.store = none) (hmark : '/' ∉ c.mark.toList) :
    ∃ record', (step w c stage).world.versions.get? id = some record' ∧
      (record' = record ∨ record = v) ∧
      Wins id v winner data record' ((step w c stage).world.blobs.archive? id)
        (touched ++ [⟨w, c, stage⟩].filter (·.touches)) (step w c stage).stage := by
  generalize harchive : w.blobs.archive? id = archive at h
  cases h with
  | @storing g key _ hg hkey =>
    obtain ⟨hversions, ⟨hanswer, hstage, hstored⟩ | ⟨fault, hanswer, hstage⟩⟩ :=
      step_storeArchive hw g data hkey hmark
    · rw [hversions, hstage, hstored]
      exact ⟨v, hrecord, .inl rfl, .stored hg ⟨hcaller, g, key, rfl, hkey, hanswer⟩⟩
    · rw [hversions, hstage]
      exact ⟨v, hrecord, .inl rfl, .broken hg ⟨hcaller, g, key, rfl, hkey, hanswer⟩⟩
  | @stored g p hg hp =>
    obtain ⟨moved, hmoved, htransition⟩ :=
      transition_of_pending hrecord hpending (show Version.Status.uploaded ≠ .pending by decide)
        c.now
    have hstep : Service.step w c (.markUploaded g id) =
        finish { w with versions := w.versions.insert id moved } g (.ok (.version moved))
          [⟨.info, "Uploaded configuration archive"⟩] := by
      simp [Service.step, changed, hstore, htransition]
    rw [hstep]
    refine ⟨moved, by simp [finish], .inr rfl, ?_⟩
    have harchive' : (finish { w with versions := w.versions.insert id moved } g
        (.ok (.version moved))
        [⟨.info, "Uploaded configuration archive"⟩]).world.blobs.archive? id = some data := harchive
    rw [harchive']
    exact .uploaded hp hmoved
  | @broken g p _ fault hg hp =>
    obtain ⟨moved, hmoved, htransition⟩ :=
      transition_of_pending hrecord hpending (show Version.Status.errored ≠ .pending by decide)
        c.now
    have hstep : Service.step w c (.markErrored g id (.storage fault.message)) =
        finish { w with versions := w.versions.insert id moved } g
          (.error (.storage fault.message)) [] := by
      simp [Service.step, changed, hstore, htransition]
    rw [hstep]
    exact ⟨moved, by simp [finish], .inr rfl, .errored hp hmoved⟩
  | uploaded hp hmoved =>
    refine ⟨record, hrecord, .inl rfl, ?_⟩
    simp only [Service.step, harchive]
    exact .uploaded hp hmoved
  | errored hp hmoved => exact ⟨record, hrecord, .inl rfl, .errored hp hmoved⟩

/-- The upload that stores its archive holds the lock of the version until the version is
settled. -/
theorem Wins.guarded {winner : Nat} {archive : Option ByteArray} {touched : List Pace}
    (h : Wins id v winner data record archive touched stage) :
    (∃ g, stage.held? = some g ∧ g.id = id) ∨ record.status ≠ .pending := by
  cases h with
  | storing hg _ => exact .inl ⟨_, rfl, hg⟩
  | stored hg _ => exact .inl ⟨_, rfl, hg⟩
  | broken hg _ => exact .inl ⟨_, rfl, hg⟩
  | uploaded _ hmoved =>
    obtain ⟨_, hnext, rfl⟩ := Version.transition_eq_ok hmoved
    exact .inr hnext
  | errored _ hmoved =>
    obtain ⟨_, hnext, rfl⟩ := Version.transition_eq_ok hmoved
    exact .inr hnext

namespace System

def Losing (maxSize : Nat) (id : String) (record : Version) (s : System) (caller : Nat) : Prop :=
  ∃ data stage, s.At caller (.upload id data) stage ∧ Loses maxSize id record data stage

/-- How far the uploads to a version that was pending have come: nobody has found it pending yet, or
one caller has. -/
inductive Contest (maxSize : Nat) (id : String) (v : Version) (s : System) (log : List Pace) : Prop
  | undecided (hrecord : s.world.versions.get? id = some v)
      (htouched : log.filter (·.touches) = [])
      (hlosing : ∀ caller < s.tasks.length, s.Losing maxSize id v caller)
  | decided {winner : Nat} {data : ByteArray} {record : Version} {stage : Stage}
      (hrecord : s.world.versions.get? id = some record)
      (hat : s.At winner (.upload id data) stage) (hfits : data.size ≤ maxSize)
      (hwins : Wins id v winner data record (s.world.blobs.archive? id)
        (log.filter (·.touches)) stage)
      (hlosing : ∀ caller < s.tasks.length, caller ≠ winner → s.Losing maxSize id record caller)

variable {s t : System} {log : List Pace}

theorem Losing.begun {caller : Nat} {call : Call} (h : s.Losing maxSize id record caller) :
    (s.begun maxSize call).Losing maxSize id record caller := by
  obtain ⟨data, stage, hat, hloses⟩ := h
  exact ⟨data, stage, at_begun.mpr (.inl hat), hloses⟩

/-- An upload begins as one that has not found the version pending. -/
theorem losing_new (maxSize : Nat) (id : String) (record : Version) (s : System)
    (data : ByteArray) :
    (s.begun maxSize (.upload id data)).Losing maxSize id record s.tasks.length := by
  refine ⟨data, _, at_begun.mpr (.inr ⟨rfl, rfl, rfl⟩), ?_⟩
  simp only [Call.opening, upload]
  split
  · next h => exact .oversize h
  · next h => exact .entering (Nat.not_lt.mp h)

theorem losing_begun (P : Nat → Prop) (data : ByteArray)
    (h : ∀ caller < s.tasks.length, P caller → s.Losing maxSize id record caller) :
    ∀ caller < (s.begun maxSize (.upload id data)).tasks.length, P caller →
      (s.begun maxSize (.upload id data)).Losing maxSize id record caller := by
  intro caller hlt hP
  by_cases hold : caller < s.tasks.length
  · exact (h caller hold hP).begun
  · have heq : caller = s.tasks.length := by
      simp [begun] at hlt
      omega
    exact heq ▸ losing_new maxSize id record s data

theorem Contest.begun (h : s.Contest maxSize id v log) (data : ByteArray) :
    (s.begun maxSize (.upload id data)).Contest maxSize id v log := by
  cases h with
  | undecided hrecord htouched hlosing =>
    have hnext := losing_begun (fun _ => True) data fun caller hlt _ => hlosing caller hlt
    exact .undecided hrecord htouched fun caller hlt => hnext caller hlt trivial
  | decided hrecord hat hfits hwins hlosing =>
    exact .decided hrecord (at_begun.mpr (.inl hat)) hfits hwins (losing_begun (· ≠ _) data hlosing)

/-- Everybody but the caller of a step is where they were. -/
theorem Losing.advanced {call : Call} {record' : Version} {caller : Nat}
    (h : s.Losing maxSize id record caller) (hat : s.At c.caller call stage)
    (hne : caller ≠ c.caller)
    (hrecord : record' = record ∨ record.status = .pending) :
    (s.advanced c call stage).Losing maxSize id record' caller := by
  obtain ⟨data, stage', hat', hloses⟩ := h
  refine ⟨data, stage', (at_advanced hat).mpr (by rwa [if_neg hne]), ?_⟩
  rcases hrecord with rfl | hpending
  · exact hloses
  · exact hloses.settles hpending

/-- A step of any caller leaves the contest undecided, or decided for one of them. -/
theorem Contest.advanced {call : Call} (hs : s.Staffed) (ho : s.Orderly maxSize)
    (hid : Blob.isId id = true) (hpending : v.status = .pending)
    (h : s.Contest maxSize id v log) (hat : s.At c.caller call stage)
    (hstore : c.store = none) (hmark : '/' ∉ c.mark.toList) :
    (s.advanced c call stage).Contest maxSize id v (log ++ [⟨s.world, c, stage⟩]) := by
  have hworld : (s.advanced c call stage).world = (step s.world c stage).world := rfl
  have hlength : (s.advanced c call stage).tasks.length = s.tasks.length := by
    simp [System.advanced]
  have hnow : (s.advanced c call stage).At c.caller call (step s.world c stage).stage :=
    (at_advanced hat).mpr (by simp)
  cases h with
  | undecided hrecord htouched hlosing =>
    obtain ⟨data, stage', hat', hloses⟩ := hlosing c.caller hat.lt
    obtain ⟨rfl, rfl⟩ := hat.unique hat'
    have hothers : ∀ caller < s.tasks.length, caller ≠ c.caller →
        (s.advanced c (.upload id data) stage).Losing maxSize id v caller :=
      fun caller hlt hne => (hlosing caller hlt).advanced hat hne (.inl rfl)
    obtain ⟨⟨hversions, hblobs, haccess⟩, hnext⟩ :=
      hloses.step (c := c) hstore hrecord (ho.sane.keyed id v hrecord) hid
    have htouched' := (Pace.filter_touches_append log (p := ⟨s.world, c, stage⟩) haccess).trans
      htouched
    -- the caller is turned away or waits, or it is the one that finds the version pending
    rcases hnext with hloses' | ⟨_, hfits, g, key, hg, rfl, hkey, hstage'⟩
    · refine .undecided (by rw [hworld, hversions, hrecord]) htouched' fun caller hlt => ?_
      by_cases hne : caller = c.caller
      · exact hne ▸ ⟨data, _, hnow, hloses'⟩
      · exact hothers caller (hlength ▸ hlt) hne
    · refine .decided (by rw [hworld, hversions, hrecord]) hnow hfits ?_
        fun caller hlt hne => hothers caller (hlength ▸ hlt) hne
      rw [htouched', hstage']
      exact .storing hg hkey
  | @decided winner data record stage' hrecord hat' hfits hwins hlosing =>
    by_cases hcaller : c.caller = winner
    · subst hcaller
      obtain ⟨rfl, rfl⟩ := hat.unique hat'
      obtain ⟨record', hrecord', hmoved, hwins'⟩ :=
        hwins.step ho.sane hrecord hpending rfl hstore hmark
      refine .decided hrecord' hnow hfits ?_ fun caller hlt hne => ?_
      · rw [List.filter_append]
        exact hwins'
      · refine (hlosing caller (hlength ▸ hlt) hne).advanced hat hne ?_
        rcases hmoved with heq | rfl
        · exact .inl heq
        · exact .inr hpending
    · obtain ⟨other, stage'', hat'', hloses⟩ := hlosing c.caller hat.lt hcaller
      obtain ⟨rfl, rfl⟩ := hat.unique hat''
      obtain ⟨⟨hversions, hblobs, haccess⟩, hnext⟩ :=
        hloses.step (c := c) hstore hrecord (ho.sane.keyed id record hrecord) hid
      have htouched := Pace.filter_touches_append log (p := ⟨s.world, c, stage⟩) haccess
      rcases hnext with hloses' | ⟨hunsettled, _, g, key, hg, rfl, _, _⟩
      · refine .decided (by rw [hworld, hversions, hrecord])
          ((at_advanced hat).mpr (by rwa [if_neg (Ne.symm hcaller)])) hfits ?_
          fun caller hlt hne => ?_
        · rw [hworld, hblobs, htouched]
          exact hwins
        · by_cases heq : caller = c.caller
          · exact heq ▸ ⟨other, _, hnow, hloses'⟩
          · exact (hlosing caller (hlength ▸ hlt) hne).advanced hat heq (.inl rfl)
      · -- whoever checks the record holds the lock, so the winner has let go of it
        rcases hwins.guarded with ⟨g', hg', hid'⟩ | hsettled
        · exact absurd (hs.locked.exclusive hat hat' rfl hg' (hg.trans hid'.symm)) hcaller
        · exact absurd hunsettled hsettled

/-- How a version is settled, and what the call is told that stored its archive or tried to, by the
answer of the store of archives. -/
inductive Settled (id : String) (v : Version) (winner : Nat) (data : ByteArray) (s : System)
    (moved : Version) : Except Blob.Fault Unit → Prop
  | stored {moment : Time.Instant} (hmoved : v.transition .uploaded moment = (.ok (), moved))
      (hstatus : moved.status = .uploaded) (harchive : s.world.blobs.archive? id = some data)
      (hanswer : s.At winner (.upload id data) (.done (.ok (.version moved)))) :
      Settled id v winner data s moved (.ok ())
  | failed {moment : Time.Instant} {fault : Blob.Fault}
      (hmoved : v.transition .errored moment = (.ok (), moved)) (hstatus : moved.status = .errored)
      (hanswer : s.At winner (.upload id data) (.done (.error (.storage fault.message)))) :
      Settled id v winner data s moved (.error fault)

/-- One caller alone accessed the store of archives, to store its archive of a version, and so
settled the version; all others whose archives fit were told that it was settled. -/
structure WonBy (maxSize : Nat) (id : String) (v : Version) (s : System) (log : List Pace)
    (winner : Nat) (data : ByteArray) (moved : Version) : Prop where
  fits : data.size ≤ maxSize
  record : s.world.versions.get? id = some moved
  settled : ∃ p answer, log.filter (·.touches) = [p] ∧ p.Stores id winner data answer ∧
    s.Settled id v winner data moved answer
  late : ∀ caller data answer, caller ≠ winner →
    s.At caller (.upload id data) (.done answer) → data.size ≤ maxSize →
      answer = .error (already id moved.status)

/-- What uploads to a version that was pending have come to once all of them have ended. -/
structure Concluded (maxSize : Nat) (id : String) (v : Version) (s : System)
    (log : List Pace) : Prop where
  answered : ∀ caller < s.tasks.length, ∃ data answer,
    s.At caller (.upload id data) (.done answer)
  oversize : ∀ caller data answer, s.At caller (.upload id data) (.done answer) →
    maxSize < data.size → answer = .error (tooLarge maxSize)
  won : ∀ caller data answer, s.At caller (.upload id data) (.done answer) →
    data.size ≤ maxSize → ∃ winner data moved, s.WonBy maxSize id v log winner data moved
  idle : (∀ caller data answer, s.At caller (.upload id data) (.done answer) →
    maxSize < data.size) → log.filter (·.touches) = [] ∧ s.world.versions.get? id = some v
  unlocked : s.world.locks.table.get? id = none

/-- The answer of an upload that did not store its archive. -/
theorem Losing.answer {caller : Nat} {answer : Except Failure Answer}
    (h : s.Losing maxSize id record caller)
    (hat : s.At caller (.upload id data) (.done answer)) :
    maxSize < data.size ∧ answer = .error (tooLarge maxSize) ∨
      data.size ≤ maxSize ∧ record.status ≠ .pending ∧
        answer = .error (already id record.status) := by
  obtain ⟨data', stage, hat', hloses⟩ := h
  obtain ⟨hcall, rfl⟩ := hat.unique hat'
  obtain ⟨_, rfl⟩ := Call.upload.inj hcall
  cases hloses with
  | oversize h => exact .inl ⟨h, rfl⟩
  | late h hrecord => exact .inr ⟨h, hrecord, rfl⟩

/-- Once nobody is under way, one upload that fits has won and all others are told so. -/
theorem Contest.concluded (h : s.Contest maxSize id v log) (hs : s.Staffed)
    (hpending : v.status = .pending) (hquiet : s.Quiet) : s.Concluded maxSize id v log := by
  have hunlocked := hs.unlocked hquiet id
  have hanswered : ∀ {caller : Nat} {record : Version}, s.Losing maxSize id record caller →
      ∃ data answer, s.At caller (.upload id data) (.done answer) := by
    rintro caller record ⟨data, stage, hat, _⟩
    obtain ⟨answer, rfl⟩ := hquiet _ _ _ hat
    exact ⟨data, answer, hat⟩
  cases h with
  | undecided hrecord htouched hlosing =>
    have hover : ∀ caller data answer, s.At caller (.upload id data) (.done answer) →
        maxSize < data.size ∧ answer = .error (tooLarge maxSize) := by
      intro caller data answer hat
      rcases (hlosing caller hat.lt).answer hat with hover | ⟨_, hsettled, _⟩
      · exact hover
      · exact absurd hpending hsettled
    exact {
      answered := fun caller hlt => hanswered (hlosing caller hlt)
      oversize := fun caller data answer hat _ => (hover caller data answer hat).2
      won := fun caller data answer hat hfits =>
        absurd hfits (Nat.not_le.mpr (hover caller data answer hat).1)
      idle := fun _ => ⟨htouched, hrecord⟩
      unlocked := hunlocked }
  | @decided winner data record stage hrecord hat hfits hwins hlosing =>
    obtain ⟨answer, rfl⟩ := hquiet _ _ _ hat
    have hlate : ∀ caller data answer, caller ≠ winner →
        s.At caller (.upload id data) (.done answer) → data.size ≤ maxSize →
          answer = .error (already id record.status) := by
      intro caller data answer hne hat hfits
      rcases (hlosing caller hat.lt hne).answer hat with ⟨hover, _⟩ | ⟨_, _, heq⟩
      · exact absurd hfits (Nat.not_le.mpr hover)
      · exact heq
    have hsettled : ∃ p answer, log.filter (·.touches) = [p] ∧
        p.Stores id winner data answer ∧ s.Settled id v winner data record answer := by
      generalize htouched : log.filter (·.touches) = touched at hwins
      generalize harchive : s.world.blobs.archive? id = archive at hwins
      cases hwins with
      | uploaded hp hmoved =>
        have hstatus := congrArg Version.status (Version.transition_eq_ok hmoved).2.2
        exact ⟨_, _, rfl, hp, .stored hmoved hstatus harchive hat⟩
      | errored hp hmoved =>
        have hstatus := congrArg Version.status (Version.transition_eq_ok hmoved).2.2
        exact ⟨_, _, rfl, hp, .failed hmoved hstatus hat⟩
    refine ⟨?_, ?_, ?_, ?_, hunlocked⟩
    · intro caller hlt
      by_cases hne : caller = winner
      · exact hne ▸ ⟨data, answer, hat⟩
      · exact hanswered (hlosing caller hlt hne)
    · intro caller data' answer' hat' hover
      by_cases hne : caller = winner
      · subst hne
        obtain ⟨hcall, _⟩ := hat.unique hat'
        obtain ⟨_, rfl⟩ := Call.upload.inj hcall
        exact absurd hfits (Nat.not_le.mpr hover)
      · rcases (hlosing caller hat'.lt hne).answer hat' with ⟨_, heq⟩ | ⟨hfits', _⟩
        · exact heq
        · exact absurd hfits' (Nat.not_le.mpr hover)
    · exact fun _ _ _ _ _ => ⟨winner, data, record, hfits, hrecord, hsettled, hlate⟩
    · exact fun hover => absurd hfits (Nat.not_le.mpr (hover winner data answer hat))

/-- A run of uploads to a pending version is such a contest, however its steps interleave. -/
theorem Runs.contest {w : World} (h : (⟨w, [], []⟩ : System).Runs maxSize (uploadsTo id) log t)
    (hw : w.Sane) (hunused : ∀ other, w.locks.table.get? other = none)
    (hid : Blob.isId id = true) (hv : w.versions.get? id = some v)
    (hpending : v.status = .pending) : t.Contest maxSize id v log := by
  have hstart : (⟨w, [], []⟩ : System).Orderly maxSize :=
    ⟨hw, fun caller call stage hat => by simp [At] at hat⟩
  induction h with
  | refl => exact .undecided hv rfl fun caller hlt => by simp at hlt
  | begins _ call hcall _ ih =>
    obtain ⟨data, rfl⟩ := hcall
    exact ih.begun data
  | advances h c hat hmark hstore ih =>
    exact ih.advanced (h.staffed (staffed_of_unused hunused)) (h.orderly hstart) hid hpending hat
      hstore (slash_not_mem_mark hmark)

/-- Any number of uploads to one pending version, that begin and take their steps in any order, all
come to an end; and then exactly one of those whose archives fit, if there are any, has accessed the
store of archives. If that stored its archive the version is uploaded with it and else errored, and
all others are turned away. -/
theorem one_upload_stores {w : World} (hw : w.Sane)
    (hunused : ∀ other, w.locks.table.get? other = none) (hid : Blob.isId id = true)
    (hv : w.versions.get? id = some v) (hpending : v.status = .pending)
    (h : (⟨w, [], []⟩ : System).Runs maxSize (uploadsTo id) log t) :
    (t.Quiet → t.Concluded maxSize id v log) ∧
      ∃ more u, t.Runs maxSize (uploadsTo id).closed more u ∧ u.Quiet ∧
        u.Concluded maxSize id v (log ++ more) := by
  have hconcluded : ∀ {log : List Pace} {t : System},
      (⟨w, [], []⟩ : System).Runs maxSize (uploadsTo id) log t → t.Quiet →
        t.Concluded maxSize id v log := fun h hquiet =>
    (h.contest hw hunused hid hv hpending).concluded (h.staffed (staffed_of_unused hunused))
      hpending hquiet
  have hmeets : ∀ caller, ∃ c, (uploadsTo id).meets c ∧ c.caller = caller ∧
      ∃ u : Uuid, c.mark = u.render :=
    fun caller => ⟨⟨caller, ⟨0, 0⟩, (Uuid.ofRandom []).render, none, none⟩, rfl, rfl, _, rfl⟩
  obtain ⟨more, u, hmore, hquiet⟩ := (h.staffed (staffed_of_unused hunused)).completes hmeets
  exact ⟨hconcluded h, more, u, hmore, hquiet, hconcluded (h.trans hmore.of_closed) hquiet⟩

/-! Two uploads of one version that take turns. -/

def onePending : World :=
  ⟨Table.empty.insert "cv-a" (Version.create "a" "ws" ⟨true, false, .api, none⟩ ⟨0, 0⟩), .empty,
    .empty⟩

/-- Two callers upload to the version; the first of them goes first. -/
def duel : System :=
  System.staged ⟨onePending, [], []⟩ 4 [.upload "cv-a" ⟨#[1, 2]⟩, .upload "cv-a" ⟨#[3]⟩]
    [0, 1, 0, 0, 0, 1, 1]

theorem onePending_sane : onePending.Sane :=
  ⟨Versions.keyed_empty.insert rfl, trivial⟩

theorem duel_runs : ∃ log, (⟨onePending, [], []⟩ : System).Runs 4 (uploadsTo "cv-a") log duel :=
  runs_staged (by simp [Call.drawn?, uploadsTo]) (fun _ => rfl) _ _

theorem duel_quiet : duel.Quiet := quiet_of_toil rfl

theorem duel_concluded : ∃ log v,
    (⟨onePending, [], []⟩ : System).Runs 4 (uploadsTo "cv-a") log duel ∧
    onePending.versions.get? "cv-a" = some v ∧ v.status = .pending ∧ duel.Quiet ∧
      duel.Concluded 4 "cv-a" v log := by
  obtain ⟨log, hruns⟩ := duel_runs
  exact ⟨log, _, hruns, rfl, rfl, duel_quiet,
    (one_upload_stores onePending_sane (fun _ => rfl) rfl rfl rfl hruns).1 duel_quiet⟩

end System

end ConfigRegistry.Service
