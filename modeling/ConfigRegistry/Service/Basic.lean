import ConfigRegistry.Access
import ConfigRegistry.Blob.Store
import ConfigRegistry.Service.Locks
import ConfigRegistry.Store.Outage
import ConfigRegistry.Store.Versions

/-!
The life of versions, as a machine of small steps. A call to the service moves through stages; from
one stage to the next it accesses one store at most, and other calls may step in between. An upload
checks, stores and marks its version under the lock of the version; all else works without locks.
-/
namespace ConfigRegistry.Service

/-- What all calls share. -/
structure World where
  versions : Versions
  blobs : Blob.Store
  locks : Locks

def World.empty : World := ⟨.empty, .empty, .empty⟩

/-- A lock that a call holds or queues for. -/
structure Guard where
  id : String
  number : Nat
deriving DecidableEq, Repr

/-- What a version is looked up for, and by whom. -/
inductive Purpose where
  | get
  | download
  | delete
deriving DecidableEq, Repr

def Purpose.action : Purpose → Action
  | .get => .get
  | .download => .download
  | .delete => .delete

/-- What a call ends with if it succeeds. -/
inductive Answer where
  | version (v : Version)
  | page (p : Page Version)
  | archive (data : ByteArray)
  | deleted

/-- A call, as what it does next. -/
inductive Stage where
  | createRecord (v : Version)
  | listRecords (workspace : String) (o : Page.Options)
  | latestRecord (workspace : String)
  | lookUp (s : Subject) (purpose : Purpose) (id : String)
  | fetchArchive (id key : String)
  | removeRecord (id : String)
  | removeArchive (key : String)
  | enterLock (id : String) (data : ByteArray)
  | awaitLock (g : Guard) (data : ByteArray)
  | checkPending (g : Guard) (data : ByteArray)
  | storeArchive (g : Guard) (id key : String) (data : ByteArray)
  | markUploaded (g : Guard) (id : String)
  | markErrored (g : Guard) (id : String) (cause : Failure)
  | done (answer : Except Failure Answer)

namespace Stage

def failed (f : Failure) : Stage := .done (.error f)

end Stage

def tooLarge (maxSize : Nat) : Failure :=
  .payloadTooLarge ("configuration version exceeds maximum size (" ++ toString maxSize ++ " bytes)")

def noLatest (workspace : String) : Failure :=
  .notFound ("workspace " ++ workspace ++ " has no configuration versions")

def noArchive (id : String) : Failure :=
  .notFound ("configuration version " ++ id ++ " has no uploaded configuration")

def already (id : String) (s : Version.Status) : Failure :=
  .conflict ("configuration version " ++ id ++ " is already " ++ s.name)

/-- A call and what it reports before its first step. -/
abbrev Opening := Stage × List Log.Event

/-- A call that needs permission before it starts. -/
def permitted (s : Subject) (action : Action) (next : Stage) : Opening :=
  match s.authorize action with
  | .ok () => (next, [])
  | .error f => (.failed f, [Subject.denialEvent])

def create (s : Subject) (suffix workspace : String) (options : Version.Options)
    (now : Time.Instant) : Opening :=
  permitted s .create (.createRecord (Version.create suffix workspace options now))

def list (s : Subject) (workspace : String) (o : Page.Options) : Opening :=
  permitted s .list (.listRecords workspace o)

def latest (s : Subject) (workspace : String) : Opening :=
  permitted s .get (.latestRecord workspace)

def get (s : Subject) (id : String) : Opening := (.lookUp s .get id, [])

def download (s : Subject) (id : String) : Opening := (.lookUp s .download id, [])

def delete (s : Subject) (id : String) : Opening := (.lookUp s .delete id, [])

/-- An archive above the greatest size is refused before anything else. -/
def upload (maxSize : Nat) (id : String) (data : ByteArray) : Opening :=
  if maxSize < data.size then (.failed (tooLarge maxSize), []) else (.enterLock id data, [])

/-- The circumstances of one step: who makes it and when, the name of a file that does not exist
yet, and what is out of order. -/
structure Circumstance where
  caller : Nat
  now : Time.Instant
  mark : String
  store : Option Store.Outage
  blob : Option Blob.Fault

/-- What a step leads to. -/
structure Outcome where
  world : World
  stage : Stage
  events : List Log.Event

/-- What an access to the records gives, unless it is out of order. -/
def accessed {α : Type} (outage : Option Store.Outage) (missing : α) (a : Except Failure α) :
    Except Failure α :=
  match outage with
  | none => a
  | some (.fail f) => .error f
  | some .missing => .ok missing
  | some .hang => .ok missing

def effected {α : Type} (outage : Option Store.Outage) (a : Except Failure α) : Except Failure α :=
  match outage with
  | some (.fail f) => .error f
  | _ => a

/-- A change to the records, unless it is out of order. -/
def changed {α : Type} (outage : Option Store.Outage) (vs : Versions)
    (a : Except Failure α × Versions) : Except Failure α × Versions :=
  match outage with
  | some (.fail f) => (.error f, vs)
  | _ => a

def finish (w : World) (g : Guard) (answer : Except Failure Answer) (events : List Log.Event) :
    Outcome :=
  ⟨{ w with locks := w.locks.release g.id g.number }, .done answer, events⟩

def found (s : Subject) (purpose : Purpose) (id : String) (v : Version) : Opening :=
  match s.authorize purpose.action with
  | .error f => (.failed f, [Subject.denialEvent])
  | .ok () =>
    match purpose with
    | .get => (.done (.ok (.version v)), [])
    | .delete => (.removeRecord v.id, [])
    | .download =>
      match Blob.keyOf v.id with
      | .ok key => (.fetchArchive id key, [])
      | .error fault => (.failed fault.toFailure, [])

/-- One step of a call. A call that is done, or queues for a lock, stays where it is. -/
def step (w : World) (c : Circumstance) : Stage → Outcome
  | .createRecord v =>
    match changed c.store w.versions (w.versions.create v) with
    | (.ok (), versions) =>
      ⟨{ w with versions }, .done (.ok (.version v)), [⟨.info, "Created configuration version"⟩]⟩
    | (.error f, versions) => ⟨{ w with versions }, .failed f, []⟩
  | .listRecords workspace o =>
    match effected c.store (.ok (w.versions.page workspace o)) with
    | .ok p => ⟨w, .done (.ok (.page p)), []⟩
    | .error f => ⟨w, .failed f, []⟩
  | .latestRecord workspace =>
    match accessed c.store none (.ok (w.versions.latest? workspace)) with
    | .ok (some v) => ⟨w, .done (.ok (.version v)), []⟩
    | .ok none => ⟨w, .failed (noLatest workspace), []⟩
    | .error f => ⟨w, .failed f, []⟩
  | .lookUp s purpose id =>
    match accessed c.store none (.ok (w.versions.get? id)) with
    | .ok (some v) => ⟨w, (found s purpose id v).1, (found s purpose id v).2⟩
    | .ok none => ⟨w, .failed (Versions.missing id), []⟩
    | .error f => ⟨w, .failed f, []⟩
  | .fetchArchive id key =>
    match c.blob with
    | some (.notFound _) => ⟨w, .failed (noArchive id), []⟩
    | some fault => ⟨w, .failed fault.toFailure, []⟩
    | none =>
      match w.blobs.get key with
      | (.ok data, events) => ⟨w, .done (.ok (.archive data)), events⟩
      | (.error (.notFound _), events) => ⟨w, .failed (noArchive id), events⟩
      | (.error fault, events) => ⟨w, .failed fault.toFailure, events⟩
  | .removeRecord id =>
    match accessed c.store false (.ok (w.versions.contains id)) with
    | .error f => ⟨w, .failed f, []⟩
    | .ok false => ⟨w, .failed (Versions.missing id), []⟩
    | .ok true =>
      let w := { w with versions := w.versions.erase id }
      match Blob.keyOf id with
      | .ok key => ⟨w, .removeArchive key, []⟩
      | .error fault => ⟨w, .failed fault.toFailure, []⟩
  | .removeArchive key =>
    let warning : Log.Event := ⟨.warn, "Failed to remove configuration archive"⟩
    let note : Log.Event := ⟨.info, "Deleted configuration version"⟩
    match c.blob with
    | some _ => ⟨w, .done (.ok .deleted), [warning, note]⟩
    | none =>
      match w.blobs.delete key with
      | (.ok (), blobs, events) => ⟨{ w with blobs }, .done (.ok .deleted), events ++ [note]⟩
      | (.error _, blobs, events) =>
        ⟨{ w with blobs }, .done (.ok .deleted), events ++ [warning, note]⟩
  | .enterLock id data =>
    let (number, locks) := w.locks.enter id c.caller
    ⟨{ w with locks },
      if locks.holds number c.caller then .checkPending ⟨id, number⟩ data
      else .awaitLock ⟨id, number⟩ data, []⟩
  | .awaitLock g data =>
    if w.locks.holds g.number c.caller then ⟨w, .checkPending g data, []⟩
    else ⟨w, .awaitLock g data, []⟩
  | .checkPending g data =>
    match accessed c.store none (.ok (w.versions.get? g.id)) with
    | .error f => finish w g (.error f) []
    | .ok none => finish w g (.error (Versions.missing g.id)) []
    | .ok (some v) =>
      if v.status ≠ .pending then finish w g (.error (already g.id v.status)) []
      else
        match Blob.keyOf v.id with
        | .ok key => ⟨w, .storeArchive g v.id key data, []⟩
        | .error fault => finish w g (.error fault.toFailure) []
  | .storeArchive g id key data =>
    let broken := fun (w : World) (fault : Blob.Fault) (events : List Log.Event) =>
      (⟨w, .markErrored g id (.storage fault.message),
        events ++ [⟨.error, "Failed to store configuration archive"⟩]⟩ : Outcome)
    match c.blob with
    | some fault => broken w fault []
    | none =>
      match w.blobs.put key data c.mark with
      | (.ok (), blobs, events) => ⟨{ w with blobs }, .markUploaded g id, events⟩
      | (.error fault, blobs, events) => broken { w with blobs } fault events
  | .markUploaded g id =>
    match changed c.store w.versions (w.versions.transition id .uploaded c.now) with
    | (.error f, versions) => finish { w with versions } g (.error f) []
    | (.ok v, versions) =>
      finish { w with versions } g (.ok (.version v)) [⟨.info, "Uploaded configuration archive"⟩]
  | .markErrored g id cause =>
    match changed c.store w.versions (w.versions.transition id .errored c.now) with
    | (.error _, versions) =>
      finish { w with versions } g (.error cause)
        [⟨.error, "Failed to mark configuration version errored"⟩]
    | (.ok _, versions) => finish { w with versions } g (.error cause) []
  | .done answer => ⟨w, .done answer, []⟩

/-- A call is given up, as when its client goes away: an upload lets go of its lock. -/
def abandon (w : World) (caller : Nat) : Stage → World
  | .awaitLock g _ => { w with locks := w.locks.abandon g.number caller }
  | .checkPending g _ | .storeArchive g _ _ _ | .markUploaded g _ | .markErrored g _ _ =>
    { w with locks := w.locks.release g.id g.number }
  | _ => w

end ConfigRegistry.Service
