import ConfigRegistry.Service.Basic

/-!
Running calls to their end: one by itself, or several that take turns. A call keeps its turn until
it is done, queues for a lock, or pauses.
-/
namespace ConfigRegistry.Service

namespace Stage

def storeAccess? : Stage → Option Store.Access
  | .createRecord _ => some .create
  | .listRecords _ _ => some .list
  | .latestRecord _ => some .latest
  | .lookUp _ _ _ => some .get
  | .removeRecord _ => some .delete
  | .checkPending _ _ => some .get
  | .markUploaded _ _ => some .transition
  | .markErrored _ _ _ => some .transition
  | _ => none

def blobAccess? : Stage → Option Blob.Access
  | .fetchArchive _ _ => some .get
  | .removeArchive _ => some .delete
  | .storeArchive _ _ _ _ => some .put
  | _ => none

/-- How often a call pauses before its next step. -/
def pauses (s : Stage) (o : Outages) : Nat := (s.blobAccess?.map o.pauses).getD 0

end Stage

/-- When calls run, and what is out of order meanwhile. -/
structure Setting where
  outages : Outages
  now : Time.Instant
  mark : String

def Setting.circumstance (e : Setting) (caller : Nat) (s : Stage) : Circumstance :=
  { caller
    now := e.now
    mark := e.mark
    store := s.storeAccess?.bind e.outages.ofStore
    blob := s.blobAccess?.bind e.outages.blobFault? }

/-- What a call that ran by itself leaves behind. -/
structure Result where
  world : World
  answer : Except Failure Answer
  events : List Log.Event

def maxSteps : Nat := 8

def runFrom (e : Setting) : Nat → World → Stage → List Log.Event → Result
  | _, w, .done answer, events => ⟨w, answer, events⟩
  | 0, w, _, events => ⟨w, .error (.internal "the call did not end"), events⟩
  | fuel + 1, w, s, events =>
    let o := step w (e.circumstance 0 s) s
    runFrom e fuel o.world o.stage (events ++ o.events)

/-- Runs a call by itself. An upload comes to its end so while nobody holds its lock. Beside another
upload of its version it would have to wait, and is cut short here. -/
def run (e : Setting) (w : World) (opening : Opening) : Result :=
  runFrom e maxSteps w opening.1 opening.2

/-- A call that takes turns with others, and how often it has paused before its next step. -/
structure Turn where
  stage : Stage
  paused : Nat

def turn (e : Setting) (caller : Nat) : Nat → World → Turn → World × Turn × List Log.Event
  | 0, w, t => (w, t, [])
  | fuel + 1, w, t =>
    match t.stage with
    | .done _ => (w, t, [])
    | s =>
      if t.paused < s.pauses e.outages then (w, { t with paused := t.paused + 1 }, [])
      else
        let o := step w (e.circumstance caller s) s
        match o.stage with
        | .awaitLock g data => (o.world, ⟨.awaitLock g data, 0⟩, o.events)
        | next =>
          let (w, t, events) := turn e caller fuel o.world ⟨next, 0⟩
          (w, t, o.events ++ events)

def round (e : Setting) : Nat → World → List Turn → World × List Turn × List Log.Event
  | _, w, [] => (w, [], [])
  | caller, w, t :: rest =>
    let (w, t, events) := turn e caller maxSteps w t
    let (w, rest, more) := round e (caller + 1) w rest
    (w, t :: rest, events ++ more)

def isDone (t : Turn) : Bool :=
  match t.stage with
  | .done _ => true
  | _ => false

def rounds (e : Setting) : Nat → World → List Turn → List Log.Event →
    World × List Turn × List Log.Event
  | 0, w, ts, events => (w, ts, events)
  | fuel + 1, w, ts, events =>
    if ts.all isDone then (w, ts, events)
    else
      let (w, ts, more) := round e 0 w ts
      rounds e fuel w ts (events ++ more)

/-- Runs calls that take turns. Every round ends a call, moves one on, or uses up a pause. -/
def together (e : Setting) (w : World) (openings : List Opening) :
    World × List (Except Failure Answer) × List Log.Event :=
  let limit := (openings.length + 1) * (e.outages.pauses .put + maxSteps)
  let (w, ts, events) :=
    rounds e limit w (openings.map fun o => ⟨o.1, 0⟩) (openings.map Prod.snd).flatten
  (w, ts.map fun t =>
    match t.stage with
    | .done answer => answer
    | _ => .error (.internal "the call did not end"), events)

end ConfigRegistry.Service
