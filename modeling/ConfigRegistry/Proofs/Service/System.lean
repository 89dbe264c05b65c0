import ConfigRegistry.Proofs.Blob.Archives
import ConfigRegistry.Proofs.Service.Moves
import ConfigRegistry.Uuid

/-!
Any number of calls to one service that interleave in any order. Calls begin at any time; each of
them takes its steps, among which those of others may come, with anything out of order at any step;
a caller may give up between two steps. Beside the world a run keeps what every step did to the
records.
-/
namespace ConfigRegistry.Service

/-- What a caller asks for. -/
inductive Call where
  | create (s : Subject) (suffix workspace : String) (options : Version.Options)
      (now : Time.Instant)
  | list (s : Subject) (workspace : String) (o : Page.Options)
  | latest (s : Subject) (workspace : String)
  | get (s : Subject) (id : String)
  | download (s : Subject) (id : String)
  | delete (s : Subject) (id : String)
  | upload (id : String) (data : ByteArray)

namespace Call

def opening (maxSize : Nat) : Call → Opening
  | .create s suffix workspace options now => Service.create s suffix workspace options now
  | .list s workspace o => Service.list s workspace o
  | .latest s workspace => Service.latest s workspace
  | .get s id => Service.get s id
  | .download s id => Service.download s id
  | .delete s id => Service.delete s id
  | .upload id data => Service.upload maxSize id data

/-- The random part of the identifier of a new version. -/
def drawn? : Call → Option String
  | .create _ suffix _ _ _ => some suffix
  | _ => none

end Call

/-- The stages at which calls begin. -/
inductive Opens (maxSize : Nat) : Call → Stage → Prop
  | refuses (call : Call) (f : Failure) : Opens maxSize call (.failed f)
  | creates (s : Subject) (suffix workspace : String) (options : Version.Options)
      (now : Time.Instant) :
      Opens maxSize (.create s suffix workspace options now)
        (.createRecord (Version.create suffix workspace options now))
  | lists (s : Subject) (workspace : String) (o : Page.Options) :
      Opens maxSize (.list s workspace o) (.listRecords workspace o)
  | latest (s : Subject) (workspace : String) :
      Opens maxSize (.latest s workspace) (.latestRecord workspace)
  | gets (s : Subject) (id : String) : Opens maxSize (.get s id) (.lookUp s .get id)
  | downloads (s : Subject) (id : String) :
      Opens maxSize (.download s id) (.lookUp s .download id)
  | deletes (s : Subject) (id : String) : Opens maxSize (.delete s id) (.lookUp s .delete id)
  | uploads {id : String} {data : ByteArray} (h : data.size ≤ maxSize) :
      Opens maxSize (.upload id data) (.enterLock id data)

theorem opens_permitted {maxSize : Nat} {call : Call} {next : Stage} (s : Subject)
    (action : Action) (h : Opens maxSize call next) :
    Opens maxSize call (permitted s action next).1 := by
  unfold permitted
  split
  · exact h
  · exact .refuses call _

/-- A call opens at the first stage of its kind, or is refused at once. -/
theorem opening_opens (maxSize : Nat) (call : Call) :
    Opens maxSize call (call.opening maxSize).1 := by
  cases call with
  | create s suffix workspace options now => exact opens_permitted s .create (.creates s ..)
  | list s workspace o => exact opens_permitted s .list (.lists s workspace o)
  | latest s workspace => exact opens_permitted s .get (.latest s workspace)
  | get s id => exact .gets s id
  | download s id => exact .downloads s id
  | delete s id => exact .deletes s id
  | upload id data =>
    simp only [Call.opening, upload]
    split
    · exact .refuses _ _
    · next h => exact .uploads (Nat.not_lt.mp h)

/-- A call and how far it has come, unless it was given up. -/
structure Task where
  call : Call
  stage : Option Stage

/-- A step of a caller, as the records before it and after it. -/
structure Entry where
  caller : Nat
  before : Versions
  after : Versions

namespace Entry

/-- Whether the step moves a version out of its pending status. -/
def settles (e : Entry) (id : String) : Bool :=
  ((e.before.get? id).any fun v => v.status == .pending) &&
    (e.after.get? id).any fun v => v.status != .pending

def removes (e : Entry) (id : String) : Bool := e.before.contains id && !e.after.contains id

end Entry

/-- A step of a run: the world it was taken in, its circumstances, and the stage it was taken
from. -/
structure Pace where
  world : World
  circumstance : Circumstance
  stage : Stage

/-- Which calls begin in a run, and what the steps of calls meet with. -/
structure Regime where
  begins : Call → Prop
  meets : Circumstance → Prop

def Regime.any : Regime := ⟨fun _ => True, fun _ => True⟩

structure System where
  world : World
  /-- All calls in the order in which they began. -/
  tasks : List Task
  /-- All steps so far, the oldest first. -/
  history : List Entry

namespace System

def start (blobs : Blob.Store) : System := ⟨⟨.empty, blobs, .empty⟩, [], []⟩

def At (s : System) (caller : Nat) (call : Call) (stage : Stage) : Prop :=
  s.tasks[caller]? = some ⟨call, some stage⟩

def begun (s : System) (maxSize : Nat) (call : Call) : System :=
  { s with tasks := s.tasks ++ [⟨call, some (call.opening maxSize).1⟩] }

def entry (s : System) (c : Circumstance) (stage : Stage) : Entry :=
  ⟨c.caller, s.world.versions, (step s.world c stage).world.versions⟩

def advanced (s : System) (c : Circumstance) (call : Call) (stage : Stage) : System :=
  let o := step s.world c stage
  ⟨o.world, s.tasks.set c.caller ⟨call, some o.stage⟩, s.history ++ [s.entry c stage]⟩

def abandoned (s : System) (caller : Nat) (call : Call) (stage : Stage) : System :=
  { s with
    world := abandon s.world caller stage
    tasks := s.tasks.set caller ⟨call, none⟩ }

/-- One change: a call begins with a random part that no other call drew, a call takes a step, or a
caller gives up. -/
inductive Changes (maxSize : Nat) (s : System) : System → Prop
  | begins (call : Call)
      (hfresh : ∀ suffix, call.drawn? = some suffix → ∀ t ∈ s.tasks, t.call.drawn? ≠ some suffix) :
      Changes maxSize s (s.begun maxSize call)
  | advances {call : Call} {stage : Stage} (c : Circumstance) (h : s.At c.caller call stage)
      (hmark : ∃ u : Uuid, c.mark = u.render) : Changes maxSize s (s.advanced c call stage)
  | abandons {caller : Nat} {call : Call} {stage : Stage} (h : s.At caller call stage) :
      Changes maxSize s (s.abandoned caller call stage)

/-- Any number of changes. -/
inductive Reaches (maxSize : Nat) (s : System) : System → Prop
  | refl : Reaches maxSize s s
  | step {t u : System} (h : Reaches maxSize s t) (hchange : Changes maxSize t u) :
      Reaches maxSize s u

/-- A run in which nobody gives up, with its steps, the oldest first. -/
inductive Runs (maxSize : Nat) (r : Regime) (s : System) : List Pace → System → Prop
  | refl : Runs maxSize r s [] s
  | begins {log : List Pace} {t : System} (h : Runs maxSize r s log t) (call : Call)
      (hcall : r.begins call)
      (hfresh : ∀ suffix, call.drawn? = some suffix →
        ∀ task ∈ t.tasks, task.call.drawn? ≠ some suffix) :
      Runs maxSize r s log (t.begun maxSize call)
  | advances {log : List Pace} {t : System} {call : Call} {stage : Stage}
      (h : Runs maxSize r s log t) (c : Circumstance) (hat : t.At c.caller call stage)
      (hmark : ∃ u : Uuid, c.mark = u.render) (hmeets : r.meets c) :
      Runs maxSize r s (log ++ [⟨t.world, c, stage⟩]) (t.advanced c call stage)

def Reachable (maxSize : Nat) (s : System) : Prop :=
  ∃ blobs : Blob.Store, blobs.Opened ∧ (start blobs).Reaches maxSize s

/-! Who is where after a change. -/

variable {s : System} {maxSize caller other : Nat} {call call' : Call} {stage stage' : Stage}

/-- A call that begins stands behind all others and moves none of them. -/
theorem at_begun :
    (s.begun maxSize call).At other call' stage' ↔
      s.At other call' stage' ∨
        other = s.tasks.length ∧ call' = call ∧ stage' = (call.opening maxSize).1 := by
  unfold At begun
  rcases Nat.lt_trichotomy other s.tasks.length with hlt | rfl | hgt
  · rw [List.getElem?_append_left hlt]
    have hne : other ≠ s.tasks.length := by omega
    simp [hne]
  · simp [eq_comm]
  · have hnone : s.tasks[other]? = none := List.getElem?_eq_none (by omega)
    have hnone' : (s.tasks ++ [⟨call, some (call.opening maxSize).1⟩])[other]? = none :=
      List.getElem?_eq_none (by simp; omega)
    have hne : other ≠ s.tasks.length := by omega
    simp [hnone, hnone', hne]

theorem at_set {task : Task} (h : caller < s.tasks.length) :
    (s.tasks.set caller task)[other]? = some ⟨call', some stage'⟩ ↔
      if other = caller then task = ⟨call', some stage'⟩ else s.At other call' stage' := by
  unfold At
  by_cases ho : other = caller
  · subst ho
    simp [h]
  · simp [ho, List.getElem?_set_ne (Ne.symm ho)]

theorem At.lt (h : s.At caller call stage) : caller < s.tasks.length :=
  (List.getElem?_eq_some_iff.mp h).1

/-- A caller has one call, at one stage. -/
theorem At.unique (h : s.At caller call stage) (h' : s.At caller call' stage') :
    call = call' ∧ stage = stage' := by
  obtain ⟨hcall, hstage⟩ := Task.mk.inj (Option.some.inj (h.symm.trans h'))
  exact ⟨hcall, Option.some.inj hstage⟩

theorem at_advanced {c : Circumstance} (h : s.At c.caller call stage) :
    (s.advanced c call stage).At other call' stage' ↔
      if other = c.caller then call' = call ∧ stage' = (step s.world c stage).stage
      else s.At other call' stage' := by
  refine (at_set h.lt).trans ?_
  by_cases ho : other = c.caller
  · simp [ho, eq_comm]
  · simp [ho]

theorem at_abandoned (h : s.At caller call stage) :
    (s.abandoned caller call stage).At other call' stage' ↔
      other ≠ caller ∧ s.At other call' stage' := by
  refine (at_set h.lt).trans ?_
  by_cases ho : other = caller
  · simp [ho]
  · simp [ho]

/-! Runs. -/

theorem Reaches.trans {t u : System} (h : s.Reaches maxSize t) (h' : t.Reaches maxSize u) :
    s.Reaches maxSize u := by
  induction h' with
  | refl => exact h
  | step _ hchange ih => exact .step ih hchange

/-- What holds at the start and survives every change holds after every run. -/
theorem Reaches.induction {P : System → Prop} {t : System} (h : s.Reaches maxSize t) (hs : P s)
    (hchange : ∀ {t u : System}, P t → t.Changes maxSize u → P u) : P t := by
  induction h with
  | refl => exact hs
  | step _ hstep ih => exact hchange ih hstep

/-! Runs with their steps. -/

variable {t u : System} {r : Regime} {log more : List Pace}

theorem Runs.reaches (h : s.Runs maxSize r log t) : s.Reaches maxSize t := by
  induction h with
  | refl => exact .refl
  | begins _ call _ hfresh ih => exact .step ih (.begins call hfresh)
  | advances _ c hat hmark _ ih => exact .step ih (.advances c hat hmark)

theorem Runs.trans (h : s.Runs maxSize r log t) (h' : t.Runs maxSize r more u) :
    s.Runs maxSize r (log ++ more) u := by
  induction h' with
  | refl => simpa using h
  | begins _ call hcall hfresh ih => exact .begins ih call hcall hfresh
  | advances _ c hat hmark hmeets ih =>
    rw [← List.append_assoc]
    exact .advances ih c hat hmark hmeets

/-! Callers who take turns. -/

def proceed (s : System) (caller : Nat) : System :=
  match s.tasks[caller]? with
  | some ⟨call, some stage⟩ =>
    s.advanced ⟨caller, ⟨0, 0⟩, (Uuid.ofRandom []).render, none, none⟩ call stage
  | _ => s

def staged (s : System) (maxSize : Nat) (calls : List Call) (turns : List Nat) : System :=
  turns.foldl proceed (calls.foldl (begun · maxSize ·) s)

/-- Callers go on in any order that is given, while nothing goes wrong. -/
theorem runs_foldl_proceed
    (hmeets : ∀ caller, r.meets ⟨caller, ⟨0, 0⟩, (Uuid.ofRandom []).render, none, none⟩)
    (callers : List Nat) (s : System) : ∃ log, s.Runs maxSize r log (callers.foldl proceed s) := by
  induction callers generalizing s with
  | nil => exact ⟨[], .refl⟩
  | cons caller rest ih =>
    obtain ⟨log, hrest⟩ := ih (s.proceed caller)
    obtain ⟨first, hfirst⟩ : ∃ first, s.Runs maxSize r first (s.proceed caller) := by
      unfold proceed
      split
      · next call stage hat => exact ⟨_, .advances .refl _ hat ⟨_, rfl⟩ (hmeets caller)⟩
      · exact ⟨[], .refl⟩
    exact ⟨first ++ log, hfirst.trans hrest⟩

theorem reaches_foldl_proceed (callers : List Nat) (maxSize : Nat) (s : System) :
    s.Reaches maxSize (callers.foldl proceed s) := by
  obtain ⟨log, hruns⟩ := runs_foldl_proceed (r := .any) (fun _ => trivial) callers s
  exact hruns.reaches

/-- Calls that draw nothing can begin at any time. -/
theorem runs_staged {calls : List Call}
    (hcalls : ∀ call ∈ calls, call.drawn? = none ∧ r.begins call)
    (hmeets : ∀ caller, r.meets ⟨caller, ⟨0, 0⟩, (Uuid.ofRandom []).render, none, none⟩)
    (turns : List Nat) (s : System) :
    ∃ log, s.Runs maxSize r log (s.staged maxSize calls turns) := by
  have hbegun : ∀ {t log}, s.Runs maxSize r log t →
      ∃ log, s.Runs maxSize r log (calls.foldl (begun · maxSize ·) t) := by
    induction calls with
    | nil => exact fun h => ⟨_, h⟩
    | cons call rest ih =>
      intro t log h
      obtain ⟨hdrawn, hbegins⟩ := hcalls call List.mem_cons_self
      refine ih (fun other hother => hcalls other (List.mem_cons_of_mem _ hother))
        (h.begins call hbegins fun suffix hsuffix => ?_)
      rw [hdrawn] at hsuffix
      contradiction
  obtain ⟨first, hfirst⟩ := hbegun .refl
  obtain ⟨rest, hrest⟩ := runs_foldl_proceed hmeets turns (calls.foldl (begun · maxSize ·) s)
  exact ⟨first ++ rest, hfirst.trans hrest⟩

def created (suffix : String) : System :=
  ((start .empty).begun 4
    (.create ⟨"ada", .admin⟩ suffix "ws" ⟨true, false, .api, none⟩ ⟨0, 0⟩)).proceed 0

theorem runs_created (suffix : String)
    (hcreate : r.begins (.create ⟨"ada", .admin⟩ suffix "ws" ⟨true, false, .api, none⟩ ⟨0, 0⟩))
    (hmeets : ∀ caller, r.meets ⟨caller, ⟨0, 0⟩, (Uuid.ofRandom []).render, none, none⟩) :
    ∃ log, (start .empty).Runs 4 r log (created suffix) := by
  have hbegun : (start .empty).Runs 4 r [] ((start .empty).begun 4
      (.create ⟨"ada", .admin⟩ suffix "ws" ⟨true, false, .api, none⟩ ⟨0, 0⟩)) :=
    .begins .refl _ hcreate fun _ _ t ht => absurd ht List.not_mem_nil
  obtain ⟨log, hlog⟩ := runs_foldl_proceed hmeets [0] _
  exact ⟨_, hbegun.trans hlog⟩

/-- A version is created, other calls begin, and all callers take turns. -/
theorem reaches_created (suffix : String) {calls : List Call}
    (hcalls : ∀ call ∈ calls, call.drawn? = none) (turns : List Nat) :
    (start .empty).Reaches 4 ((created suffix).staged 4 calls turns) := by
  obtain ⟨_, hcreated⟩ := runs_created (r := .any) suffix trivial fun _ => trivial
  obtain ⟨_, hstaged⟩ := runs_staged (r := .any)
    (fun call hcall => ⟨hcalls call hcall, trivial⟩) (fun _ => trivial) turns (created suffix)
  exact (hcreated.trans hstaged).reaches

end System

end ConfigRegistry.Service
