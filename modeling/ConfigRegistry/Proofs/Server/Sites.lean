import ConfigRegistry.Proofs.Server.Authority
import ConfigRegistry.Proofs.Service.Idleness

/-!
A server at work: it answers requests while calls of other clients are under way at its service.
Whatever comes in, the records and archives stay sane, and a settled version stays as it is until it
is deleted.
-/
namespace ConfigRegistry.Server

open Http

/-! Requests one after another. -/

/-- The states of a server at times when no call is under way. -/
inductive Settled (a : App) : State → Prop
  | start {blobs : Blob.Store} (tokens : Ledger) (h : blobs.Opened) :
      Settled a ⟨⟨.empty, blobs, .empty⟩, tokens⟩
  | answered {s : State} (o : Occasion) (r : Request) (h : Settled a s)
      (hmark : ∃ u : Uuid, o.mark = u.render) : Settled a (respond a s o r).state
  | meanwhile {s : State} {t : Service.System} (h : Settled a s)
      (hrun : Service.System.Reaches a.settings.maxArchiveSize ⟨s.world, [], []⟩ t)
      (hquiet : t.Quiet) : Settled a ⟨t.world, s.tokens⟩

theorem Settled.reachable {a : App} {s : State} (h : Settled a s) : Reachable a s := by
  induction h with
  | start tokens hopened => exact .start tokens hopened
  | answered o r _ hmark ih => exact .answered o r ih hmark
  | meanwhile _ hrun _ ih => exact .meanwhile ih hrun

/-- While no call is under way nobody is at a lock. -/
theorem Settled.idle {a : App} {s : State} (h : Settled a s) : s.world.locks.Idle := by
  induction h with
  | start tokens _ =>
    have hunused : ∀ id, Service.Locks.empty.table.get? id = none := fun _ => rfl
    exact (Service.System.attended_of_unused (w := ⟨.empty, _, .empty⟩) hunused).idle
      fun caller call stage hat => by simp [Service.System.At] at hat
  | @answered s o r _ hmark ih =>
    rcases respond_world a s o r with hsame | ⟨call, hcall⟩
    · rw [hsame]
      exact ih
    · rw [hcall]
      exact Service.run_idle ih ⟨o.outages, o.now, o.mark⟩ hmark _ call
  | meanwhile _ hrun hquiet ih => exact hrun.idle ih hquiet

/-- While no other call is under way, the call that a request makes comes to its end as it does in
the service, and the answer tells that end. -/
theorem Settled.call {a : App} {s : State} (h : Settled a s) {o : Occasion}
    (hmark : ∃ u : Uuid, o.mark = u.render) (call : Service.Call)
    (present : Service.Answer → Response) :
    ∃ t answer, Service.System.Reaches a.settings.maxArchiveSize ⟨s.world, [], []⟩ t ∧
      t.tasks = [⟨call, some (.done answer)⟩] ∧
      (Versions.call a s o (call.opening a.settings.maxArchiveSize) present).state =
        ⟨t.world, s.tokens⟩ ∧
      (Versions.call a s o (call.opening a.settings.maxArchiveSize) present).response =
        match answer with
        | .ok found => present found
        | .error f => .ofFailure a.withDetails f := by
  obtain ⟨t, hreaches, hworld, htasks⟩ := Service.System.reaches_run
    h.idle.proper.bounded call (fun id _ _ => h.idle.unheld id) ⟨o.outages, o.now, o.mark⟩ hmark
    a.settings.maxArchiveSize
  refine ⟨t, _, hreaches, htasks, ?_, ?_⟩
  · rw [call_state, hworld]
  · unfold Versions.call
    simp only
    cases (Service.run ⟨o.outages, o.now, o.mark⟩ s.world
        (call.opening a.settings.maxArchiveSize)).answer with
    | ok found => rfl
    | error f => rfl

/-! A server while calls are under way. -/

/-- A server and the calls that are under way at its service. -/
structure Site where
  system : Service.System
  tokens : Ledger

namespace Site

def state (s : Site) : State := ⟨s.system.world, s.tokens⟩

def versions (s : Site) : Versions := s.system.world.versions

def answered (a : App) (s : Site) (o : Occasion) (r : Request) : Site :=
  ⟨{ s.system with world := (respond a s.state o r).state.world },
    (respond a s.state o r).state.tokens⟩

theorem state_world (s : Site) : s.system.world = s.state.world := rfl

theorem answered_state (a : App) (s : Site) (o : Occasion) (r : Request) :
    (s.answered a o r).state = (respond a s.state o r).state := rfl

/-- What may happen next: the server answers a request, or a call of another client begins, takes a
step or is given up. -/
inductive Steps (a : App) (s : Site) : Site → Prop
  | answers (o : Occasion) (r : Request) (hmark : ∃ u : Uuid, o.mark = u.render) :
      Steps a s (s.answered a o r)
  | changes {t : Service.System} (h : s.system.Changes a.settings.maxArchiveSize t) :
      Steps a s ⟨t, s.tokens⟩

/-- Any number of steps to states with a property. -/
inductive Reaches (a : App) (P : Site → Prop) (s : Site) : Site → Prop
  | refl : Reaches a P s s
  | step {t u : Site} (h : Reaches a P s t) (hstep : t.Steps a u) (hu : P u) : Reaches a P s u

/-- The states of a server that started without versions. -/
def Reachable (a : App) (s : Site) : Prop :=
  ∃ (blobs : Blob.Store) (tokens : Ledger), blobs.Opened ∧
    Reaches a (fun _ => True) ⟨.start blobs, tokens⟩ s

def Lists (s : Site) (id : String) : Prop := s.versions.get? id ≠ none

/-- What holds after every run: the calls do what they are asked for, on sane records and archives,
and the table of locks is in order. -/
structure Orderly (a : App) (s : Site) : Prop where
  system : s.system.Orderly a.settings.maxArchiveSize
  bounded : s.system.world.locks.Bounded

variable {a : App} {s t : Site} {o : Occasion} {r : Request} {v : Version} {data : ByteArray}

theorem respond_bounded {s : State} (h : s.world.locks.Bounded) :
    (respond a s o r).state.world.locks.Bounded := by
  rcases respond_world a s o r with hsame | ⟨call, hcall⟩
  · rw [hsame]
    exact h
  · rw [hcall]
    exact Service.run_bounded ⟨o.outages, o.now, o.mark⟩ _ h

theorem Orderly.answered (hs : s.Orderly a) (hmark : '/' ∉ o.mark.toList) (r : Request) :
    (s.answered a o r).Orderly a where
  system := ⟨sane_respond hs.system.sane hmark r, hs.system.serves⟩
  bounded := respond_bounded hs.bounded

theorem Orderly.steps (hs : s.Orderly a) (h : s.Steps a t) : t.Orderly a := by
  cases h with
  | answers o r hmark => exact hs.answered (slash_not_mem_of_render hmark) r
  | changes h =>
    refine ⟨hs.system.changes h, ?_⟩
    cases h with
    | begins call _ => exact hs.bounded
    | advances c _ _ => exact (Service.step_moves _ c _).bounded hs.bounded
    | abandons _ => exact Service.abandon_bounded hs.bounded _ _

theorem Reaches.orderly {P : Site → Prop} (h : Reaches a P s t) (hs : s.Orderly a) :
    t.Orderly a := by
  induction h with
  | refl => exact hs
  | step _ hstep _ ih => exact ih.steps hstep

theorem Reachable.orderly (h : s.Reachable a) : s.Orderly a := by
  obtain ⟨blobs, tokens, hopened, hrun⟩ := h
  refine hrun.orderly ⟨Service.System.orderly_start hopened, ?_⟩
  exact (Service.System.locked_start blobs).bounded

/-- An answer deletes a settled version or leaves it as it is. -/
theorem respond_keeps {s : State} (hs : s.world.Sane) (hmark : '/' ∉ o.mark.toList) (r : Request)
    (hsettled : v.status ≠ .pending) (hhas : s.world.Has v data) :
    (respond a s o r).state.world.versions.get? v.id = none ∨
      (respond a s o r).state.world.Has v data := by
  rcases respond_world a s o r with hsame | ⟨call, hcall⟩
  · rw [hsame]
    exact .inr hhas
  · rw [hcall]
    exact Service.run_keeps ⟨o.outages, o.now, o.mark⟩ hmark hs _ call hsettled hhas

/-- A step deletes a settled version or leaves it as it is. -/
theorem Steps.keeps (h : s.Steps a t) (hs : s.Orderly a) (hsettled : v.status ≠ .pending)
    (hholds : s.system.Holds v data) : t.versions.get? v.id = none ∨ t.system.Holds v data := by
  cases h with
  | answers o r hmark =>
    rcases respond_keeps (a := a) (s := s.state) hs.system.sane (slash_not_mem_of_render hmark) r
      hsettled hholds.has with hnone | hhas
    · exact .inl hnone
    · exact .inr ⟨hhas, hholds.spares⟩
  | changes h => exact hholds.changes hs.system hsettled h

/-- A settled version stays as it is until it is deleted. -/
theorem Reaches.keeps (h : Reaches a (·.Lists v.id) s t) (hs : s.Orderly a)
    (hsettled : v.status ≠ .pending) (hholds : s.system.Holds v data) :
    t.system.Holds v data := by
  induction h with
  | refl => exact hholds
  | step hrun hstep hlisted ih =>
    rcases hstep.keeps (hrun.orderly hs) hsettled ih with hnone | hkept
    · exact absurd hnone hlisted
    · exact hkept

end Site

end ConfigRegistry.Server
