import Mathlib.Data.List.Nodup
import ConfigRegistry.Proofs.Store.Versions

/-!
The life of records. Whatever is done to a store that starts empty, in whatever order, every record
is as it was created or has moved once since, and whatever is refused leaves all records as they
were. A record can move again only if it is created again.
-/
namespace ConfigRegistry

namespace Version

/-- The record is as it was created, or has moved once since. -/
inductive Lived (v : Version) : Prop
  | waits (hstatus : v.status = .pending) (htimes : v.timestamps = [⟨.pending, v.createdAt⟩])
  | moved (last : Status) (moment : Time.Instant) (hlast : last = .uploaded ∨ last = .errored)
      (hstatus : v.status = last)
      (htimes : v.timestamps = [⟨.pending, v.createdAt⟩, ⟨last, moment⟩])

def InOrder (v : Version) : Prop :=
  v.timestamps.Pairwise fun a b => b.moment.isBefore a.moment = false

theorem lived_create (suffix workspace : String) (options : Options) (now : Time.Instant) :
    (create suffix workspace options now).Lived := .waits rfl rfl

theorem Lived.movedTo {v : Version} (h : v.Lived) (hpending : v.status = .pending) {next : Status}
    (hnext : next ≠ .pending) (moment : Time.Instant) : (v.movedTo next moment).Lived := by
  cases h with
  | waits _ htimes =>
    refine .moved next moment ?_ rfl (by simp [Version.movedTo, htimes])
    cases next with
    | pending => contradiction
    | uploaded => exact .inl rfl
    | errored => exact .inr rfl
  | moved last _ hlast hstatus _ =>
    rw [hpending] at hstatus
    rcases hlast with rfl | rfl <;> contradiction

/-- A record that has lived has its timestamps in order, if none of them lies before its
creation. -/
theorem Lived.inOrder {v : Version} (h : v.Lived)
    (htimes : ∀ t ∈ v.timestamps, t.status ≠ .pending → t.moment.isBefore v.createdAt = false) :
    v.InOrder := by
  cases h with
  | waits _ h => simp [InOrder, h]
  | moved last moment hlast _ h =>
    have hlater := htimes ⟨last, moment⟩ (by simp [h]) (by rcases hlast with rfl | rfl <;> simp)
    simpa [InOrder, h] using hlater

end Version

namespace Versions

/-- What may be done to the records. Only new versions are created. -/
inductive Operation where
  | create (suffix workspace : String) (options : Version.Options) (now : Time.Instant)
  | get (id : String)
  | latest (workspace : String)
  | list (workspace : String) (o : Page.Options)
  | delete (id : String)
  | transition (id : String) (next : Version.Status) (moment : Time.Instant)

/-- What the store says to that. -/
inductive Reply where
  | created
  | record (v : Option Version)
  | page (p : Page Version)
  | deleted (found : Bool)
  | moved (v : Version)
  | refused (f : Failure)

def Reply.Fails : Reply → Prop
  | .refused _ => True
  | .deleted found => found = false
  | _ => False

def perform (vs : Versions) : Operation → Reply × Versions
  | .create suffix workspace options now =>
    match vs.create (.create suffix workspace options now) with
    | (.ok (), vs') => (.created, vs')
    | (.error f, vs') => (.refused f, vs')
  | .get id => (.record (vs.get? id), vs)
  | .latest workspace => (.record (vs.latest? workspace), vs)
  | .list workspace o => (.page (vs.page workspace o), vs)
  | .delete id => (.deleted (vs.contains id), vs.erase id)
  | .transition id next moment =>
    match vs.transition id next moment with
    | (.ok moved, vs') => (.moved moved, vs')
    | (.error f, vs') => (.refused f, vs')

inductive Effect (vs : Versions) : Operation → Reply → Versions → Prop
  | same {op : Operation} {reply : Reply} (h : ∀ moved, reply ≠ .moved moved) :
      Effect vs op reply vs
  | creates {suffix workspace : String} {options : Version.Options} {now : Time.Instant}
      {v : Version} (h : v = .create suffix workspace options now) (hnone : vs.get? v.id = none) :
      Effect vs (.create suffix workspace options now) .created (vs.insert v.id v)
  | deletes {id : String} (h : vs.contains id = true) :
      Effect vs (.delete id) (.deleted true) (vs.erase id)
  | moves {id : String} {next : Version.Status} {moment : Time.Instant} {v : Version}
      (h : vs.get? id = some v) (hpending : v.status = .pending) (hnext : next ≠ .pending) :
      Effect vs (.transition id next moment) (.moved (v.movedTo next moment))
        (vs.insert id (v.movedTo next moment))

/-- Every operation has one of four effects. -/
theorem perform_effect (vs : Versions) (op : Operation) :
    Effect vs op (vs.perform op).1 (vs.perform op).2 := by
  cases op with
  | create suffix workspace options now =>
    simp only [perform]
    split
    · next h =>
      obtain ⟨hnone, rfl⟩ := create_eq_ok h
      exact .creates rfl hnone
    · next h =>
      rw [create_of_error h]
      exact .same (by simp)
  | get id => exact .same (by simp [perform])
  | latest workspace => exact .same (by simp [perform])
  | list workspace o => exact .same (by simp [perform])
  | delete id =>
    simp only [perform]
    cases hcontains : vs.contains id with
    | true => exact .deletes hcontains
    | false =>
      rw [Table.erase_of_absent hcontains]
      exact .same (by simp)
  | transition id next moment =>
    simp only [perform]
    split
    · next moved vs' h =>
      obtain ⟨v, hv, hpending, hnext, rfl, rfl⟩ := transition_eq_ok h
      exact .moves hv hpending hnext
    · next h =>
      rw [transition_of_error h]
      exact .same (by simp)

/-- Whatever fails leaves the records as they were. -/
theorem perform_of_fails {vs : Versions} {op : Operation} (h : (vs.perform op).1.Fails) :
    (vs.perform op).2 = vs := by
  have heffect := vs.perform_effect op
  generalize (vs.perform op).1 = reply at h heffect
  generalize (vs.perform op).2 = vs' at heffect
  cases heffect with
  | same _ => rfl
  | creates _ _ => exact h.elim
  | deletes _ => exact absurd h (by simp [Reply.Fails])
  | moves _ _ _ => exact h.elim

/-! Runs. -/

/-- An operation and what the store said to it. -/
structure Deed where
  op : Operation
  reply : Reply

def Operation.created? : Operation → Option String
  | .create suffix _ _ _ => some (ResourceId.make Version.idKind suffix)
  | _ => none

def Deed.moves (id : String) : Deed → Bool
  | ⟨.transition other _ _, .moved _⟩ => other == id
  | _ => false

/-- The identifiers of the versions that a run is to create, the oldest first. -/
def createdIn (log : List Deed) : List String := log.filterMap fun d => d.op.created?

/-- What was done to a store that started empty, the oldest first, and the records behind that. -/
inductive Runs : List Deed → Versions → Prop
  | start : Runs [] .empty
  | performs {log : List Deed} {vs : Versions} (h : Runs log vs) (op : Operation) :
      Runs (log ++ [⟨op, (vs.perform op).1⟩]) (vs.perform op).2

def movesLeft (vs : Versions) (id : String) : Nat :=
  if (vs.get? id).any (·.status == .pending) then 1 else 0

/-- What is known of the records after a run. -/
structure Tracked (log : List Deed) (vs : Versions) : Prop where
  keyed : vs.Keyed
  lived : ∀ id v, vs.get? id = some v → v.Lived
  times : ∀ id v t, vs.get? id = some v → t ∈ v.timestamps → t.status ≠ .pending →
    ∃ moved, ⟨.transition id t.status t.moment, .moved moved⟩ ∈ log
  -- A creation grants one move: the moves made and the one left do not exceed the creations.
  bounded : ∀ id, log.countP (·.moves id) + vs.movesLeft id ≤ (createdIn log).count id

variable {log : List Deed} {vs vs' : Versions} {op : Operation} {reply : Reply}

theorem tracked_start : Tracked [] .empty where
  keyed := keyed_empty
  lived id v h := by simp at h
  times id v t h := by simp at h
  bounded id := by simp [movesLeft, createdIn]

theorem count_createdIn_append (d : Deed) (id : String) :
    (createdIn (log ++ [d])).count id =
      (createdIn log).count id + (d.op.created?.toList).count id := by
  cases hcreated : d.op.created? <;> simp [createdIn, hcreated]

theorem countP_moves_append (d : Deed) (id : String) :
    (log ++ [d]).countP (·.moves id) = log.countP (·.moves id) + if d.moves id then 1 else 0 := by
  simp [List.countP_cons]

/-- A move is paid for by a move that its version had left, and that by a creation. -/
theorem Effect.movesLeft (heffect : Effect vs op reply vs') (id : String) :
    (if Deed.moves id ⟨op, reply⟩ then 1 else 0) + vs'.movesLeft id ≤
      vs.movesLeft id + op.created?.toList.count id := by
  cases heffect with
  | same hreply =>
    have hmoves : Deed.moves id ⟨op, reply⟩ = false := by
      unfold Deed.moves
      split
      · next moved heq => exact absurd (Deed.mk.inj heq).2 (hreply moved)
      · rfl
    rw [hmoves]
    simp
  | @creates suffix workspace options now v hv hnone =>
    have hmoves : Deed.moves id ⟨.create suffix workspace options now, .created⟩ = false := rfl
    have hid : (Operation.create suffix workspace options now).created? = some v.id := by
      rw [hv]
      rfl
    rw [hmoves, hid]
    by_cases heq : id = v.id
    · have hleft : Versions.movesLeft (vs.insert v.id v) id ≤ 1 := by
        unfold Versions.movesLeft
        split <;> omega
      simp [heq] at hleft ⊢
      omega
    · simp [Versions.movesLeft, heq]
  | @deletes other hcontains =>
    have hmoves : Deed.moves id ⟨.delete other, .deleted true⟩ = false := rfl
    rw [hmoves]
    by_cases heq : id = other <;> simp [Versions.movesLeft, heq]
  | @moves other next moment v hv hpending hnext =>
    have hmoves : Deed.moves id ⟨.transition other next moment, .moved (v.movedTo next moment)⟩ =
        (other == id) := rfl
    rw [hmoves]
    by_cases heq : id = other
    · simp [Versions.movesLeft, heq, hv, hpending, hnext, Version.movedTo]
    · simp [Versions.movesLeft, heq, Ne.symm heq]

theorem Tracked.bounded_effect (h : Tracked log vs) (heffect : Effect vs op reply vs')
    (id : String) :
    (log ++ [Deed.mk op reply]).countP (·.moves id) + vs'.movesLeft id ≤
      (createdIn (log ++ [⟨op, reply⟩])).count id := by
  have hbound := h.bounded id
  have hpaid := heffect.movesLeft id
  rw [countP_moves_append, count_createdIn_append]
  show _ ≤ _ + op.created?.toList.count id
  omega

/-- Where a record comes from that is there after an operation. -/
inductive Origin (vs : Versions) (id : String) (op : Operation) (reply : Reply)
    (w : Version) : Prop
  | kept (h : vs.get? id = some w)
  | created {suffix workspace : String} {options : Version.Options} {now : Time.Instant}
      (h : w = .create suffix workspace options now) (hid : w.id = id)
  | moved {v : Version} {next : Version.Status} {moment : Time.Instant}
      (hv : vs.get? id = some v) (hpending : v.status = .pending) (hnext : next ≠ .pending)
      (hw : w = v.movedTo next moment) (hop : op = .transition id next moment)
      (hreply : reply = .moved w)

/-- A record that is there after an operation was there before, or was made or moved by it. -/
theorem Effect.origin (heffect : Effect vs op reply vs') {id : String} {w : Version}
    (hw : vs'.get? id = some w) : Origin vs id op reply w := by
  cases heffect with
  | same _ => exact .kept hw
  | creates hv _ =>
    rw [Table.get?_insert] at hw
    split at hw
    · next heq =>
      obtain rfl := Option.some.inj hw
      exact .created hv heq.symm
    · exact .kept hw
  | deletes _ =>
    rw [Table.get?_erase] at hw
    split at hw
    · contradiction
    · exact .kept hw
  | moves hv hpending hnext =>
    rw [Table.get?_insert] at hw
    split at hw
    · next heq =>
      obtain rfl := Option.some.inj hw
      exact .moved (heq ▸ hv) hpending hnext rfl (heq ▸ rfl) rfl
    · exact .kept hw

/-- One operation more keeps what is known of the records. -/
theorem Tracked.effect (h : Tracked log vs) (heffect : Effect vs op reply vs') :
    Tracked (log ++ [⟨op, reply⟩]) vs' := by
  have hearlier : ∀ id v t, vs.get? id = some v → t ∈ v.timestamps → t.status ≠ .pending →
      ∃ moved,
        Deed.mk (.transition id t.status t.moment) (.moved moved) ∈ log ++ [⟨op, reply⟩] := by
    intro id v t hv ht hstatus
    obtain ⟨moved, hmem⟩ := h.times id v t hv ht hstatus
    exact ⟨moved, List.mem_append_left _ hmem⟩
  refine ⟨?_, ?_, ?_, h.bounded_effect heffect⟩
  · intro id w hw
    cases heffect.origin hw with
    | kept hv => exact h.keyed id w hv
    | created _ hid => exact hid
    | @moved v _ _ hv _ _ hmoved _ _ =>
      subst hmoved
      exact h.keyed id v hv
  · intro id w hw
    cases heffect.origin hw with
    | kept hv => exact h.lived id w hv
    | created hcreated _ => exact hcreated ▸ Version.lived_create ..
    | moved hv hpending hnext hmoved _ _ =>
      exact hmoved ▸ (h.lived id _ hv).movedTo hpending hnext _
  · intro id w t hw ht hstatus
    cases heffect.origin hw with
    | kept hv => exact hearlier id w t hv ht hstatus
    | created hcreated _ =>
      obtain rfl := List.mem_singleton.mp (hcreated ▸ ht)
      exact absurd rfl hstatus
    | moved hv _ _ hmoved hop hreply =>
      rcases List.mem_append.mp (hmoved ▸ ht) with hold | hnew
      · exact hearlier id _ t hv hold hstatus
      · obtain rfl := List.mem_singleton.mp hnew
        exact ⟨w, List.mem_append_right _ (by simp [hop, hreply])⟩

theorem Runs.tracked (h : Runs log vs) : Tracked log vs := by
  induction h with
  | start => exact tracked_start
  | performs _ op ih => exact ih.effect (perform_effect _ op)

/-- Where versions are told apart by their creations, each moves at most once. -/
theorem Tracked.once (h : Tracked log vs) (hdistinct : (createdIn log).Nodup) (id : String) :
    log.countP (·.moves id) ≤ 1 := by
  have hbound := h.bounded id
  have hcreated := List.nodup_iff_count_le_one.mp hdistinct id
  omega

theorem Tracked.inOrder (h : Tracked log vs) {id : String} {v : Version}
    (hv : vs.get? id = some v)
    (hlater : ∀ next moment moved, ⟨.transition id next moment, .moved moved⟩ ∈ log →
      moment.isBefore v.createdAt = false) : v.InOrder := by
  refine (h.lived id v hv).inOrder fun t ht hstatus => ?_
  obtain ⟨moved, hmem⟩ := h.times id v t hv ht hstatus
  exact hlater t.status t.moment moved hmem

/-- A successful move changes the status and the timestamps of one record. -/
theorem perform_of_moved {id : String} {next : Version.Status} {moment : Time.Instant}
    {moved : Version} (h : (vs.perform (.transition id next moment)).1 = .moved moved) :
    ∃ v, vs.get? id = some v ∧ moved = v.movedTo next moment ∧
      ∀ other, (vs.perform (.transition id next moment)).2.get? other =
        if other = id then some moved else vs.get? other := by
  have heffect := vs.perform_effect (.transition id next moment)
  rw [h] at heffect
  generalize (vs.perform (.transition id next moment)).2 = vs' at heffect
  cases heffect with
  | same hreply => exact absurd rfl (hreply moved)
  | moves hv _ _ => exact ⟨_, hv, rfl, fun other => Table.get?_insert ..⟩

/-- What holds of a store that started empty, whatever was done to it. -/
theorem lives_of_records (h : Runs log vs) :
    (∀ id v, vs.get? id = some v → v.id = id ∧ v.Lived ∧
      ((∀ next moment moved, ⟨.transition id next moment, .moved moved⟩ ∈ log →
        moment.isBefore v.createdAt = false) → v.InOrder)) ∧
    ((createdIn log).Nodup → ∀ id, log.countP (·.moves id) ≤ 1) ∧
    (∀ op, (vs.perform op).1.Fails → (vs.perform op).2 = vs) ∧
    ∀ id next moment moved, (vs.perform (.transition id next moment)).1 = .moved moved →
      ∃ v, vs.get? id = some v ∧ moved = v.movedTo next moment ∧
        ∀ other, (vs.perform (.transition id next moment)).2.get? other =
          if other = id then some moved else vs.get? other := by
  have htracked := h.tracked
  refine ⟨fun id v hv => ?_, htracked.once, fun op => perform_of_fails, ?_⟩
  · exact ⟨htracked.keyed id v hv, htracked.lived id v hv, htracked.inOrder hv⟩
  · intro id next moment moved hmoved
    exact perform_of_moved hmoved

/-! Runs of given operations. -/

def performNext (run : List Deed × Versions) (op : Operation) : List Deed × Versions :=
  (run.1 ++ [⟨op, (run.2.perform op).1⟩], (run.2.perform op).2)

def performAll (operations : List Operation) : List Deed × Versions :=
  operations.foldl performNext ([], .empty)

theorem Runs.foldl_performNext {run : List Deed × Versions} (h : Runs run.1 run.2)
    (operations : List Operation) :
    Runs (operations.foldl performNext run).1 (operations.foldl performNext run).2 := by
  induction operations generalizing run with
  | nil => exact h
  | cons op rest ih => exact ih (h.performs op)

theorem runs_performAll (operations : List Operation) :
    Runs (performAll operations).1 (performAll operations).2 :=
  Runs.start.foldl_performNext operations

/-- A version moves and is refused a second move. Another one is deleted, and not again. -/
def twoVersions : List Operation :=
  let options : Version.Options := ⟨true, false, .api, none⟩
  [.create "a" "ws-1" options ⟨10, 0⟩, .create "b" "ws-1" options ⟨11, 0⟩,
    .transition "cv-a" .uploaded ⟨20, 0⟩, .transition "cv-a" .errored ⟨30, 0⟩, .latest "ws-1",
    .delete "cv-b", .delete "cv-b"]

/-- One version is uploaded at a later time, and is asked in vain to fail after that. -/
theorem lives_of_twoVersions :
    let run := performAll twoVersions
    (run.2.get? "cv-a").map (·.timestamps) = some [⟨.pending, ⟨10, 0⟩⟩, ⟨.uploaded, ⟨20, 0⟩⟩] ∧
      (∀ v, run.2.get? "cv-a" = some v → v.Lived ∧ v.InOrder) ∧
      run.1.countP (·.moves "cv-a") = 1 ∧ (∀ id, run.1.countP (·.moves id) ≤ 1) ∧
      (run.2.perform (.transition "cv-a" .errored ⟨40, 0⟩)).2 = run.2 := by
  intro run
  obtain ⟨hrecords, honce, hfails, _⟩ := lives_of_records (runs_performAll twoVersions)
  have hcreated : (run.2.get? "cv-a").map (·.createdAt) = some ⟨10, 0⟩ := by decide +kernel
  have hlater : ∀ d ∈ run.1, (match d.op with
      | .transition _ _ moment => moment.isBefore ⟨10, 0⟩
      | _ => false) = false := by decide +kernel
  refine ⟨by decide +kernel, fun v hv => ?_, by decide +kernel, honce (by decide +kernel),
    hfails _ trivial⟩
  obtain ⟨_, hlived, hinOrder⟩ := hrecords _ v hv
  refine ⟨hlived, hinOrder fun next moment moved hmem => ?_⟩
  rw [hv] at hcreated
  rw [show v.createdAt = ⟨10, 0⟩ from Option.some.inj hcreated]
  exact hlater _ hmem

end Versions

end ConfigRegistry
