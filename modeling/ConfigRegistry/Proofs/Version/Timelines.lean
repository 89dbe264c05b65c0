import ConfigRegistry.Proofs.Store.Lives
import ConfigRegistry.Proofs.Version.Documents

/-!
What resources tell of the past of a version. Whatever moves of a version are attempted, the first
one to a terminal status is made and all others are refused. A resource shows the last moment of
each status, and the record gives the first; since no status is reached twice they are the same.
-/
namespace ConfigRegistry.Version

open Json

def attempt (v : Version) (move : Timestamp) : Version :=
  (v.transition move.status move.moment).2

def attempts (v : Version) (moves : List Timestamp) : Version := moves.foldl attempt v

/-- The move that is made: the first one to a terminal status. -/
def decisive? (moves : List Timestamp) : Option Timestamp := moves.find? (·.status.isTerminal)

variable {v : Version}

/-- A pending version makes every move to an end, and no other. -/
theorem attempt_of_pending (h : v.status = .pending) (move : Timestamp) :
    v.attempt move =
      if move.status.isTerminal then v.movedTo move.status move.moment else v := by
  unfold attempt transition
  cases hterminal : move.status.isTerminal with
  | true =>
    have hcan : v.status.canBecome move.status = true := by
      rw [Status.canBecome, hterminal, h]
      rfl
    simp only [hcan, if_true, movedTo]
  | false =>
    have hcannot : v.status.canBecome move.status = false := by simp [Status.canBecome, hterminal]
    simp only [hcannot, Bool.false_eq_true, if_false]

theorem attempt_of_settled (h : v.status ≠ .pending) (move : Timestamp) : v.attempt move = v := by
  have hcannot : v.status.canBecome move.status = false := by
    simp [Status.canBecome, Status.isTerminal, h]
  simp only [attempt, transition, hcannot, Bool.false_eq_true, if_false]

theorem attempts_of_settled (h : v.status ≠ .pending) (moves : List Timestamp) :
    v.attempts moves = v := by
  induction moves with
  | nil => rfl
  | cons move rest ih =>
    rw [attempts, List.foldl_cons, attempt_of_settled h]
    exact ih

/-- The first attempt to a terminal status moves a pending version, and no other one does. -/
theorem attempts_of_pending (h : v.status = .pending) (moves : List Timestamp) :
    v.attempts moves = match decisive? moves with
      | some move => v.movedTo move.status move.moment
      | none => v := by
  induction moves with
  | nil => rfl
  | cons move rest ih =>
    rw [attempts, List.foldl_cons, attempt_of_pending h]
    cases hterminal : move.status.isTerminal with
    | true =>
      have hsettled : (v.movedTo move.status move.moment).status ≠ .pending := by
        simpa [Status.isTerminal, movedTo] using hterminal
      simp only [if_true, decisive?, List.find?_cons, hterminal]
      exact attempts_of_settled hsettled rest
    | false =>
      simp only [Bool.false_eq_true, if_false, decisive?, List.find?_cons, hterminal]
      exact ih

/-! What the record says. -/

theorem Lived.attempt (h : v.Lived) (move : Timestamp) : (v.attempt move).Lived := by
  by_cases hpending : v.status = .pending
  · rw [attempt_of_pending hpending]
    split
    · next hterminal =>
      exact h.movedTo hpending (by simpa [Status.isTerminal] using hterminal) _
    · exact h
  · rwa [attempt_of_settled hpending]

theorem Lived.attempts (h : v.Lived) (moves : List Timestamp) : (v.attempts moves).Lived := by
  induction moves generalizing v with
  | nil => exact h
  | cons move rest ih => exact ih (h.attempt move)

/-- A record that has lived is queued since its creation. -/
theorem Lived.queued (h : v.Lived) : v.timestamp? .pending = some v.createdAt := by
  cases h with
  | waits _ htimes => simp [timestamp?, htimes]
  | moved _ _ _ _ htimes => simp [timestamp?, htimes]

/-- It has a moment of a terminal status exactly if it has that status. -/
theorem Lived.reached_iff (h : v.Lived) {s : Status} (hs : s ≠ .pending) :
    (v.timestamp? s).isSome = true ↔ v.status = s := by
  cases h with
  | waits hstatus htimes => simp [timestamp?, htimes, hstatus, Ne.symm hs]
  | moved last moment _ hstatus htimes =>
    by_cases hlast : last = s
    · subst hlast
      simp [timestamp?, htimes, hstatus, Ne.symm hs]
    · simp [timestamp?, htimes, hstatus, Ne.symm hs, hlast]

/-- The last moment of each status is the first one. -/
theorem Lived.times_eq (h : v.Lived) : StatusTimes.ofTimestamps v.timestamps =
    ⟨v.timestamp? .pending, v.timestamp? .uploaded, v.timestamp? .errored⟩ := by
  cases h with
  | waits _ htimes => simp [timestamp?, htimes, StatusTimes.ofTimestamps, StatusTimes.note,
      StatusTimes.empty]
  | moved last _ hlast _ htimes =>
    rcases hlast with rfl | rfl <;>
      simp [timestamp?, htimes, StatusTimes.ofTimestamps, StatusTimes.note, StatusTimes.empty]

/-! What a resource shows. -/

def Resource.moment? (resource : Value) (name : String) : Option Value :=
  ((resource.get? "attributes").bind (·.get? "status-timestamps")).bind (·.get? name)

theorem moment?_toJson (r : Resource) (name : String) :
    Resource.moment? r.toJson name = r.attributes.times.toJson.get? name := rfl

theorem get?_times (times : StatusTimes) :
    times.toJson.get? "queued-at" = times.queuedAt.map Time.Instant.toJson ∧
      times.toJson.get? "started-at" = times.startedAt.map Time.Instant.toJson ∧
      times.toJson.get? "finished-at" = times.finishedAt.map Time.Instant.toJson := by
  obtain ⟨queued, started, finished⟩ := times
  cases queued <;> cases started <;> cases finished <;> exact ⟨rfl, rfl, rfl⟩

def Resource.withoutUrl (r : Resource) : Resource :=
  { r with attributes := { r.attributes with uploadUrl := none } }

/-- A resource shows the moments of the record, and these are the moments of what happened. -/
structure Resource.Tells (r : Resource) (v : Version) (made : Option Timestamp) : Prop where
  times : r.attributes.times =
    ⟨v.timestamp? .pending, v.timestamp? .uploaded, v.timestamp? .errored⟩
  queued : moment? r.toJson "queued-at" = (v.timestamp? .pending).map Time.Instant.toJson
  started : moment? r.toJson "started-at" = (v.timestamp? .uploaded).map Time.Instant.toJson
  finished : moment? r.toJson "finished-at" = (v.timestamp? .errored).map Time.Instant.toJson
  created : moment? r.toJson "queued-at" = some v.createdAt.toJson
  started_iff : (moment? r.toJson "started-at").isSome = true ↔ v.status = .uploaded
  finished_iff : (moment? r.toJson "finished-at").isSome = true ↔ v.status = .errored
  not_both : moment? r.toJson "started-at" = none ∨ moment? r.toJson "finished-at" = none
  happened : v.timestamps = ⟨.pending, v.createdAt⟩ :: made.toList

/-- What the resource tells is what the two timestamps of a version say. -/
theorem Lived.tells (h : v.Lived) {made : Option Timestamp}
    (hmade : v.timestamps = ⟨.pending, v.createdAt⟩ :: made.toList) (url : Option String) :
    (Resource.ofVersion v url).Tells v made := by
  have htimes : (Resource.ofVersion v url).attributes.times =
      ⟨v.timestamp? .pending, v.timestamp? .uploaded, v.timestamp? .errored⟩ := h.times_eq
  obtain ⟨hqueued, hstarted, hfinished⟩ := get?_times (Resource.ofVersion v url).attributes.times
  simp only [← moment?_toJson] at hqueued hstarted hfinished
  simp only [htimes] at hqueued hstarted hfinished
  have huploaded := h.reached_iff (s := .uploaded) (by decide)
  have herrored := h.reached_iff (s := .errored) (by decide)
  refine ⟨htimes, hqueued, hstarted, hfinished, ?_, ?_, ?_, ?_, hmade⟩
  · rw [hqueued, h.queued, Option.map_some]
  · rw [hstarted, Option.isSome_map, huploaded]
  · rw [hfinished, Option.isSome_map, herrored]
  · rw [hstarted, hfinished, Option.map_eq_none_iff, Option.map_eq_none_iff]
    cases hstatus : v.status with
    | uploaded => exact .inr (by simpa [hstatus] using herrored)
    | _ => exact .inl (by simpa [hstatus] using huploaded)

theorem attempts_create (suffix workspace : String) (options : Options) (now : Time.Instant)
    (moves : List Timestamp) :
    ((create suffix workspace options now).attempts moves).createdAt = now ∧
      ((create suffix workspace options now).attempts moves).timestamps =
        ⟨.pending, now⟩ :: (decisive? moves).toList := by
  rw [attempts_of_pending rfl]
  cases decisive? moves with
  | none => exact ⟨rfl, rfl⟩
  | some move => exact ⟨rfl, rfl⟩

/-- Whatever moves of a new version are attempted, its resource tells when it was created and, if
one of the moves was made, when it was uploaded or failed. The resources of a page are those of its
items, in order, as each item has it in its own document, but without an address for the upload. -/
theorem history_told (suffix workspace : String) (options : Options) (now : Time.Instant)
    (moves : List Timestamp) (url : Option String) :
    (Resource.ofVersion ((create suffix workspace options now).attempts moves) url).Tells
        ((create suffix workspace options now).attempts moves) (decisive? moves) ∧
      ((create suffix workspace options now).attempts moves).createdAt = now ∧
      ∀ (p : Page Version) (urls : Version → Option String),
        (ListDocument.ofPage p).data =
            p.items.map (fun v => (Document.ofVersion v (urls v)).data.withoutUrl) ∧
          ¬ (ListDocument.ofPage p).toJson.Mentions uploadUrlName := by
  obtain ⟨hcreated, htimes⟩ := attempts_create suffix workspace options now moves
  have hlived := (lived_create suffix workspace options now).attempts moves
  refine ⟨hlived.tells (by rw [htimes, hcreated]) url, hcreated, fun p urls => ⟨?_, ?_⟩⟩
  · rfl
  · exact not_mentions_ofPage p

end ConfigRegistry.Version
