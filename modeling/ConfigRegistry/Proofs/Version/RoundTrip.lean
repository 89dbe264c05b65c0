import ConfigRegistry.Proofs.Json.Answering
import ConfigRegistry.Proofs.Json.Kinds
import ConfigRegistry.Proofs.Json.Members
import ConfigRegistry.Proofs.Time.Rfc3339
import ConfigRegistry.Version.Document

/-!
Versions and their documents are read back from their text, and leave out what they left out before.
The text has no room for a leap second within a minute: it is read back as the second behind it.
-/
namespace ConfigRegistry

open Json Coding

theorem Time.Instant.restores {t : Instant} (h : t.IsMoment) : Restores read t.toJson t :=
  .textBy (by rw [Rfc3339.parse_render h, mapError_ok]) _

theorem Time.Instant.toJson_normal {t : Instant} (h : t.IsRepresentable) :
    t.normal.toJson = t.toJson := congrArg Value.string (Rfc3339.render_normal h)

theorem Time.Instant.isMoment_of_answers {t : Instant} (h : Answers read t) : t.IsMoment := by
  obtain ⟨s, hs⟩ := h.of_textBy
  exact Rfc3339.isMoment_of_parse (mapError_eq_ok.mp hs)

namespace Version

theorem Status.restores (s : Status) : Restores Status.read s.toJson s :=
  .variant (by cases s <;> decide)

theorem Source.restores (s : Source) : Restores Source.read s.toJson s :=
  .variant (by cases s <;> decide)

theorem Timestamp.restores {t : Timestamp} (h : t.moment.IsMoment) : Restores read t.toJson t := by
  intro left
  refine (Fields.Written.reads_record ?_ (.member ?_ <| .member ?_ .nil) "StatusTimestamp"
    left).bind (Reads.pure t left)
  · simp [Fields.names, Field.required]
  · exact t.status.restores.takes _
  · exact (Time.Instant.restores h).takes _

theorem Timestamp.isMoment_of_answers {t : Timestamp} (h : Answers read t) :
    t.moment.IsMoment := by
  obtain ⟨⟨status, moment, _⟩, hrow, h⟩ := h.of_bind
  obtain rfl := h.of_pure
  obtain ⟨_, hmoment, _⟩ := Fields.give_of_record hrow
  exact Time.Instant.isMoment_of_answers hmoment.answers

theorem Ingress.restores (i : Ingress) : Restores read i.toJson i := by
  intro left
  refine (Fields.Written.reads_record ?_ (.member ?_ <| .member ?_ .nil) "IngressAttributes"
    left).bind (Reads.pure i left)
  · simp [Fields.names, Field.required]
  · exact Field.takes_text _ _
  · exact Field.takes_text _ _

structure Dates (P : Time.Instant → Prop) (v : Version) : Prop where
  created : P v.createdAt
  reached : ∀ t ∈ v.timestamps, P t.moment

/-- Whatever is read as a version has moments that there can be. -/
theorem dates_of_answers {v : Version} (h : Answers read v) : v.Dates Time.Instant.IsMoment := by
  obtain ⟨⟨_, _, _, timestamps, _, _, _, _, createdAt, _⟩, hrow, h⟩ := h.of_bind
  obtain rfl := h.of_pure
  obtain ⟨_, _, _, htimestamps, _, _, _, _, hcreated, _⟩ := Fields.give_of_record hrow
  exact
    { created := Time.Instant.isMoment_of_answers hcreated.answers
      reached := fun t ht => Timestamp.isMoment_of_answers (htimestamps.answers.of_list t ht) }

theorem restores {v : Version} (h : v.Dates Time.Instant.IsMoment) : Restores read v.toJson v := by
  intro left
  refine (Fields.Written.reads_record ?_ (.member ?_ <| .member ?_ <| .member ?_ <| .member ?_ <|
    .member ?_ <| .member ?_ <| .member ?_ <| .member ?_ <| .member ?_ .nil)
    "ConfigurationVersion" left).bind (Reads.pure v left)
  · simp [Fields.names, Field.required, Field.optional]
  · exact Field.takes_text _ _
  · exact Field.takes_text _ _
  · exact v.status.restores.takes _
  · exact (Restores.list (fun t ht => Timestamp.restores (h.reached t ht))
      fun _ => .object _).takes _
  · exact (Restores.boolean v.autoQueueRuns).takes _
  · exact (Restores.boolean v.speculative).takes _
  · exact v.source.restores.takes _
  · exact takes_optional (fun i _ => i.restores) (fun _ => .object _) _
  · exact (Time.Instant.restores h.created).takes _

/-! Documents. -/

namespace StatusTimes

structure Dates (P : Time.Instant → Prop) (times : StatusTimes) : Prop where
  queued : ∀ t ∈ times.queuedAt, P t
  started : ∀ t ∈ times.startedAt, P t
  finished : ∀ t ∈ times.finishedAt, P t

variable {P : Time.Instant → Prop} {times : StatusTimes} {timestamps : List Timestamp}

theorem dates_empty : empty.Dates P := by constructor <;> simp [empty]

theorem Dates.note (h : times.Dates P) {t : Timestamp} (ht : P t.moment) :
    (times.note t).Dates P := by
  have hnew : ∀ moment ∈ some t.moment, P moment := by
    rintro moment hmoment
    exact Option.some.inj hmoment ▸ ht
  unfold StatusTimes.note
  cases t.status with
  | pending => exact { h with queued := hnew }
  | uploaded => exact { h with started := hnew }
  | errored => exact { h with finished := hnew }

theorem dates_ofTimestamps (h : ∀ t ∈ timestamps, P t.moment) :
    (ofTimestamps timestamps).Dates P :=
  List.foldlRecOn timestamps StatusTimes.note dates_empty fun _ htimes t ht => htimes.note (h t ht)

theorem restores (h : times.Dates Time.Instant.IsMoment) :
    Restores read times.toJson times := by
  intro left
  have hmarked : ∀ t : Time.Instant, t.toJson.IsMarked := fun t => .string _
  have hfinished := Fields.Written.optional (fun t ht => Time.Instant.restores (h.finished t ht))
    hmarked "finished-at" .nil
  have hstarted := Fields.Written.optional (fun t ht => Time.Instant.restores (h.started t ht))
    hmarked "started-at" hfinished
  have hwritten := Fields.Written.optional (fun t ht => Time.Instant.restores (h.queued t ht))
    hmarked "queued-at" hstarted
  rw [List.append_nil, ← List.append_assoc] at hwritten
  refine (hwritten.reads_record ?_ "StatusTimestamps" left).bind (Reads.pure times left)
  simp [Fields.names, Field.optional]

end StatusTimes

/-- Attributes are read back whenever their times are. -/
theorem Attributes.restores {attributes : Attributes}
    (h : attributes.times.Dates Time.Instant.IsMoment) :
    Restores read attributes.toJson attributes := by
  intro left
  have hurl : Fields.Written (.cons (.optional "upload-url" Read.text) .nil)
      (Value.member? "upload-url" (attributes.uploadUrl.map .string))
      (attributes.uploadUrl, ()) := by
    rw [← List.append_nil (Value.member? _ _)]
    exact .optional (fun s _ => .text s) .string _ .nil
  refine (Fields.Written.reads_record ?_ (.member ?_ <| .member ?_ <| .member ?_ <| .member ?_ <|
    .member ?_ <| .member ?_ <| .member ?_ hurl) "ConfigurationVersionAttributes" left).bind
    (Reads.pure attributes left)
  · simp [Fields.names, Field.required, Field.optional]
  · exact (Restores.boolean attributes.autoQueueRuns).takes _
  · exact takes_optional (fun s _ => .text s) .string _
  · exact takes_optional (fun s _ => .text s) .string _
  · exact attributes.source.restores.takes _
  · exact (Restores.boolean attributes.speculative).takes _
  · exact attributes.status.restores.takes _
  · exact (StatusTimes.restores h).takes _

namespace Reference

theorem restores (r : Reference) : Restores read r.toJson r := by
  intro left
  refine (Fields.Written.reads_record ?_ (.member ?_ <| .member ?_ .nil) "ResourceIdentifier"
    left).bind (Reads.pure r left)
  · simp [Fields.names, Field.required]
  · exact Field.takes_text _ _
  · exact Field.takes_text _ _

theorem restores_relationship (r : Reference) :
    Restores readRelationship r.toRelationship r := by
  intro left
  refine (Fields.Written.reads_record ?_ (.member ?_ .nil) "Relationship" left).bind
    (Reads.pure r left)
  · simp [Fields.names, Field.required]
  · exact r.restores.takes _

end Reference

namespace Resource

theorem restores_relationships (ingress : Option Reference) : Restores readRelationships
    (.object (Value.member? "ingress-attributes" (ingress.map Reference.toRelationship)))
    ingress := by
  intro left
  have hwritten : Fields.Written
      (.cons (.optional "ingress-attributes" Reference.readRelationship) .nil)
      (Value.member? "ingress-attributes" (ingress.map Reference.toRelationship))
      (ingress, ()) := by
    rw [← List.append_nil (Value.member? _ _)]
    exact .optional (fun r _ => r.restores_relationship) (fun _ => .object _) _ .nil
  refine (hwritten.reads_record ?_ "ConfigurationVersionRelationships" left).bind
    (Reads.pure ingress left)
  simp [Fields.names]

theorem restores {r : Resource} (h : r.attributes.times.Dates Time.Instant.IsMoment) :
    Restores read r.toJson r := by
  intro left
  refine (Fields.Written.reads_record ?_ (.member ?_ <| .member ?_ <| .member ?_ <|
    .member ?_ .nil) "ConfigurationVersionResource" left).bind (Reads.pure r left)
  · simp [Fields.names, Field.required]
  · exact Field.takes_text _ _
  · exact Field.takes_text _ _
  · exact (Attributes.restores h).takes _
  · exact (restores_relationships r.ingress).takes _

end Resource

theorem Document.restores {d : Document}
    (h : d.data.attributes.times.Dates Time.Instant.IsMoment) :
    Restores read d.toJson d := by
  intro left
  refine (Fields.Written.reads_record ?_ (.member ?_ .nil) "ConfigurationVersionDocument"
    left).bind (Reads.pure d left)
  · simp [Fields.names, Field.required]
  · exact (Resource.restores h).takes _

/-! What documents leave out. -/

namespace StatusTimes

def nameOf : Status → String
  | .pending => "queued-at"
  | .uploaded => "started-at"
  | .errored => "finished-at"

def of? (times : StatusTimes) : Status → Option Time.Instant
  | .pending => times.queuedAt
  | .uploaded => times.startedAt
  | .errored => times.finishedAt

theorem isSome_of?_note (times : StatusTimes) (t : Timestamp) (s : Status) :
    ((times.note t).of? s).isSome ↔ t.status = s ∨ (times.of? s).isSome := by
  obtain ⟨status, moment⟩ := t
  cases status <;> cases s <;> simp [note, of?]

/-- The times of the statuses that were reached are there, and no others. -/
theorem isSome_of?_ofTimestamps (timestamps : List Timestamp) (s : Status) :
    ((ofTimestamps timestamps).of? s).isSome ↔ ∃ t ∈ timestamps, t.status = s := by
  have hfold : ∀ times : StatusTimes, ((timestamps.foldl note times).of? s).isSome ↔
      (times.of? s).isSome ∨ ∃ t ∈ timestamps, t.status = s := by
    induction timestamps with
    | nil => simp
    | cons t timestamps ih =>
      intro times
      rw [List.foldl_cons, ih, isSome_of?_note]
      simp only [List.mem_cons, exists_eq_or_imp]
      rw [or_assoc, or_left_comm]
  have hempty : (empty.of? s).isSome = false := by cases s <;> rfl
  rw [ofTimestamps, hfold, hempty]
  simp

/-- The document names a time exactly if the version has it. -/
theorem mentions_iff (times : StatusTimes) (name : String) :
    times.toJson.Mentions name ↔ ∃ s, name = nameOf s ∧ (times.of? s).isSome := by
  have hflip : ∀ s : String, s = name ↔ name = s := fun s => eq_comm
  have hinstant : ∀ t : Time.Instant, ¬ t.toJson.Mentions name := fun t =>
    Value.not_mentions_string _
  have hstatus : ∀ p : Status → Prop, (∃ s, p s) ↔ (p .pending ∨ p .uploaded) ∨ p .errored := by
    intro p
    constructor
    · rintro ⟨s, hs⟩
      cases s <;> simp [hs]
    · rintro ((hs | hs) | hs) <;> exact ⟨_, hs⟩
  simp only [toJson, Value.mentions_object_append, Value.mentions_object_member?_map hinstant,
    hstatus, nameOf, of?, hflip]

end StatusTimes

namespace Document

def requiredNames : List String :=
  ["data", "id", "type", "attributes", "auto-queue-runs", "error", "error-message", "source",
    "speculative", "status", "status-timestamps", "relationships"]

theorem mentions_relationships (ingress : Option Reference) (name : String) :
    (Value.object (Value.member? "ingress-attributes"
      (ingress.map Reference.toRelationship))).Mentions name ↔
      ingress.isSome ∧ name ∈ ["ingress-attributes", "data", "id", "type"] := by
  have hflip : ∀ s : String, s = name ↔ name = s := fun s => eq_comm
  cases ingress with
  | none => simp [Value.member?]
  | some r => simp [Value.member?, Reference.toRelationship, Reference.toJson, hflip]

theorem mentions_attributes (attributes : Attributes) (name : String) :
    attributes.toJson.Mentions name ↔ name ∈ ["auto-queue-runs", "error", "error-message",
      "source", "speculative", "status", "status-timestamps"] ∨
        attributes.times.toJson.Mentions name ∨
        (name = "upload-url" ∧ attributes.uploadUrl.isSome) := by
  have hflip : ∀ s : String, s = name ↔ name = s := fun s => eq_comm
  have hsource : ¬ attributes.source.toJson.Mentions name := Value.not_mentions_string _
  have hstatus : ¬ attributes.status.toJson.Mentions name := Value.not_mentions_string _
  simp only [Attributes.toJson, Value.mentions_object_append, Value.mentions_object_cons,
    Value.mentions_object_member?_map Value.not_mentions_string, hflip, hsource, hstatus]
  simp [or_assoc]

/-- A document has the members that every document has, and of the others those that something is
known for. -/
theorem mentions_iff (v : Version) (url : Option String) (name : String) :
    (ofVersion v url).toJson.Mentions name ↔
      name ∈ requiredNames ∨ (name = "upload-url" ∧ url.isSome) ∨
        (name = "ingress-attributes" ∧ v.ingress.isSome) ∨
        ∃ t ∈ v.timestamps, name = StatusTimes.nameOf t.status := by
  have hflip : ∀ s : String, s = name ↔ name = s := fun s => eq_comm
  simp only [ofVersion, toJson, Resource.toJson, Resource.ofVersion, Value.mentions_object_cons,
    mentions_attributes, mentions_relationships, StatusTimes.mentions_iff,
    StatusTimes.isSome_of?_ofTimestamps, hflip, requiredNames, List.mem_cons, List.not_mem_nil,
    or_false, Value.not_mentions_object_nil, Value.not_mentions_string, false_or,
    Option.isSome_map]
  -- what is left on both sides are the same names in another order
  grind

end Document

/-! What versions are taken for. -/

def Timestamp.normal (t : Timestamp) : Timestamp := { t with moment := t.moment.normal }

def normal (v : Version) : Version :=
  { v with timestamps := v.timestamps.map Timestamp.normal, createdAt := v.createdAt.normal }

def StatusTimes.normal (times : StatusTimes) : StatusTimes :=
  ⟨times.queuedAt.map .normal, times.startedAt.map .normal, times.finishedAt.map .normal⟩

theorem Timestamp.toJson_normal {t : Timestamp} (h : t.moment.IsRepresentable) :
    t.normal.toJson = t.toJson := by
  simp only [toJson, normal, Time.Instant.toJson_normal h]

namespace StatusTimes

theorem note_normal (times : StatusTimes) (t : Timestamp) :
    times.normal.note t.normal = (times.note t).normal := by
  obtain ⟨status, moment⟩ := t
  cases status <;> rfl

theorem ofTimestamps_normal (timestamps : List Timestamp) :
    ofTimestamps (timestamps.map Timestamp.normal) = (ofTimestamps timestamps).normal := by
  have hfold : ∀ times : StatusTimes, timestamps.foldl (fun times t => times.note t.normal)
      times.normal = (timestamps.foldl note times).normal := by
    induction timestamps with
    | nil => exact fun _ => rfl
    | cons t timestamps ih =>
      intro times
      rw [List.foldl_cons, List.foldl_cons, note_normal, ih]
  rw [ofTimestamps, List.foldl_map]
  exact hfold empty

theorem toJson_normal {times : StatusTimes} (h : times.Dates Time.Instant.IsRepresentable) :
    times.normal.toJson = times.toJson := by
  have hmember : ∀ moment : Option Time.Instant, (∀ t ∈ moment, t.IsRepresentable) →
      (moment.map Time.Instant.normal).map Time.Instant.toJson =
        moment.map Time.Instant.toJson := by
    intro moment hmoment
    cases moment with
    | none => rfl
    | some t => exact congrArg some (Time.Instant.toJson_normal (hmoment t rfl))
  simp only [toJson, normal, hmember _ h.queued, hmember _ h.started, hmember _ h.finished]

end StatusTimes

section

variable {v : Version}

theorem toJson_normal (h : v.Dates Time.Instant.IsRepresentable) :
    v.normal.toJson = v.toJson := by
  have htimestamps : (v.timestamps.map Timestamp.normal).map Timestamp.toJson =
      v.timestamps.map Timestamp.toJson := by
    rw [List.map_map]
    exact List.map_congr_left fun t ht => Timestamp.toJson_normal (h.reached t ht)
  simp only [toJson, normal, htimestamps, Time.Instant.toJson_normal h.created]

theorem Document.toJson_normal (h : v.Dates Time.Instant.IsRepresentable) (url : Option String) :
    (ofVersion v.normal url).toJson = (ofVersion v url).toJson := by
  have htimes : (StatusTimes.ofTimestamps v.normal.timestamps).toJson =
      (StatusTimes.ofTimestamps v.timestamps).toJson := by
    rw [show v.normal.timestamps = v.timestamps.map Timestamp.normal from rfl,
      StatusTimes.ofTimestamps_normal]
    exact StatusTimes.toJson_normal (StatusTimes.dates_ofTimestamps h.reached)
  simp only [toJson, ofVersion, Resource.toJson, Resource.ofVersion, Attributes.toJson, htimes]
  rfl

theorem Dates.isMoment_normal (h : v.Dates Time.Instant.IsRepresentable) :
    v.normal.Dates Time.Instant.IsMoment where
  created := h.created.isMoment_normal
  reached t ht := by
    obtain ⟨t', ht', rfl⟩ := List.mem_map.mp ht
    exact (h.reached t' ht').isMoment_normal

/-- A version is taken for itself exactly if its leap seconds end minutes. -/
theorem Dates.normal_eq_iff (h : v.Dates Time.Instant.IsRepresentable) :
    v.normal = v ↔ v.Dates Time.Instant.IsMoment := by
  constructor
  · intro heq
    rw [← heq]
    exact h.isMoment_normal
  · intro hdated
    have htimestamps : v.timestamps.map Timestamp.normal = v.timestamps := by
      refine (List.map_congr_left fun t ht => ?_).trans (List.map_id _)
      rw [Timestamp.normal, (hdated.reached t ht).normal_eq]
      rfl
    rw [normal, htimestamps, hdated.created.normal_eq]

end

/-- A version is read back from its text as what it is taken for, which is itself exactly if its
leap seconds end minutes. Its document is read back from the text of that; written again, it has the
same text, with the members of `mentions_iff`. Whatever is read as a version has leap seconds only
at the end of minutes. -/
theorem reads_back :
    (∀ v : Version, v.Dates Time.Instant.IsRepresentable →
      read.all (Utf8.encode v.toJson.render) = .ok v.normal ∧
      (v.normal = v ↔ v.Dates Time.Instant.IsMoment) ∧
      ∀ url, ∃ d, Document.read.all (Utf8.encode (Document.ofVersion v url).toJson.render) = .ok d ∧
        d = Document.ofVersion v.normal url ∧
        d.toJson.render = (Document.ofVersion v url).toJson.render ∧
        ∀ name, d.toJson.Mentions name ↔ name ∈ Document.requiredNames ∨
          (name = "upload-url" ∧ url.isSome) ∨ (name = "ingress-attributes" ∧ v.ingress.isSome) ∨
          ∃ t ∈ v.timestamps, name = StatusTimes.nameOf t.status) ∧
      ∀ bytes v, read.all bytes = .ok v → v.Dates Time.Instant.IsMoment := by
  refine ⟨fun v h => ⟨?_, h.normal_eq_iff, fun url => ⟨.ofVersion v.normal url, ?_, rfl, ?_, ?_⟩⟩,
    fun bytes v h => dates_of_answers (.of_all h)⟩
  · rw [← toJson_normal h]
    exact (restores h.isMoment_normal).all
  · rw [← Document.toJson_normal h]
    exact (Document.restores (StatusTimes.dates_ofTimestamps h.isMoment_normal.reached)).all
  · rw [Document.toJson_normal h]
  · rw [Document.toJson_normal h]
    exact Document.mentions_iff v url

/-- A version with an odd name that was queued before the year zero, started in the leap second at
the end of a year of five digits and has no commit. -/
def lateVersion : Version where
  id := "cv-\x00\"\\é😀"
  workspace := ""
  status := .uploaded
  timestamps := [⟨.pending, ⟨-62167219201, 1⟩⟩, ⟨.uploaded, ⟨253433923199, 1123456000⟩⟩]
  autoQueueRuns := true
  speculative := false
  source := .cli
  ingress := none
  createdAt := ⟨253433923199, 1999999999⟩

theorem lateVersion_reads_back : lateVersion.Dates Time.Instant.IsRepresentable ∧
    read.all (Utf8.encode lateVersion.toJson.render) = .ok lateVersion ∧
    ∃ d, Document.read.all (Utf8.encode (Document.ofVersion lateVersion none).toJson.render) =
      .ok d ∧ ¬ d.toJson.Mentions "upload-url" ∧ ¬ d.toJson.Mentions "ingress-attributes" ∧
        ¬ d.toJson.Mentions "finished-at" := by
  have hdates : lateVersion.Dates Time.Instant.IsRepresentable := by
    refine ⟨⟨by decide, by decide⟩, fun t ht => ?_⟩
    simp only [lateVersion, List.mem_cons, List.not_mem_nil, or_false] at ht
    rcases ht with rfl | rfl
    · exact ⟨by decide, by decide⟩
    · exact ⟨by decide, by decide⟩
  have hnormal : lateVersion.normal = lateVersion := rfl
  obtain ⟨hversion, _, hdocument⟩ := reads_back.1 _ hdates
  obtain ⟨d, hread, _, _, hmentions⟩ := hdocument none
  refine ⟨hdates, hnormal ▸ hversion, d, hread, ?_, ?_, ?_⟩ <;> rw [hmentions] <;> decide

/-- A version that was created in a leap second within a minute. -/
def oddVersion : Version :=
  { lateVersion with timestamps := [], createdAt := ⟨1700000000, 1500000000⟩ }

/-- It is read back as one that was created in the second behind it. -/
theorem oddVersion_changes : oddVersion.Dates Time.Instant.IsRepresentable ∧
    read.all (Utf8.encode oddVersion.toJson.render) =
      .ok { oddVersion with createdAt := ⟨1700000001, 500000000⟩ } ∧
    read.all (Utf8.encode oddVersion.toJson.render) ≠ .ok oddVersion := by
  have hdates : oddVersion.Dates Time.Instant.IsRepresentable :=
    ⟨⟨by decide, by decide⟩, fun t ht => absurd ht List.not_mem_nil⟩
  have hread : read.all (Utf8.encode oddVersion.toJson.render) =
      .ok { oddVersion with createdAt := ⟨1700000001, 500000000⟩ } := by
    rw [← toJson_normal hdates]
    exact (restores hdates.isMoment_normal).all
  refine ⟨hdates, hread, fun hsame => ?_⟩
  have hcreated := congrArg createdAt (Except.ok.inj (hread.symm.trans hsame))
  revert hcreated
  decide

end Version

end ConfigRegistry
