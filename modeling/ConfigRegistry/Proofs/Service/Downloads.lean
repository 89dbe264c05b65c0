import ConfigRegistry.Proofs.Service.Answers
import ConfigRegistry.Proofs.Service.Sources

/-!
What downloads hand out. A download looks at the record of its version and then fetches the archive,
whatever the record says. Either the version was uploaded meanwhile, and the archive is that of the
upload that made it so, or it has never been uploaded, and the archive was left by an upload that
did not come to say so in the record.
-/
namespace ConfigRegistry.Service

def Stage.Fetches (id : String) : Stage → Prop
  | .lookUp _ purpose other => purpose = .download ∧ other = id
  | .fetchArchive other key => other = id ∧ Blob.keyOf id = .ok key
  | .done _ => True
  | _ => False

theorem Moves.keeps_fetching {w w' : World} {c : Circumstance} {s s' : Stage} {id : String}
    (h : Moves w c s w' s') (hw : w.Sane) (hs : s.Fetches id) : s'.Fetches id := by
  cases h with
  | rests answer => trivial
  | ends answer _ _ => trivial
  | fetches h hkey =>
    obtain ⟨_, rfl⟩ := hs
    exact ⟨rfl, hw.keyed _ _ h ▸ hkey⟩
  | removes _ _ => exact absurd hs.1 (by decide)
  | leaves f hheld => trivial
  | _ => contradiction

/-- Whoever is to fetch an archive has just found a record. -/
theorem Moves.found_record {w w' : World} {c : Circumstance} {s s' : Stage} {id key : String}
    (h : Moves w c s w' s') (hnext : s' = .fetchArchive id key) :
    w' = w ∧ ∃ v, w.versions.get? id = some v := by
  cases h with
  | fetches h _ =>
    obtain ⟨rfl, _⟩ := Stage.fetchArchive.inj hnext
    exact ⟨rfl, _, h⟩
  | _ => contradiction

/-- The look at the record does not end a download with an archive. -/
theorem step_lookUp_ne_archive (w : World) (c : Circumstance) (subject : Subject) (id : String)
    (bytes : ByteArray) :
    (step w c (.lookUp subject .download id)).stage ≠ .done (.ok (.archive bytes)) := by
  intro h
  cases step_answers h

/-- Whoever fetches an archive is given the one that is there. -/
theorem archive?_of_fetched {w : World} {c : Circumstance} {id key : String} {bytes : ByteArray}
    (hkey : Blob.keyOf id = .ok key)
    (h : (step w c (.fetchArchive id key)).stage = .done (.ok (.archive bytes))) :
    w.blobs.archive? id = some bytes := by
  cases step_answers h with
  | archive hget =>
    simp only [Blob.Store.archive?, hkey, hget]
    rfl

namespace System

/-- The version was uploaded at a moment of a call: at a step that the caller took or later. -/
def UploadedDuring (s : System) (caller : Nat) (id : String) : Prop :=
  ∃ n e, s.history[n]? = some e ∧ e.caller = caller ∧ ∃ m ∈ s.moments.drop n, m.Uploaded id

/-- A caller took a step, and if the version was ever uploaded, it was so at that step or later. -/
def Looked (s : System) (caller : Nat) (id : String) : Prop :=
  ∃ n e, s.history[n]? = some e ∧ e.caller = caller ∧
    ((∃ m ∈ s.moments, m.Uploaded id) → ∃ m ∈ s.moments.drop n, m.Uploaded id)

/-- What is known of downloads under way. -/
structure Downloading (s : System) : Prop where
  fetches : ∀ caller subject id stage, s.At caller (.download subject id) stage → stage.Fetches id
  looked : ∀ caller call id key, s.At caller call (.fetchArchive id key) → s.Looked caller id

variable {s s' : System} {maxSize : Nat} {id : String} {caller : Nat} {call : Call} {stage : Stage}

theorem downloading_start (blobs : Blob.Store) : (start blobs).Downloading where
  fetches caller subject id stage h := by simp [start, At] at h
  looked caller call id key h := by simp [start, At] at h

theorem Downloading.begun (hs : s.Downloading) (call : Call) :
    (s.begun maxSize call).Downloading := by
  refine ⟨?_, ?_⟩
  · intro caller subject id stage hat
    rcases at_begun.mp hat with hat | ⟨_, rfl, rfl⟩
    · exact hs.fetches caller subject id stage hat
    · exact ⟨rfl, rfl⟩
  · intro caller call' id key hat
    rcases at_begun.mp hat with hat | ⟨_, _, hstage⟩
    · exact hs.looked caller call' id key hat
    · have hopens := opening_opens maxSize call
      rw [← hstage] at hopens
      cases hopens

theorem Downloading.abandoned (hs : s.Downloading) (h : s.At caller call stage) :
    (s.abandoned caller call stage).Downloading := by
  refine ⟨?_, ?_⟩
  · intro other subject id stage' hat
    exact hs.fetches other subject id stage' ((at_abandoned h).mp hat).2
  · intro other call' id key hat
    have hlooked := hs.looked other call' id key ((at_abandoned h).mp hat).2
    unfold Looked at hlooked ⊢
    rwa [moments_abandoned]

theorem Looked.advanced {c : Circumstance} (h : s.Looked caller id) :
    (s.advanced c call stage).Looked caller id := by
  obtain ⟨n, e, he, hcaller, hlater⟩ := h
  have hn := (List.getElem?_eq_some_iff.mp he).1
  have hdrop : (s.advanced c call stage).moments.drop n =
      s.moments.drop n ++ [(s.advanced c call stage).world.versions] := by
    rw [moments_advanced, List.drop_append_of_le_length (by simp [moments]; omega)]
  refine ⟨n, e, (List.getElem?_append_left hn).trans he, hcaller, ?_⟩
  rw [hdrop, moments_advanced]
  rintro ⟨m, hm, hup⟩
  rcases List.mem_append.mp hm with hm | hm
  · obtain ⟨m', hm', hup'⟩ := hlater ⟨m, hm, hup⟩
    exact ⟨m', List.mem_append_left _ hm', hup'⟩
  · exact ⟨m, List.mem_append_right _ hm, hup⟩

section

variable {c : Circumstance} (hd : s.Dated)
include hd

/-- If a version was ever uploaded before a look finds its record, it is uploaded at that look. -/
theorem looked_advanced {key : String}
    (hnext : (step s.world c stage).stage = .fetchArchive id key) :
    (s.advanced c call stage).Looked c.caller id := by
  obtain ⟨hworld, v, hv⟩ := (step_moves s.world c stage).found_record hnext
  have hsame : (s.advanced c call stage).world.versions = s.world.versions :=
    congrArg World.versions hworld
  have hdrop : (s.advanced c call stage).moments.drop s.history.length =
      [s.world.versions, s.world.versions] := by
    rw [moments_advanced, hsame]
    simp [moments]
  refine ⟨s.history.length, s.entry c stage, by simp [System.advanced], rfl, ?_⟩
  rw [hdrop, moments_advanced, hsame]
  rintro ⟨m, hm, hup⟩
  refine ⟨s.world.versions, List.mem_cons_self, Versions.uploaded_iff.mpr ⟨v, hv, ?_⟩⟩
  have hm' : m ∈ s.moments := by
    rcases List.mem_append.mp hm with hm | hm
    · exact hm
    · exact List.mem_singleton.mp hm ▸ mem_moments_now s
  exact hd.kept id m hm' hup v hv

/-- A download that goes on fetches what it has looked up. -/
theorem Downloading.advanced (hs : s.Invariant maxSize) (hat : s.At c.caller call stage)
    (hdown : s.Downloading) : (s.advanced c call stage).Downloading := by
  refine ⟨?_, ?_⟩
  · intro other subject id stage' hat'
    have hwhere := (at_advanced hat).mp hat'
    split at hwhere
    · obtain ⟨rfl, rfl⟩ := hwhere
      exact (step_moves s.world c stage).keeps_fetching hs.orderly.sane
        (hdown.fetches _ _ _ _ hat)
    · exact hdown.fetches other subject id stage' hwhere
  · intro other call' id key hat'
    have hwhere := (at_advanced hat).mp hat'
    split at hwhere
    · next heq =>
      subst heq
      exact looked_advanced hd hwhere.2.symm
    · exact (hdown.looked other call' id key hwhere).advanced

end

theorem Downloading.changes (hdown : s.Downloading) (hs : s.Invariant maxSize) (hd : s.Dated)
    (h : s.Changes maxSize s') : s'.Downloading := by
  cases h with
  | begins call _ => exact hdown.begun call
  | advances c hat _ => exact hdown.advanced hd hs hat
  | abandons hat => exact hdown.abandoned hat

/-! Runs. -/

/-- What is known of versions, archives and downloads after every run that started with some
archives. -/
structure Accounted (blobs : Blob.Store) (maxSize : Nat) (s : System) : Prop where
  invariant : s.Invariant maxSize
  dated : s.Dated
  sourced : s.Sourced blobs maxSize
  downloading : s.Downloading

theorem Reaches.accounted {blobs : Blob.Store} (hopened : blobs.Opened)
    (h : (start blobs).Reaches maxSize s) : s.Accounted blobs maxSize := by
  refine h.induction (P := Accounted blobs maxSize) ?_ ?_
  · exact ⟨Reachable.invariant ⟨blobs, hopened, .refl⟩, dated_start blobs, sourced_start blobs,
      downloading_start blobs⟩
  · intro t u ht hchange
    exact ⟨ht.invariant.changes hchange, ht.dated.changes ht.invariant hchange,
      ht.sourced.changes ht.dated ht.invariant hchange,
      ht.downloading.changes ht.invariant ht.dated hchange⟩

/-- A download that ends with bytes ends with the archive of its version. Either the version was
uploaded while the call was under way, and the archive is that of the one upload that made it so; or
the version has never been uploaded, and the archive is that of an upload that stored it and did not
come to say so, or was there before all calls. -/
theorem archive_downloaded {blobs : Blob.Store} (hopened : blobs.Opened)
    (h : (start blobs).Reaches maxSize s) {c : Circumstance} {subject : Subject}
    {bytes : ByteArray} (hat : s.At c.caller (.download subject id) stage)
    (hgoing : ∀ answer, stage ≠ .done answer)
    (hends : (step s.world c stage).stage = .done (.ok (.archive bytes))) :
    s.world.blobs.archive? id = some bytes ∧
      ((s.UploadedDuring c.caller id ∧ ∃ uploader, s.MarkedBy maxSize id bytes uploader) ∨
        (s.NeverUploaded id ∧
          ((∃ uploader, s.LeftBy maxSize id bytes uploader) ∨
            blobs.archive? id = some bytes))) := by
  obtain ⟨_, hd, hsourced, hdown⟩ := h.accounted hopened
  have hfetches := hdown.fetches _ _ _ _ hat
  cases stage with
  | lookUp subject purpose other =>
    obtain ⟨rfl, rfl⟩ := hfetches
    exact absurd hends (step_lookUp_ne_archive _ _ _ _ _)
  | fetchArchive other key =>
    obtain ⟨rfl, hkey⟩ := hfetches
    have harchive := archive?_of_fetched hkey hends
    refine ⟨harchive, ?_⟩
    cases hsourced _ _ harchive with
    | marked uploader hmarked =>
      -- The version was uploaded at some moment, so it was so at the look of this call or later.
      obtain ⟨e, he, _, hup⟩ := hmarked.settled
      have hmem : e ∈ s.history := (List.mem_filter.mp (he ▸ List.mem_singleton.mpr rfl)).1
      obtain ⟨n, look, hlook, hcaller, hlater⟩ := hdown.looked _ _ _ _ hat
      exact .inl ⟨⟨n, look, hlook, hcaller, hlater ⟨_, hd.linked e hmem, hup⟩⟩, _, hmarked⟩
    | left uploader hleft hnever => exact .inr ⟨hnever, .inl ⟨_, hleft⟩⟩
    | original horiginal hnever => exact .inr ⟨hnever, .inr horiginal⟩
  | done answer => exact absurd rfl (hgoing answer)
  | _ => contradiction

/-! An archive that is handed out although its version is pending. -/

/-- A version is created, its archive is stored, and its record is about to say so. -/
def deposited : System := (created "a").staged 4 [.upload "cv-a" ⟨#[1, 2]⟩] [1, 1, 1]

/-- The records cannot be changed while the upload takes its last step. -/
def outOfOrder : Circumstance :=
  ⟨1, ⟨0, 0⟩, (Uuid.ofRandom []).render, some (.fail (.internal "write failed")), none⟩

/-- The upload has failed, and a download has found the record. -/
def spilled : System :=
  ((deposited.advanced outOfOrder (.upload "cv-a" ⟨#[1, 2]⟩)
    (.markUploaded ⟨"cv-a", 0⟩ "cv-a")).begun 4 (.download ⟨"bob", .member⟩ "cv-a")).proceed 2

def fetching : Stage := .fetchArchive "cv-a" "configs/cv-a.tar.gz"

/-- Nothing is out of order while the download takes its last step. -/
def inOrder : Circumstance := ⟨2, ⟨1, 0⟩, (Uuid.ofRandom []).render, none, none⟩

theorem reaches_spilled : (start .empty).Reaches 4 spilled := by
  have hdeposited : (start .empty).Reaches 4 deposited :=
    reaches_created "a" (by simp [Call.drawn?]) _
  have hmarking : deposited.At outOfOrder.caller (.upload "cv-a" ⟨#[1, 2]⟩)
      (.markUploaded ⟨"cv-a", 0⟩ "cv-a") := rfl
  have hfailed := hdeposited.step (.advances outOfOrder hmarking ⟨_, rfl⟩)
  exact (hfailed.step (.begins (.download ⟨"bob", .member⟩ "cv-a") fun _ h => by
    contradiction)).trans (reaches_foldl_proceed [2] 4 _)

theorem spilled_at : spilled.At inOrder.caller (.download ⟨"bob", .member⟩ "cv-a") fetching := rfl

theorem spilled_ends :
    (step spilled.world inOrder fetching).stage = .done (.ok (.archive ⟨#[1, 2]⟩)) := rfl

/-- A download hands out an archive although the version is pending and has always been. -/
theorem spilled_handed_out :
    (start .empty).Reaches 4 spilled ∧
      spilled.At inOrder.caller (.download ⟨"bob", .member⟩ "cv-a") fetching ∧
      (step spilled.world inOrder fetching).stage = .done (.ok (.archive ⟨#[1, 2]⟩)) ∧
      (spilled.world.versions.get? "cv-a").map (·.status) = some .pending ∧
      ¬ spilled.UploadedDuring inOrder.caller "cv-a" := by
  have hnever : ∀ m ∈ spilled.moments, ¬ m.Uploaded "cv-a" := by decide +kernel
  refine ⟨reaches_spilled, spilled_at, spilled_ends, rfl, ?_⟩
  rintro ⟨n, e, _, _, m, hm, hup⟩
  exact hnever m (List.mem_of_mem_drop hm) hup

/-- The archive is that of the failed upload. -/
theorem spilled_left :
    Blob.Store.Opened .empty ∧ (start .empty).Reaches 4 spilled ∧
      spilled.At inOrder.caller (.download ⟨"bob", .member⟩ "cv-a") fetching ∧
      (∀ answer, fetching ≠ .done answer) ∧
      (step spilled.world inOrder fetching).stage = .done (.ok (.archive ⟨#[1, 2]⟩)) ∧
      spilled.NeverUploaded "cv-a" ∧ ∃ uploader, spilled.LeftBy 4 "cv-a" ⟨#[1, 2]⟩ uploader := by
  have hgoing : ∀ answer, fetching ≠ .done answer := fun _ => nofun
  have hnever : ∀ m ∈ spilled.moments, ¬ m.Uploaded "cv-a" := by decide +kernel
  obtain ⟨_, hcases⟩ := archive_downloaded .memory reaches_spilled spilled_at hgoing spilled_ends
  rcases hcases with ⟨⟨n, _, _, _, m, hm, hup⟩, _⟩ | ⟨_, hleft | horiginal⟩
  · exact absurd hup (hnever m (List.mem_of_mem_drop hm))
  · exact ⟨.memory, reaches_spilled, spilled_at, hgoing, spilled_ends, hnever, hleft⟩
  · exact absurd horiginal (by decide)

end System

end ConfigRegistry.Service
