import ConfigRegistry.Proofs.Service.Completion

/-!
Archives without a record. A deletion takes no lock: it removes the record of a version and then its
archive, and between its steps an upload that has found the version pending may not have stored its
archive yet. If it stores the archive after the deletion is over, the archive stays although the
version has no record. With nothing out of order this is the only way in which that happens.
-/
namespace ConfigRegistry.Service

def upkeep : Regime where
  begins
    | .create .. | .upload .. | .delete .. => True
    | _ => False
  meets c := c.store = none ∧ c.blob = none

/-- The step is a caller's, from a stage. -/
structure Pace.Of (p : Pace) (caller : Nat) (stage : Stage) : Prop where
  caller : p.circumstance.caller = caller
  stage : p.stage = stage

/-- A deletion overtook an upload: after the upload's look at the record and before it stored its
archive, the deletion removed the record and then what there was of an archive. -/
inductive Overtaken (log : List Pace) (id : String) : Prop
  | intro {uploader remover : Nat} {g : Guard} {key : String} {data : ByteArray}
      {check removal clearing storing : Pace} (hkey : Blob.keyOf id = .ok key)
      (hcheck : check.Of uploader (.checkPending g data))
      (hremoval : removal.Of remover (.removeRecord id))
      (hclearing : clearing.Of remover (.removeArchive key))
      (hstoring : storing.Of uploader (.storeArchive g id key data))
      (h : [check, removal, clearing, storing].Sublist log) : Overtaken log id

theorem Overtaken.append {log : List Pace} {id : String} (h : Overtaken log id) (p : Pace) :
    Overtaken (log ++ [p]) id := by
  cases h with
  | intro hkey hcheck hremoval hclearing hstoring h =>
    exact .intro hkey hcheck hremoval hclearing hstoring (h.trans (List.sublist_append_left _ _))

variable {maxSize : Nat} {w w' : World} {c : Circumstance} {s s' : Stage}

/-- Whoever removes a record goes on to remove the archive. -/
theorem Moves.clears_of_erased (h : Moves w c s w' s') {id key : String}
    (hkey : Blob.keyOf id = .ok key) (hv : w.versions.get? id ≠ none)
    (hgone : w'.versions.get? id = none) : s = .removeRecord id ∧ s' = .removeArchive key := by
  obtain ⟨v, hv⟩ := Option.ne_none_iff_exists'.mp hv
  have hchange := h.record id
  rw [hv, hgone] at hchange
  cases hchange with
  | erased hstage =>
    subst hstage
    refine ⟨rfl, ?_⟩
    cases h with
    | ends _ _ _ =>
      rw [hv] at hgone
      contradiction
    | erases _ hkey' =>
      rw [hkey] at hkey'
      exact congrArg Stage.removeArchive (Except.ok.inj hkey').symm
    | erasesOnly _ hkey' =>
      rw [hkey] at hkey'
      contradiction
    | leaves _ hheld => contradiction

/-- Only a look at the record leads to the stage at which an archive is stored. -/
theorem Moves.checked (h : Moves w c s w' s') (hw : w.Sane) {g : Guard} {id key : String}
    {data : ByteArray} (hnext : s' = .storeArchive g id key data) :
    s = .checkPending g data ∧ w' = w ∧ w.versions.get? id ≠ none := by
  cases h with
  | checks h _ _ =>
    obtain ⟨rfl, rfl, _, rfl⟩ := Stage.storeArchive.inj hnext
    exact ⟨rfl, rfl, by rw [hw.keyed _ _ h, h]; simp⟩
  | _ => contradiction

/-- A store in memory keeps archives under the keys of versions alone. -/
def World.InMemory (w : World) : Prop :=
  ∃ archives, w.blobs = .memory archives ∧
    ∀ key data, archives.get? key = some data → ∃ id, Blob.keyOf id = .ok key

theorem Moves.inMemory (h : Moves w c s w' s') {call : Call} (hs : s.Serves maxSize call)
    (hw : w.InMemory) : w'.InMemory := by
  obtain ⟨archives, hblobs, hkeys⟩ := hw
  cases h with
  | @stores g id key data blobs events h =>
    obtain ⟨rfl, _⟩ : Blob.Store.memory (archives.insert key data) = blobs ∧ _ := by
      simpa [hblobs, Blob.Store.put] using h
    refine ⟨_, rfl, fun other data' hother => ?_⟩
    rw [Table.get?_insert] at hother
    split at hother
    · next heq => exact ⟨id, heq ▸ hs.2.2.2⟩
    · exact hkeys other data' hother
  | breaks h => simp [hblobs, Blob.Store.put] at h
  | @clears key result blobs events h =>
    obtain ⟨_, rfl, _⟩ : _ ∧ Blob.Store.memory (archives.erase key) = blobs ∧ _ := by
      simpa [hblobs, Blob.Store.delete] using h
    refine ⟨_, rfl, fun other data' hother => ?_⟩
    rw [Table.get?_erase] at hother
    split at hother
    · contradiction
    · exact hkeys other data' hother
  | _ => exact ⟨archives, hblobs, hkeys⟩

/-- In memory the archive of a version is gone once it is removed. -/
theorem archive?_removed (hw : w.InMemory) {id key : String} (hkey : Blob.keyOf id = .ok key)
    (hblob : c.blob = none) :
    (step w c (.removeArchive key)).world.blobs.archive? id = none := by
  obtain ⟨archives, hblobs, _⟩ := hw
  have hstep : (step w c (.removeArchive key)).world.blobs = .memory (archives.erase key) := by
    simp [step, hblob, hblobs, Blob.Store.delete]
  simp [hstep, Blob.Store.archive?_memory _ hkey]

namespace System

/-- An upload that is about to store its archive has looked at the record; and if the record is gone
since, a deletion removed it meanwhile, which has yet to remove the archive or has done so. -/
inductive Pursued (s : System) (log : List Pace) (uploader : Nat) (g : Guard) (id key : String)
    (data : ByteArray) : Prop
  | present {check : Pace} (hcheck : check.Of uploader (.checkPending g data))
      (hrecord : s.world.versions.get? id ≠ none) (h : [check].Sublist log) :
      Pursued s log uploader g id key data
  | removing {remover : Nat} {call : Call} {check removal : Pace}
      (hcheck : check.Of uploader (.checkPending g data))
      (hremoval : removal.Of remover (.removeRecord id))
      (hat : s.At remover call (.removeArchive key)) (h : [check, removal].Sublist log) :
      Pursued s log uploader g id key data
  | removed {remover : Nat} {check removal clearing : Pace}
      (hcheck : check.Of uploader (.checkPending g data))
      (hremoval : removal.Of remover (.removeRecord id))
      (hclearing : clearing.Of remover (.removeArchive key))
      (h : [check, removal, clearing].Sublist log) : Pursued s log uploader g id key data

/-- What is known of archives in memory while calls create, upload and delete. -/
structure Tended (s : System) (log : List Pace) : Prop where
  memory : s.world.InMemory
  pursued : ∀ caller call g id key data, s.At caller call (.storeArchive g id key data) →
    s.Pursued log caller g id key data
  kept : ∀ id, s.world.blobs.archive? id ≠ none → s.world.versions.get? id ≠ none ∨
    (∃ caller call stage, s.At caller call stage ∧ stage.Clears id) ∨ Overtaken log id

variable {s t : System} {log : List Pace} {call : Call} {stage : Stage} {id : String}

theorem tended_start : (start .empty).Tended [] where
  memory := ⟨.empty, rfl, fun key data h => by simp at h⟩
  pursued caller call g id key data h := by simp [start, At] at h
  kept id h := by
    cases hkey : Blob.keyOf id with
    | error fault => simp [Blob.Store.archive?, hkey] at h
    | ok key => simp [start, Blob.Store.empty, Blob.Store.archive?_memory _ hkey] at h

theorem Tended.begun (hs : s.Tended log) (call : Call) : (s.begun maxSize call).Tended log where
  memory := hs.memory
  pursued caller call' g id key data h := by
    rcases at_begun.mp h with hat | ⟨_, _, hstage⟩
    · cases hs.pursued caller call' g id key data hat with
      | present hcheck hrecord h => exact .present hcheck hrecord h
      | removing hcheck hremoval hat h =>
        exact .removing hcheck hremoval (at_begun.mpr (.inl hat)) h
      | removed hcheck hremoval hclearing h => exact .removed hcheck hremoval hclearing h
    · have hopens := opening_opens maxSize call
      rw [← hstage] at hopens
      exact absurd (Opens.traceless hopens id).1 (by simp [Stage.stored?])
  kept id h := by
    rcases hs.kept id h with hrecord | ⟨caller, call', stage, hat, hclears⟩ | hovertaken
    · exact .inl hrecord
    · exact .inr (.inl ⟨caller, call', stage, at_begun.mpr (.inl hat), hclears⟩)
    · exact .inr (.inr hovertaken)

/-- A step while an upload is about to store its archive. -/
theorem Pursued.advanced {uploader : Nat} {g : Guard} {key : String} {data : ByteArray}
    (h : s.Pursued log uploader g id key data) (hat : s.At c.caller call stage)
    (hkey : Blob.keyOf id = .ok key) :
    (s.advanced c call stage).Pursued (log ++ [⟨s.world, c, stage⟩]) uploader g id key data := by
  have hnow : (s.advanced c call stage).At c.caller call (step s.world c stage).stage :=
    (at_advanced hat).mpr (by simp)
  cases h with
  | present hcheck hrecord h =>
    by_cases hgone : (step s.world c stage).world.versions.get? id = none
    · obtain ⟨hstage, hnext⟩ := (step_moves s.world c stage).clears_of_erased hkey hrecord hgone
      exact .removing hcheck ⟨rfl, hstage⟩ (hnext ▸ hnow) (h.append (.refl _))
    · exact .present hcheck hgone (h.trans (List.sublist_append_left _ _))
  | @removing remover _ _ _ hcheck hremoval hat' h =>
    by_cases hself : remover = c.caller
    · subst hself
      exact .removed hcheck hremoval ⟨rfl, (hat.unique hat').2⟩ (h.append (.refl _))
    · exact .removing hcheck hremoval ((at_advanced hat).mpr (by rwa [if_neg hself]))
        (h.trans (List.sublist_append_left _ _))
  | removed hcheck hremoval hclearing h =>
    exact .removed hcheck hremoval hclearing (h.trans (List.sublist_append_left _ _))

/-- After a step too, an archive has a record or a deletion about to clear it, or was overtaken. -/
theorem Tended.advanced (hs : s.Tended log) (ho : s.Orderly maxSize)
    (hat : s.At c.caller call stage) (hmark : '/' ∉ c.mark.toList) (hblob : c.blob = none) :
    (s.advanced c call stage).Tended (log ++ [⟨s.world, c, stage⟩]) := by
  have hserves := ho.serves _ _ _ hat
  have hmoves := step_moves s.world c stage
  have hnow : (s.advanced c call stage).At c.caller call (step s.world c stage).stage :=
    (at_advanced hat).mpr (by simp)
  refine ⟨hmoves.inMemory hserves hs.memory, ?_, ?_⟩
  · intro caller call' g id key data hat'
    have hwhere := (at_advanced hat).mp hat'
    split at hwhere
    · next heq =>
      obtain ⟨_, hnext⟩ := hwhere
      obtain ⟨hstage, hworld, hrecord⟩ := hmoves.checked ho.sane hnext.symm
      refine .present ⟨heq.symm, hstage⟩ ?_ (List.sublist_append_right _ _)
      show (step s.world c stage).world.versions.get? id ≠ none
      rwa [hworld]
    · exact (hs.pursued caller call' g id key data hwhere).advanced hat
        (ho.serves _ _ _ hwhere).2.2.2
  · intro id harchive
    have hchange := hmoves.archive ho.sane hserves hmark id
    cases hnew : (step s.world c stage).world.blobs.archive? id with
    | none => exact absurd hnew harchive
    | some data =>
      obtain ⟨key, hkey⟩ : ∃ key, Blob.keyOf id = .ok key := by
        cases hkey : Blob.keyOf id with
        | ok key => exact ⟨key, rfl⟩
        | error fault => simp [Blob.Store.archive?, hkey] at hnew
      rw [hnew] at hchange
      generalize hold : s.world.blobs.archive? id = before at hchange
      cases hchange with
      | same _ =>
        -- the archive was there before, with one of three reasons, and each lasts or gives way
        rcases hs.kept id (by simp [hold]) with hrecord | ⟨caller, call', stage', hat', hclears⟩ |
          hovertaken
        · by_cases hgone : (step s.world c stage).world.versions.get? id = none
          · obtain ⟨_, hnext⟩ := hmoves.clears_of_erased hkey hrecord hgone
            exact .inr (.inl ⟨_, _, _, hnow, key, hnext, hkey⟩)
          · exact .inl hgone
        · by_cases hself : caller = c.caller
          · subst hself
            obtain ⟨_, rfl⟩ := hat.unique hat'
            obtain ⟨key', rfl, hkey'⟩ := hclears
            rw [archive?_removed hs.memory hkey' hblob] at hnew
            contradiction
          · exact .inr (.inl ⟨caller, call', stage', (at_advanced hat).mpr (by rwa [if_neg hself]),
              hclears⟩)
        · exact .inr (.inr (hovertaken.append _))
      | @stored g key' _ _ hstage _ =>
        subst hstage
        have hversions := versions_storeArchive s.world c g id key' data
        -- the archive is new: what became of the record since the upload found it pending
        cases hs.pursued _ _ _ _ _ _ hat with
        | present _ hrecord _ =>
          refine .inl ?_
          show (step s.world c _).world.versions.get? id ≠ none
          rwa [hversions]
        | @removing remover _ _ _ _ _ hat' _ =>
          have hne : remover ≠ c.caller := by
            rintro rfl
            obtain ⟨_, hstage⟩ := hat.unique hat'
            contradiction
          exact .inr (.inl ⟨remover, _, _, (at_advanced hat).mpr (by rwa [if_neg hne]), key', rfl,
            hserves.2.2.2⟩)
        | removed hcheck hremoval hclearing h =>
          exact .inr (.inr (.intro hserves.2.2.2 hcheck hremoval hclearing ⟨rfl, rfl⟩
            (h.append (.refl _))))

theorem Runs.tended (h : (start .empty).Runs maxSize upkeep log t) : t.Tended log := by
  have hstart : (start .empty).Orderly maxSize := orderly_start .memory
  induction h with
  | refl => exact tended_start
  | begins _ call _ _ ih => exact ih.begun call
  | advances h c hat hmark hmeets ih =>
    exact ih.advanced (h.orderly hstart) hat (slash_not_mem_mark hmark) hmeets.2

/-- Once no call is under way, every archive is that of a version with a record, or of a version
whose deletion overtook an upload. -/
theorem archive_accounted (h : (start .empty).Runs maxSize upkeep log t) (hquiet : t.Quiet)
    {key : String} {data : ByteArray} (hdata : (t.world.blobs.get key).1 = .ok data) :
    ∃ id, Blob.keyOf id = .ok key ∧
      (t.world.versions.get? id ≠ none ∨ Overtaken log id) := by
  have ht := h.tended
  obtain ⟨archives, hblobs, hkeys⟩ := ht.memory
  have hget : archives.get? key = some data := by
    cases hget : archives.get? key with
    | none => simp [hblobs, Blob.Store.get, hget] at hdata
    | some other => simpa [hblobs, Blob.Store.get, hget] using hdata
  obtain ⟨id, hkey⟩ := hkeys key data hget
  have harchive : t.world.blobs.archive? id ≠ none := by
    simp [hblobs, Blob.Store.archive?_memory _ hkey, hget]
  refine ⟨id, hkey, ?_⟩
  rcases ht.kept id harchive with hrecord | ⟨caller, call, stage, hat, key', rfl, _⟩ | hovertaken
  · exact .inl hrecord
  · obtain ⟨answer, hdone⟩ := hquiet _ _ _ hat
    contradiction
  · exact .inr hovertaken

/-! A deletion that overtakes an upload. -/

/-- A version is created, an upload finds it pending, an administrator deletes it, and only then
does the upload store its archive. -/
def stray : System :=
  (created "a").staged 4 [.upload "cv-a" ⟨#[1, 2]⟩, .delete ⟨"ada", .admin⟩ "cv-a"]
    [1, 1, 2, 2, 2, 1, 1]

theorem stray_runs : ∃ log, (start .empty).Runs 4 upkeep log stray := by
  obtain ⟨first, hfirst⟩ := runs_created (r := upkeep) "a" trivial fun _ => ⟨rfl, rfl⟩
  obtain ⟨rest, hrest⟩ : ∃ log, (created "a").Runs 4 upkeep log stray :=
    runs_staged (r := upkeep) (by simp [Call.drawn?, upkeep]) (fun _ => ⟨rfl, rfl⟩) _ _
  exact ⟨first ++ rest, hfirst.trans hrest⟩

theorem stray_quiet : stray.Quiet := quiet_of_toil rfl

theorem stray_accounted : ∃ log, (start .empty).Runs 4 upkeep log stray ∧ stray.Quiet ∧
    ∃ data, (stray.world.blobs.get "configs/cv-a.tar.gz").1 = .ok data ∧
      ∃ id, Blob.keyOf id = .ok "configs/cv-a.tar.gz" ∧
        (stray.world.versions.get? id ≠ none ∨ Overtaken log id) := by
  obtain ⟨log, hruns⟩ := stray_runs
  exact ⟨log, hruns, stray_quiet, _, rfl, archive_accounted hruns stray_quiet rfl⟩

/-- After that run the archive is there although no version has a record. -/
theorem stray_archive_remains : ∃ log s, (start .empty).Runs 4 upkeep log s ∧ s.Quiet ∧
    ∃ key data, (s.world.blobs.get key).1 = .ok data ∧
      ¬ ∃ id, Blob.keyOf id = .ok key ∧ s.world.versions.get? id ≠ none := by
  obtain ⟨log, hruns⟩ := stray_runs
  refine ⟨log, stray, hruns, stray_quiet, "configs/cv-a.tar.gz", ⟨#[1, 2]⟩, rfl, ?_⟩
  rintro ⟨id, _, hrecord⟩
  exact hrecord rfl

end System

end ConfigRegistry.Service
