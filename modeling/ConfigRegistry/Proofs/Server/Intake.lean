import ConfigRegistry.Proofs.Http.Bodies
import ConfigRegistry.Proofs.Sequencing
import ConfigRegistry.Server.Versions

/-!
Archives on their way in. Whether an archive is taken, refused as too large or cut off depends on
the bytes that arrive in front of the breach alone, and an upload changes nothing unless all of them
are there and fit.
-/
namespace ConfigRegistry.Server

open Http

variable {limit : Nat} {b : Body}

/-- What the reading of an archive comes to: its size decides first. -/
theorem readArchive_eq (limit : Nat) (b : Body) :
    Versions.readArchive limit b =
      if limit < b.intact.joined.size then .ok none
      else match b.breach? with
        | some reason => .error (.invalidInput ("Failed to read request body: " ++ reason))
        | none => .ok (some b.intact.joined) := by
  rw [Versions.readArchive, Body.read_eq]
  by_cases hlarge : limit < b.intact.joined.size
  · rw [if_pos hlarge, if_pos hlarge]
  · rw [if_neg hlarge, if_neg hlarge]
    cases b.breach? with
    | none => rfl
    | some reason => rfl

theorem readArchive_eq_none_iff :
    Versions.readArchive limit b = .ok none ↔ limit < b.intact.joined.size := by
  rw [readArchive_eq]
  split
  · next hlarge => exact iff_of_true rfl hlarge
  · next hfits =>
    refine iff_of_false ?_ hfits
    cases b.breach? with
    | none => simp
    | some reason => simp

theorem readArchive_eq_error_iff :
    (∃ f, Versions.readArchive limit b = .error f) ↔
      (∃ reason, b.breach? = some reason) ∧ b.intact.joined.size ≤ limit := by
  rw [readArchive_eq]
  split
  · next hlarge => simp [Nat.not_le.mpr hlarge]
  · next hfits =>
    rw [and_iff_left (Nat.not_lt.mp hfits)]
    cases b.breach? with
    | none => simp
    | some reason => simp

/-- An archive is read in full, or it is not read at all. -/
theorem readArchive_eq_some_iff {data : ByteArray} :
    Versions.readArchive limit b = .ok (some data) ↔
      b.breach? = none ∧ b.joined.size ≤ limit ∧ data = b.joined := by
  rw [readArchive_eq]
  cases hbreach : b.breach? with
  | none =>
    rw [Body.intact_eq_self hbreach]
    split
    · next hlarge => simp [Nat.not_le.mpr hlarge]
    · next hfits => simp [Nat.not_lt.mp hfits, eq_comm]
  | some reason =>
    split
    · simp
    · simp

/-- An upload changes nothing, or the stated length is within the limit and the archive is read. -/
theorem upload_cases (a : App) (s : State) (o : Occasion) (id : String) (h : Headers) (b : Body) :
    (Versions.upload a s o id h b).state = s ∨
      (∀ n, h.number? "content-length" = some n → n ≤ a.settings.maxArchiveSize) ∧
        ∃ data, Versions.readArchive a.settings.maxArchiveSize b = .ok (some data) := by
  unfold Versions.upload
  simp only
  split
  · exact .inl rfl
  · next hstated =>
    split
    · exact .inl rfl
    · exact .inl rfl
    · next data hread =>
      refine .inr ⟨fun n hn => ?_, data, hread⟩
      simpa [hn] using hstated

/-- An archive is too large exactly if more bytes than the limit arrive in front of the breach, cut
off exactly if there is a breach and no more than that arrives in front of it, and otherwise taken
whole. So the frames that the bytes come in make no difference, and an upload leaves everything as
it is unless the stated length is within the limit and the archive was taken. -/
theorem archive_read (limit : Nat) (b : Body) :
    (Versions.readArchive limit b = .ok none ↔ limit < b.intact.joined.size) ∧
    ((∃ f, Versions.readArchive limit b = .error f) ↔
      (∃ reason, b.breach? = some reason) ∧ b.intact.joined.size ≤ limit) ∧
    (∀ data, Versions.readArchive limit b = .ok (some data) ↔
      b.breach? = none ∧ b.joined.size ≤ limit ∧ data = b.joined) ∧
    (∀ b' : Body, b'.intact.joined = b.intact.joined → b'.breach? = b.breach? →
      Versions.readArchive limit b' = Versions.readArchive limit b) ∧
    ∀ (a : App) (s : State) (o : Occasion) (id : String) (h : Headers),
      (Versions.upload a s o id h b).state = s ∨
        (∀ n, h.number? "content-length" = some n → n ≤ a.settings.maxArchiveSize) ∧
          ∃ data, Versions.readArchive a.settings.maxArchiveSize b = .ok (some data) := by
  refine ⟨readArchive_eq_none_iff, readArchive_eq_error_iff, fun data => readArchive_eq_some_iff,
    ?_, fun a s o id h => upload_cases a s o id h b⟩
  intro b' hbytes hbreach
  rw [readArchive_eq, readArchive_eq, hbytes, hbreach]

end ConfigRegistry.Server
